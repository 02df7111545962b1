/-
**What the answer of a resolver depends on.**

Resolving looks at the keys of a source, at the keys in the sources that these are bound to, and so
on, and at nothing else.  So two resolvers give the same answer if their bindings agree on the keys
that are needed, whatever else is bound in the one or the other: a success with the same template,
up to the identity of instances, or the same failure.

Main definitions:

* `QueryWeave.Bindings.AgreeOn` — bindings that agree on all that some keys need.

Main results:

* `QueryWeave.Bindings.AgreeOn.expandKey_eq` — they expand these keys alike;
* `QueryWeave.Resolver.resolve_eq_of_agreeOn` — **their resolvers answer alike**.
-/

import QueryWeave.Proofs.Resolution.Success

set_option relaxedAutoImplicit false
set_option autoImplicit false

namespace QueryWeave

namespace Bindings

/-- Two bindings agree on the keys and on all that these need in the first of them: such a key is
bound to the same source, to the same text, or in neither. -/
def AgreeOn (b b' : Bindings) (keys : List String) : Prop :=
  ∀ key, b.Needed keys key →
    b.fragments.find? key = b'.fragments.find? key ∧ b.vars.find? key = b'.vars.find? key

variable {b b' : Bindings}

theorem AgreeOn.mono {keys keys' : List String} (h : b.AgreeOn b' keys) (hsub : keys' ⊆ keys) :
    b.AgreeOn b' keys' := by
  intro key hkey
  exact h key (hkey.mono hsub)

/-- Bindings that agree on a key agree on the keys in its source. -/
theorem AgreeOn.below {keys : List String} {key : String} {source : Source}
    (h : b.AgreeOn b' keys) (hkey : key ∈ keys) (hvar : b.vars.find? key = none)
    (hsource : b.fragments.find? key = some source) : b.AgreeOn b' source.keys := by
  intro key' hkey'
  exact h key' (hkey'.below hkey hvar hsource)

/-- Agreement can be checked on any keys that hold, with a key, all keys in its source. -/
theorem agreeOn_of_closed {keys closed : List String} (hkeys : keys ⊆ closed)
    (hclosed : ∀ key ∈ closed, ∀ next, b.RefersTo key next → next ∈ closed)
    (hagree : ∀ key ∈ closed,
      b.fragments.find? key = b'.fragments.find? key ∧ b.vars.find? key = b'.vars.find? key) :
    b.AgreeOn b' keys := by
  rintro key ⟨start, hstart, hreach⟩
  refine hagree key ?_
  induction hreach with
  | refl => exact hkeys hstart
  | tail _ hnext ih => exact hclosed _ ih _ hnext

/-- Keys that are expanded alike one by one are so together. -/
theorem expandKeys_congr {path keys : List String}
    (h : ∀ key ∈ keys, b.expandKey path key = b'.expandKey path key) :
    b.expandKeys path keys = b'.expandKeys path keys := by
  induction keys with
  | nil => rw [expandKeys_nil, expandKeys_nil]
  | cons key keys ih =>
      rw [expandKeys_cons, expandKeys_cons, h key List.mem_cons_self,
        ih fun k hk => h k (List.mem_cons_of_mem _ hk)]

/-- A key is expanded alike where the bindings agree on all that it needs. -/
theorem AgreeOn.expandKey_eq (path : List String) :
    ∀ key, b.AgreeOn b' [key] → b.expandKey path key = b'.expandKey path key := by
  induction path using b.induction_on_path with
  | step path ih =>
      intro key hagree
      obtain ⟨hfragment, hvars⟩ := hagree key (.of_mem List.mem_cons_self)
      cases hvar : b.vars.find? key with
      | some text => rw [expandKey_of_var hvar, expandKey_of_var (hvars ▸ hvar)]
      | none =>
          have hvar' : b'.vars.find? key = none := hvars ▸ hvar
          by_cases hpath : key ∈ path
          · rw [expandKey_of_mem hvar hpath, expandKey_of_mem hvar' hpath]
          · cases hsource : b.fragments.find? key with
            | none =>
                rw [expandKey_of_undefined hvar hpath hsource,
                  expandKey_of_undefined hvar' hpath (hfragment ▸ hsource)]
            | some source =>
                have hbelow := hagree.below List.mem_cons_self hvar hsource
                have hkeys : b.expandKeys (path ++ [key]) source.keys =
                    b'.expandKeys (path ++ [key]) source.keys := by
                  refine expandKeys_congr ?_
                  intro next hnext
                  refine ih key (Dictionary.mem_keys_of_find? hsource) hpath next (hbelow.mono ?_)
                  exact List.cons_subset.2 ⟨hnext, List.nil_subset _⟩
                rw [expandKey_of_source hvar hpath hsource,
                  expandKey_of_source hvar' hpath (hfragment ▸ hsource), expandSource_eq,
                  expandSource_eq, hkeys]

/-- A source is expanded alike where the bindings agree on all that its keys need. -/
theorem AgreeOn.expandSource_eq {source : Source} (h : b.AgreeOn b' source.keys) :
    b.expandSource [] source = b'.expandSource [] source := by
  have hkeys : b.expandKeys [] source.keys = b'.expandKeys [] source.keys := by
    refine expandKeys_congr ?_
    intro key hkey
    refine AgreeOn.expandKey_eq [] key (h.mono ?_)
    exact List.cons_subset.2 ⟨hkey, List.nil_subset _⟩
  rw [Bindings.expandSource_eq, Bindings.expandSource_eq, hkeys]

end Bindings

namespace Resolver

/-- New resolvers for bindings that agree on all that a source needs answer alike. -/
theorem shape_resolve_eq_of_agreeOn {b b' : Bindings} {r r' : Resolver} {source : Source}
    (hnew : new b = .ok r) (hnew' : new b' = .ok r') (h : b.AgreeOn b' source.keys) :
    (r.resolve source).1.map Template.shape = (r'.resolve source).1.map Template.shape := by
  rw [shape_resolve_of_new hnew, shape_resolve_of_new hnew', h.expandSource_eq]

/-- Answers of one shape have one document, or fail for one reason. -/
theorem map_documentText_eq_of_map_shape_eq {result result' : Except ResolveError Template}
    (h : result.map Template.shape = result'.map Template.shape) :
    result.map Template.documentText = result'.map Template.documentText := by
  have hfactor : ∀ answer : Except ResolveError Template, answer.map Template.documentText =
      (answer.map Template.shape).map Template.documentText := by
    intro answer
    cases answer with
    | error e => rfl
    | ok t => simp [Except.map]
  rw [hfactor result, hfactor result', h]

/-- **The answer for a source depends on what the source needs, and on nothing else.**  Without keys
that are bound both ways there are resolvers for both bindings.  If the bindings agree on all that
the source needs, then the answers are the same error, or templates of one shape, and so with one
document. -/
theorem resolve_eq_of_agreeOn (b b' : Bindings) (source : Source)
    (hdisjoint : ∀ key ∈ b.fragments.keys, key ∉ b.vars.keys)
    (hdisjoint' : ∀ key ∈ b'.fragments.keys, key ∉ b'.vars.keys)
    (hagree : b.AgreeOn b' source.keys) :
    ∃ r r', new b = .ok r ∧ new b' = .ok r' ∧
      (r.resolve source).1.map Template.shape = (r'.resolve source).1.map Template.shape ∧
      (r.resolve source).1.map Template.documentText =
        (r'.resolve source).1.map Template.documentText := by
  have hnew := new_eq_ok (Bindings.sharedKeys_eq_nil_iff.2 hdisjoint)
  have hnew' := new_eq_ok (Bindings.sharedKeys_eq_nil_iff.2 hdisjoint')
  have hshape := shape_resolve_eq_of_agreeOn hnew hnew' hagree
  exact ⟨_, _, hnew, hnew', hshape, map_documentText_eq_of_map_shape_eq hshape⟩

/-- The bindings `tangled` with changes that `right` does not need: the cycle is gone, `open` can be
resolved, `short` cannot any more for another reason, and a text is new. -/
def mended : Bindings where
  fragments :=
    [("short", ⟨["short"], [""]⟩), ("right", ⟨["leaf", "left"], ["right ", " ", ""]⟩),
      ("open", ⟨[], ["closed"]⟩), ("left", ⟨["leaf"], ["left ", ""]⟩),
      ("leaf", ⟨["id"], ["leaf ", ""]⟩)]
  vars := [("nowhere", "here"), ("id", "1")]

/-- The keys `right` and `id`, with a segment around each. -/
def rightSource : Source := ⟨["right", "id"], ["", " ", ""]⟩

/-- All that `right` and `id` need. -/
def rightNeeds : List String := ["right", "left", "leaf", "id"]

theorem agreeOn_mended : tangled.AgreeOn mended rightSource.keys := by
  have hkeys : rightSource.keys ⊆ rightNeeds := by decide
  have hsources : ∀ key ∈ rightNeeds,
      ((tangled.fragments.find? key).map Source.keys).getD [] ⊆ rightNeeds := by
    decide
  refine Bindings.agreeOn_of_closed hkeys ?_ (by decide)
  rintro key hkey next ⟨-, source, hsource, hnext⟩
  have hsub := hsources key hkey
  rw [hsource] at hsub
  exact hsub hnext

theorem resolve_eq_mended :
    (∀ key ∈ tangled.fragments.keys, key ∉ tangled.vars.keys) ∧
    (∀ key ∈ mended.fragments.keys, key ∉ mended.vars.keys) ∧
    tangled.AgreeOn mended rightSource.keys ∧
    ∃ r r', new tangled = .ok r ∧ new mended = .ok r' ∧
      (r.resolve rightSource).1.map Template.shape =
        (r'.resolve rightSource).1.map Template.shape ∧
      (r.resolve rightSource).1.map Template.documentText =
        (r'.resolve rightSource).1.map Template.documentText :=
  ⟨by decide, by decide, agreeOn_mended,
    resolve_eq_of_agreeOn tangled mended rightSource (by decide) (by decide) agreeOn_mended⟩

end Resolver

end QueryWeave
