/-
**Expanding keys without a memory.**

The key of a fragment refers to the keys in its source; a key bound to a text refers to nothing.
What a template needs is what can be reached from its keys along these references.

What a key stands for can be found without remembering anything: whatever the key needs is expanded
on the spot, each time it is met, and only the path of the keys being expanded is carried along, so
that cycles come to an end.  This is the plain meaning of sources that resolving with a memory is
measured against.  The fragments it makes have no identity: all their serial numbers are zero.

Success is also described without any path, by rules: `Expands b keys splices` says that the keys
stand for the splices.  Each of its derivations is finite, and this alone excludes cycles.

Main definitions:

* `QueryWeave.Bindings.RefersTo`, `QueryWeave.Bindings.Reaches` — one reference, and any number of
  them, one after the other;
* `QueryWeave.Bindings.expandKey`, `QueryWeave.Bindings.expandSource`,
  `QueryWeave.Bindings.expandKeys` — what keys and sources stand for, from left to right and depth
  first;
* `QueryWeave.Bindings.Expands` — the rules of success.

Main results:

* `QueryWeave.Bindings.mem_sharedKeys`, `QueryWeave.Bindings.sharedKeys_eq_nil_iff` — the keys that
  are ambiguous are those that are bound both ways;
* `QueryWeave.Bindings.expands_of_expandKeys` — expanding succeeds by the rules only;
* `QueryWeave.Bindings.Expands.acyclic` — **keys that expand do not come back to themselves**;
* `QueryWeave.Bindings.Expands.expandKeys` — **keys expand on every path that they do not reach**.
-/

import Mathlib.Data.List.Forall2
import Mathlib.Data.Nat.Init
import Mathlib.Logic.Relation
import QueryWeave.Proofs.KeyOrder
import QueryWeave.Proofs.Template.Body
import QueryWeave.Resolution.Resolver

set_option relaxedAutoImplicit false
set_option autoImplicit false

namespace QueryWeave.Bindings

/-! ### The graph of references -/

/-- The shared keys are those that are bound both ways. -/
theorem mem_sharedKeys {b : Bindings} {key : String} :
    key ∈ b.sharedKeys ↔ key ∈ b.fragments.keys ∧ key ∈ b.vars.keys := by
  rw [sharedKeys, KeyOrder.mem_sorted, List.mem_filter, decide_eq_true_eq, and_comm]

/-- Keys are unambiguous when no key is bound both to a source and to a text. -/
theorem sharedKeys_eq_nil_iff {b : Bindings} :
    b.sharedKeys = [] ↔ ∀ key ∈ b.fragments.keys, key ∉ b.vars.keys := by
  rw [List.eq_nil_iff_forall_not_mem]
  simp only [mem_sharedKeys, not_and]

/-- The fragment for `key` has a placeholder for `key'`. -/
def RefersTo (b : Bindings) (key key' : String) : Prop :=
  b.vars.find? key = none ∧ ∃ source, b.fragments.find? key = some source ∧ key' ∈ source.keys

/-- From `key` there is a way along references to `key'`. -/
def Reaches (b : Bindings) : String → String → Prop :=
  Relation.ReflTransGen b.RefersTo

/-- What a key refers to is in its source. -/
theorem RefersTo.mem_keys {b : Bindings} {key key' : String} {source : Source}
    (h : b.RefersTo key key') (hsource : b.fragments.find? key = some source) :
    key' ∈ source.keys := by
  obtain ⟨-, source', hsource', hkey'⟩ := h
  obtain rfl : source' = source := Option.some_inj.1 (hsource'.symm.trans hsource)
  exact hkey'

theorem Reaches.refl (b : Bindings) (key : String) : b.Reaches key key :=
  Relation.ReflTransGen.refl

theorem Reaches.head {b : Bindings} {key key' key'' : String} (h : b.RefersTo key key')
    (h' : b.Reaches key' key'') : b.Reaches key key'' :=
  Relation.ReflTransGen.head h h'

/-! ### Expanding -/

mutual
/-- What a key stands for, met while the keys on `path` are being expanded. -/
def expandKey (b : Bindings) (path : List String) (key : String) : Except ResolveError Splice :=
  match b.vars.find? key with
  | some text => .ok (.leaf text)
  | none =>
      if hpath : key ∈ path then .error (.cycle (cycleThrough key path))
      else
        match hsource : b.fragments.find? key with
        | none => .error (.undefined key)
        | some source =>
            have := b.length_unvisited_lt (Dictionary.mem_keys_of_find? hsource) hpath
            match expandSource b (path ++ [key]) source with
            | .error e => .error e
            | .ok template => .ok (.fragment (.ofTemplate 0 template))
termination_by ((b.unvisited path).length, 0)
/-- The template that a source stands for: all its keys first, then the number of its segments. -/
def expandSource (b : Bindings) (path : List String) (source : Source) :
    Except ResolveError Template :=
  match expandKeys b path source.keys with
  | .error e => .error e
  | .ok splices => (Template.ofLists source.segments splices).mapError .malformed
termination_by ((b.unvisited path).length, source.keys.length + 2)
/-- What several keys stand for, from left to right up to the first that fails. -/
def expandKeys (b : Bindings) (path : List String) (keys : List String) :
    Except ResolveError (List Splice) :=
  match keys with
  | [] => .ok []
  | key :: keys =>
      match expandKey b path key with
      | .error e => .error e
      | .ok splice =>
          match expandKeys b path keys with
          | .error e => .error e
          | .ok splices => .ok (splice :: splices)
termination_by ((b.unvisited path).length, keys.length + 1)
end

theorem expandKey_of_var {b : Bindings} {path : List String} {key text : String}
    (h : b.vars.find? key = some text) : b.expandKey path key = .ok (.leaf text) := by
  rw [expandKey, h]

theorem expandKey_of_mem {b : Bindings} {path : List String} {key : String}
    (hvar : b.vars.find? key = none) (hpath : key ∈ path) :
    b.expandKey path key = .error (.cycle (cycleThrough key path)) := by
  rw [expandKey, hvar]
  simp [hpath]

theorem expandKey_of_undefined {b : Bindings} {path : List String} {key : String}
    (hvar : b.vars.find? key = none) (hpath : key ∉ path) (hsource : b.fragments.find? key = none) :
    b.expandKey path key = .error (.undefined key) := by
  rw [expandKey, hvar]
  simp only [dif_neg hpath]
  split
  · rfl
  · next source hsome => rw [hsource] at hsome; cases hsome

theorem expandKey_of_source {b : Bindings} {path : List String} {key : String} {source : Source}
    (hvar : b.vars.find? key = none) (hpath : key ∉ path)
    (hsource : b.fragments.find? key = some source) :
    b.expandKey path key =
      (b.expandSource (path ++ [key]) source).map fun t => .fragment (.ofTemplate 0 t) := by
  rw [expandKey, hvar]
  simp only [dif_neg hpath]
  split
  · next hnone => rw [hsource] at hnone; cases hnone
  · next source' hsome =>
      obtain rfl : source' = source := Option.some_inj.1 (hsome.symm.trans hsource)
      cases b.expandSource (path ++ [key]) source' <;> rfl

theorem expandSource_eq (b : Bindings) (path : List String) (source : Source) :
    b.expandSource path source = (b.expandKeys path source.keys).bind fun splices =>
      (Template.ofLists source.segments splices).mapError .malformed := by
  rw [expandSource]
  cases b.expandKeys path source.keys <;> rfl

@[simp] theorem expandKeys_nil (b : Bindings) (path : List String) :
    b.expandKeys path [] = .ok [] := by
  rw [expandKeys]

theorem expandKeys_cons (b : Bindings) (path : List String) (key : String) (keys : List String) :
    b.expandKeys path (key :: keys) = (b.expandKey path key).bind fun splice =>
      (b.expandKeys path keys).map fun splices => splice :: splices := by
  rw [expandKeys]
  cases b.expandKey path key with
  | error e => rfl
  | ok splice => cases b.expandKeys path keys <;> simp only [Except.bind, Except.map]

/-! ### When expanding succeeds -/

/-- Several keys expand exactly when each of them does. -/
theorem expandKeys_eq_ok_iff {b : Bindings} {path keys : List String} {splices : List Splice} :
    b.expandKeys path keys = .ok splices ↔
      List.Forall₂ (fun key splice => b.expandKey path key = .ok splice) keys splices := by
  induction keys generalizing splices with
  | nil => cases splices <;> simp
  | cons key keys ih =>
      rw [expandKeys_cons]
      constructor
      · intro h
        obtain ⟨splice, hsplice, h⟩ := Result.bind_eq_ok_iff.1 h
        obtain ⟨rest, hrest, rfl⟩ := Result.map_eq_ok_iff.1 h
        exact .cons hsplice (ih.1 hrest)
      · rintro (_ | ⟨hsplice, hrest⟩)
        rw [hsplice, ih.2 hrest]
        rfl

/-- A source expands exactly when its keys do and there is one segment more than keys. -/
theorem expandSource_eq_ok_iff {b : Bindings} {path : List String} {source : Source}
    {t : Template} : b.expandSource path source = .ok t ↔
      t.segments = source.segments ∧ b.expandKeys path source.keys = .ok t.splices := by
  rw [expandSource_eq, Result.bind_eq_ok_iff]
  simp only [Result.mapError_eq_ok_iff, Template.ofLists_eq_ok_iff]
  constructor
  · rintro ⟨splices, hsplices, hsegments, rfl⟩
    exact ⟨hsegments, hsplices⟩
  · rintro ⟨hsegments, hsplices⟩
    exact ⟨t.splices, hsplices, hsegments, rfl⟩

/-- Induction on the path: longer paths come first, and no path can be longer than there are
fragments. -/
theorem induction_on_path (b : Bindings) {P : List String → Prop}
    (step : ∀ path, (∀ key ∈ b.fragments.keys, key ∉ path → P (path ++ [key])) → P path) :
    ∀ path, P path := by
  intro path
  induction h : (b.unvisited path).length using Nat.strong_induction_on generalizing path with
  | _ n ih =>
      subst h
      refine step path ?_
      intro key hkey hpath
      exact ih _ (b.length_unvisited_lt hkey hpath) _ rfl

/-! ### The rules of success -/

/-- What keys stand for, by rules: the leaf of a text, or the fragment of a source whose own keys
stand for something. -/
inductive Expands (b : Bindings) : List String → List Splice → Prop
  | nil : Expands b [] []
  | var {key text : String} {keys : List String} {splices : List Splice} :
      b.vars.find? key = some text → Expands b keys splices →
      Expands b (key :: keys) (.leaf text :: splices)
  | fragment {key : String} {source : Source} {t : Template} {keys : List String}
      {splices : List Splice} :
      b.vars.find? key = none → b.fragments.find? key = some source →
      t.segments = source.segments → Expands b source.keys t.splices →
      Expands b keys splices →
      Expands b (key :: keys) (.fragment (.ofTemplate 0 t) :: splices)

theorem Expands.cons {b : Bindings} {key : String} {splice : Splice} {keys : List String}
    {splices : List Splice} (h : b.Expands [key] [splice]) (h' : b.Expands keys splices) :
    b.Expands (key :: keys) (splice :: splices) := by
  cases h with
  | var hvar _ => exact .var hvar h'
  | fragment hvar hsource hsegments hkeys _ => exact .fragment hvar hsource hsegments hkeys h'

/-- Keys that stand for something each do so together. -/
theorem Expands.of_forall₂ {b : Bindings} {keys : List String} {splices : List Splice}
    (h : List.Forall₂ (fun key splice => b.Expands [key] [splice]) keys splices) :
    b.Expands keys splices := by
  induction h with
  | nil => exact .nil
  | cons hkey _ ih => exact hkey.cons ih

/-- Keys that stand for something together do so each. -/
theorem Expands.forall₂ {b : Bindings} {keys : List String} {splices : List Splice}
    (h : b.Expands keys splices) :
    List.Forall₂ (fun key splice => b.Expands [key] [splice]) keys splices := by
  induction h with
  | nil => exact .nil
  | var hvar _ ih => exact .cons (.var hvar .nil) ih
  | fragment hvar hsource hsegments hkeys _ _ ih =>
      exact .cons (.fragment hvar hsource hsegments hkeys .nil) ih

/-- A key that expands on some path stands for what it expands to. -/
theorem expands_of_expandKey {b : Bindings} (path : List String) :
    ∀ {key : String} {splice : Splice}, b.expandKey path key = .ok splice →
      b.Expands [key] [splice] := by
  induction path using b.induction_on_path with
  | step path ih =>
      intro key splice h
      cases hvar : b.vars.find? key with
      | some text =>
          rw [expandKey_of_var hvar] at h
          cases h
          exact .var hvar .nil
      | none =>
          by_cases hpath : key ∈ path
          · rw [expandKey_of_mem hvar hpath] at h
            cases h
          · cases hsource : b.fragments.find? key with
            | none =>
                rw [expandKey_of_undefined hvar hpath hsource] at h
                cases h
            | some source =>
                rw [expandKey_of_source hvar hpath hsource] at h
                obtain ⟨t, ht, rfl⟩ := Result.map_eq_ok_iff.1 h
                obtain ⟨hsegments, hkeys⟩ := expandSource_eq_ok_iff.1 ht
                have hfragment := Dictionary.mem_keys_of_find? hsource
                refine .fragment hvar hsource hsegments (.of_forall₂ ?_) .nil
                exact (expandKeys_eq_ok_iff.1 hkeys).imp fun _ _ => ih key hfragment hpath

theorem expands_of_expandKeys {b : Bindings} {path keys : List String} {splices : List Splice}
    (h : b.expandKeys path keys = .ok splices) : b.Expands keys splices :=
  .of_forall₂ ((expandKeys_eq_ok_iff.1 h).imp fun _ _ => expands_of_expandKey path)

/-! ### Expanding keys do not come back to themselves -/

/-- From keys that expand there are finitely many references to follow. -/
theorem Expands.acc {b : Bindings} {keys : List String} {splices : List Splice}
    (h : b.Expands keys splices) : ∀ key ∈ keys, Acc (Function.swap b.RefersTo) key := by
  induction h with
  | nil => intro key hkey; cases hkey
  | @var key text keys splices hvar _ ih =>
      intro key' hkey'
      rcases List.mem_cons.1 hkey' with rfl | hkey'
      · refine Acc.intro _ ?_
        intro next hnext
        have hnone := hnext.1
        rw [hvar] at hnone
        cases hnone
      · exact ih key' hkey'
  | @fragment key source t keys splices _ hsource _ _ _ ihkeys ih =>
      intro key' hkey'
      rcases List.mem_cons.1 hkey' with rfl | hkey'
      · exact Acc.intro _ fun next hnext => ihkeys next (hnext.mem_keys hsource)
      · exact ih key' hkey'

/-- **A key that expands does not come back to itself**: nothing it refers to reaches it. -/
theorem Expands.acyclic {b : Bindings} {keys : List String} {splices : List Splice}
    (h : b.Expands keys splices) {key next : String} (hkey : key ∈ keys)
    (hnext : b.RefersTo key next) : ¬ b.Reaches next key := by
  intro hback
  have hacc : Acc (Relation.TransGen (Function.swap b.RefersTo)) key := (h.acc key hkey).transGen
  have hloop : Relation.TransGen (Function.swap b.RefersTo) key key :=
    Relation.transGen_swap.2 (Relation.TransGen.head' hnext hback)
  -- a loop would be a descent from `key` without an end
  have hno : ∀ k, Acc (Relation.TransGen (Function.swap b.RefersTo)) k →
      ¬ Relation.TransGen (Function.swap b.RefersTo) k k := by
    intro k hk
    induction hk with
    | intro k _ ih => exact fun hkk => ih k hkk hkk
  exact hno key hacc hloop

/-- **Keys expand on every path that they do not reach.** -/
theorem Expands.expandKeys {b : Bindings} {keys : List String} {splices : List Splice}
    (h : b.Expands keys splices) :
    ∀ path : List String, (∀ key ∈ keys, ∀ opened ∈ path, ¬ b.Reaches key opened) →
      b.expandKeys path keys = .ok splices := by
  induction h with
  | nil => exact fun path _ => expandKeys_nil b path
  | @var key text keys splices hvar _ ih =>
      intro path hpath
      refine expandKeys_eq_ok_iff.2 (.cons (expandKey_of_var hvar) (expandKeys_eq_ok_iff.1 ?_))
      exact ih path fun k hk => hpath k (List.mem_cons_of_mem _ hk)
  | @fragment key source t keys splices hvar hsource hsegments hkeys hrest ihkeys ih =>
      intro path hpath
      have hnot : key ∉ path := fun hmem => hpath key List.mem_cons_self key hmem (.refl b key)
      -- the keys of the source reach neither the path nor, having expanded, the key itself
      have hinner : b.expandKeys (path ++ [key]) source.keys = .ok t.splices := by
        refine ihkeys _ ?_
        intro k hk opened hopened hreach
        have hrefers : b.RefersTo key k := ⟨hvar, source, hsource, hk⟩
        rcases List.mem_append.1 hopened with hopened | hopened
        · exact hpath key List.mem_cons_self opened hopened (.head hrefers hreach)
        · obtain rfl := List.mem_singleton.1 hopened
          have hself : b.Expands [opened] [.fragment (.ofTemplate 0 t)] :=
            .fragment hvar hsource hsegments hkeys .nil
          exact hself.acyclic List.mem_cons_self hrefers hreach
      have hkey : b.expandKey path key = .ok (.fragment (.ofTemplate 0 t)) := by
        rw [expandKey_of_source hvar hnot hsource,
          expandSource_eq_ok_iff.2 ⟨hsegments, hinner⟩]
        rfl
      refine expandKeys_eq_ok_iff.2 (.cons hkey (expandKeys_eq_ok_iff.1 ?_))
      exact ih path fun k hk => hpath k (List.mem_cons_of_mem _ hk)

theorem Expands.expandKey {b : Bindings} {key : String} {splice : Splice} {path : List String}
    (h : b.Expands [key] [splice]) (hpath : ∀ opened ∈ path, ¬ b.Reaches key opened) :
    b.expandKey path key = .ok splice := by
  have hkeys := h.expandKeys path (by simpa using hpath)
  cases expandKeys_eq_ok_iff.1 hkeys with
  | cons hkey _ => exact hkey

end QueryWeave.Bindings
