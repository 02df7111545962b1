/-
**When resolving succeeds.**

Whether a source can be resolved is a question about the graph of references alone.  All keys that
it needs, directly or not, have to be bound, no fragment among them may need itself, and its source
and theirs have to have one segment more than keys.  What else is bound, well or badly, does not
matter, and neither does what was resolved before.

A resolver exists when no key is bound both ways, and otherwise the keys for which this is so are
told.

Main definitions:

* `QueryWeave.Bindings.Needed` — what keys need;
* `QueryWeave.Bindings.Complete` — the condition on all that keys need;
* `QueryWeave.Bindings.Resolvable` — the condition on a source.

Main results:

* `QueryWeave.Bindings.Expands.complete` — what expands meets the condition;
* `QueryWeave.Bindings.Complete.exists_expandKeys` — **what meets the condition expands**;
* `QueryWeave.Resolver.resolve_succeeds_iff` — **when there is a resolver, and when it succeeds**.
-/

import QueryWeave.Proofs.Resolution.Memoisation
import QueryWeave.Proofs.Text.Bytes

set_option relaxedAutoImplicit false
set_option autoImplicit false

namespace QueryWeave

/-- There is one segment more than keys. -/
def Source.WellFormed (source : Source) : Prop :=
  source.segments.length = source.keys.length + 1

namespace Bindings

/-- One of `keys` needs `key`, over any number of references. -/
def Needed (b : Bindings) (keys : List String) (key : String) : Prop :=
  ∃ start ∈ keys, b.Reaches start key

/-- All that the keys need is there, and in order. -/
structure Complete (b : Bindings) (keys : List String) : Prop where
  /-- It is bound, to a source or to a text. -/
  bound : ∀ key, b.Needed keys key → key ∈ b.fragments.keys ∨ key ∈ b.vars.keys
  /-- No fragment needs itself, over one or more references. -/
  acyclic : ∀ key ∈ b.fragments.keys, b.Needed keys key → ¬ Relation.TransGen b.RefersTo key key
  /-- All sources are well formed. -/
  wellFormed : ∀ key source, b.Needed keys key → b.fragments.find? key = some source →
    source.WellFormed

/-- A source is well formed, and all that it needs is there and in order. -/
structure Resolvable (b : Bindings) (source : Source) : Prop where
  wellFormed : source.WellFormed
  complete : b.Complete source.keys

theorem Needed.of_mem {b : Bindings} {keys : List String} {key : String} (h : key ∈ keys) :
    b.Needed keys key :=
  ⟨key, h, .refl b key⟩

theorem Needed.mono {b : Bindings} {keys keys' : List String} {key : String}
    (h : b.Needed keys' key) (hsub : keys' ⊆ keys) : b.Needed keys key := by
  obtain ⟨start, hstart, hreach⟩ := h
  exact ⟨start, hsub hstart, hreach⟩

/-- What the source of a key needs, the key needs. -/
theorem Needed.below {b : Bindings} {keys : List String} {key key' : String} {source : Source}
    (hkey : key ∈ keys) (hvar : b.vars.find? key = none)
    (hsource : b.fragments.find? key = some source) (h : b.Needed source.keys key') :
    b.Needed keys key' := by
  obtain ⟨start, hstart, hreach⟩ := h
  exact ⟨key, hkey, .head ⟨hvar, source, hsource, hstart⟩ hreach⟩

theorem Complete.below {b : Bindings} {keys : List String} {key : String} {source : Source}
    (h : b.Complete keys) (hkey : key ∈ keys) (hvar : b.vars.find? key = none)
    (hsource : b.fragments.find? key = some source) : b.Complete source.keys where
  bound key' hneeded := h.bound key' (hneeded.below hkey hvar hsource)
  acyclic key' hkey' hneeded := h.acyclic key' hkey' (hneeded.below hkey hvar hsource)
  wellFormed key' source' hneeded := h.wellFormed key' source' (hneeded.below hkey hvar hsource)

theorem Complete.mono {b : Bindings} {keys keys' : List String} (h : b.Complete keys)
    (hsub : keys' ⊆ keys) : b.Complete keys' where
  bound key hneeded := h.bound key (hneeded.mono hsub)
  acyclic key hkey hneeded := h.acyclic key hkey (hneeded.mono hsub)
  wellFormed key source hneeded := h.wellFormed key source (hneeded.mono hsub)

/-! ### What expands meets the condition -/

theorem Expands.length_eq {b : Bindings} {keys : List String} {splices : List Splice}
    (h : b.Expands keys splices) : keys.length = splices.length :=
  h.forall₂.length_eq

/-- Of keys that expand each one does. -/
theorem Expands.exists_expands {b : Bindings} {keys : List String} {splices : List Splice}
    (h : b.Expands keys splices) {key : String} (hkey : key ∈ keys) :
    ∃ splice, b.Expands [key] [splice] := by
  obtain ⟨i, hi, rfl⟩ := List.getElem_of_mem hkey
  exact ⟨_, h.forall₂.get hi (h.length_eq ▸ hi)⟩

/-- What a key that expands refers to, expands. -/
theorem Expands.of_refersTo {b : Bindings} {key next : String} {splice : Splice}
    (h : b.Expands [key] [splice]) (hnext : b.RefersTo key next) :
    ∃ splice', b.Expands [next] [splice'] := by
  cases h with
  | var hvar _ =>
      have hnone := hnext.1
      rw [hvar] at hnone
      cases hnone
  | fragment _ hsource _ hkeys _ => exact hkeys.exists_expands (hnext.mem_keys hsource)

/-- What keys that expand need, expands. -/
theorem Expands.of_needed {b : Bindings} {keys : List String} {splices : List Splice}
    (h : b.Expands keys splices) {key : String} (hkey : b.Needed keys key) :
    ∃ splice, b.Expands [key] [splice] := by
  obtain ⟨start, hstart, hreach⟩ := hkey
  induction hreach with
  | refl => exact h.exists_expands hstart
  | tail _ hnext ih =>
      obtain ⟨splice, hsplice⟩ := ih
      exact hsplice.of_refersTo hnext

/-- All that keys that expand need is there and in order, unless a key is bound both ways. -/
theorem Expands.complete {b : Bindings} (hshared : b.sharedKeys = []) {keys : List String}
    {splices : List Splice} (h : b.Expands keys splices) : b.Complete keys where
  bound key hkey := by
    obtain ⟨splice, hsplice⟩ := h.of_needed hkey
    cases hsplice with
    | var hvar _ => exact Or.inr (Dictionary.mem_keys_of_find? hvar)
    | fragment _ hsource _ _ _ => exact Or.inl (Dictionary.mem_keys_of_find? hsource)
  acyclic key _ hkey hloop := by
    obtain ⟨splice, hsplice⟩ := h.of_needed hkey
    obtain ⟨next, hnext, hback⟩ := Relation.TransGen.head'_iff.1 hloop
    exact hsplice.acyclic List.mem_cons_self hnext hback
  wellFormed key source hkey hsource := by
    obtain ⟨splice, hsplice⟩ := h.of_needed hkey
    have hfragment := Dictionary.mem_keys_of_find? hsource
    cases hsplice with
    | var hvar _ =>
        exact absurd (Dictionary.mem_keys_of_find? hvar)
          (sharedKeys_eq_nil_iff.1 hshared key hfragment)
    | @fragment _ source' t _ _ _ hsource' hsegments hkeys _ =>
        obtain rfl : source' = source := Option.some_inj.1 (hsource'.symm.trans hsource)
        rw [Source.WellFormed, ← hsegments, t.length_segments, hkeys.length_eq]

/-! ### What meets the condition expands -/

/-- If each key expands, then so do several of them in a row. -/
theorem exists_expandKeys {b : Bindings} {path keys : List String}
    (h : ∀ key ∈ keys, ∃ splice, b.expandKey path key = .ok splice) :
    ∃ splices, b.expandKeys path keys = .ok splices := by
  induction keys with
  | nil => exact ⟨[], expandKeys_nil b path⟩
  | cons key keys ih =>
      obtain ⟨splice, hsplice⟩ := h key List.mem_cons_self
      obtain ⟨splices, hsplices⟩ := ih fun k hk => h k (List.mem_cons_of_mem _ hk)
      exact ⟨splice :: splices,
        expandKeys_eq_ok_iff.2 (.cons hsplice (expandKeys_eq_ok_iff.1 hsplices))⟩

/-- A well formed source makes a template of whatever its keys expand to. -/
theorem exists_expandSource {b : Bindings} {path : List String} {source : Source}
    {splices : List Splice} (hsource : source.WellFormed)
    (h : b.expandKeys path source.keys = .ok splices) :
    ∃ t, b.expandSource path source = .ok t := by
  have hlength : source.segments.length = splices.length + 1 := by
    rw [← (expands_of_expandKeys h).length_eq]
    exact hsource
  exact ⟨⟨source.segments, splices, hlength⟩, expandSource_eq_ok_iff.2 ⟨rfl, h⟩⟩

/-- A key expands when all it needs is there and in order, on a path of keys that need it. -/
theorem Complete.exists_expandKey {b : Bindings} (path : List String) :
    ∀ key, b.Complete [key] → (∀ opened ∈ path, Relation.TransGen b.RefersTo opened key) →
      ∃ splice, b.expandKey path key = .ok splice := by
  induction path using b.induction_on_path with
  | step path ih =>
      intro key hkey hpath
      have hself : b.Needed [key] key := .of_mem List.mem_cons_self
      cases hvar : b.vars.find? key with
      | some text => exact ⟨.leaf text, expandKey_of_var hvar⟩
      | none =>
          have hfragment : key ∈ b.fragments.keys := by
            rcases hkey.bound key hself with hfragment | hvars
            · exact hfragment
            · obtain ⟨text, htext⟩ := Dictionary.mem_keys_iff.1 hvars
              rw [hvar] at htext
              cases htext
          -- all keys on the path need this one, which does not need itself
          have hnot : key ∉ path := fun hmem => hkey.acyclic key hfragment hself (hpath key hmem)
          obtain ⟨source, hsource⟩ := Dictionary.mem_keys_iff.1 hfragment
          have hbelow := hkey.below List.mem_cons_self hvar hsource
          have hkeys : ∀ next ∈ source.keys,
              ∃ splice, b.expandKey (path ++ [key]) next = .ok splice := by
            intro next hnext
            have hrefers : b.RefersTo key next := ⟨hvar, source, hsource, hnext⟩
            refine ih key hfragment hnot next (hbelow.mono ?_) ?_
            · exact List.cons_subset.2 ⟨hnext, List.nil_subset _⟩
            · intro opened hopened
              rcases List.mem_append.1 hopened with hopened | hopened
              · exact (hpath opened hopened).tail hrefers
              · obtain rfl := List.mem_singleton.1 hopened
                exact .single hrefers
          obtain ⟨splices, hsplices⟩ := exists_expandKeys hkeys
          obtain ⟨t, ht⟩ := exists_expandSource (hkey.wellFormed key source hself hsource) hsplices
          refine ⟨.fragment (.ofTemplate 0 t), ?_⟩
          rw [expandKey_of_source hvar hnot hsource, ht]
          rfl

/-- **Keys expand when all that they need is there and in order.** -/
theorem Complete.exists_expandKeys {b : Bindings} {keys : List String} (h : b.Complete keys) :
    ∃ splices, b.expandKeys [] keys = .ok splices := by
  refine Bindings.exists_expandKeys ?_
  intro key hkey
  refine Complete.exists_expandKey [] key (h.mono ?_) nofun
  exact List.cons_subset.2 ⟨hkey, List.nil_subset _⟩

/-- A source expands exactly when it can be resolved by the condition. -/
theorem expandSource_succeeds_iff {b : Bindings} (hshared : b.sharedKeys = []) {source : Source} :
    (∃ t, b.expandSource [] source = .ok t) ↔ b.Resolvable source := by
  constructor
  · rintro ⟨t, ht⟩
    obtain ⟨hsegments, hkeys⟩ := expandSource_eq_ok_iff.1 ht
    have hexpands := expands_of_expandKeys hkeys
    refine ⟨?_, hexpands.complete hshared⟩
    rw [Source.WellFormed, ← hsegments, t.length_segments, hexpands.length_eq]
  · rintro ⟨hwellFormed, hcomplete⟩
    obtain ⟨splices, hsplices⟩ := hcomplete.exists_expandKeys
    exact exists_expandSource hwellFormed hsplices

/-! ### Keys that are bound both ways -/

/-- The shared keys ascend by their bytes. -/
theorem pairwise_sharedKeys (b : Bindings) :
    b.sharedKeys.Pairwise fun key key' => Text.bytes key < Text.bytes key' :=
  (KeyOrder.pairwise_ofList id _).imp Text.bytes_lt_bytes_iff.2

end Bindings

namespace Resolver

theorem new_eq_error_iff {b : Bindings} {e : ResolveError} :
    new b = .error e ↔ b.sharedKeys ≠ [] ∧ e = .ambiguous b.sharedKeys := by
  unfold new
  split
  · next h =>
      constructor
      · intro heq
        cases heq
      · intro hne
        exact absurd h hne.1
  · next h =>
      constructor
      · intro heq
        cases heq
        exact ⟨h, rfl⟩
      · rintro ⟨-, rfl⟩
        rfl

/-- Whatever was resolved before, a source is resolved exactly when the condition holds. -/
theorem resolve_succeeds_of_coherent {r : Resolver} (h : r.memory.Coherent r.bindings [])
    (source : Source) :
    (∃ t, (r.resolve source).1 = .ok t) ↔ r.bindings.Resolvable source := by
  rw [← Bindings.expandSource_succeeds_iff r.unambiguous, ← shape_resolve h source]
  constructor
  · rintro ⟨t, ht⟩
    exact ⟨t.shape, by rw [ht]; rfl⟩
  · rintro ⟨t, ht⟩
    obtain ⟨t', ht', -⟩ := Result.map_eq_ok_iff.1 ht
    exact ⟨t', ht'⟩

/-- **When there is a resolver, and when it succeeds.**  There is none exactly when a key is bound
both ways, and then the error tells all such keys, each once and ascending by their bytes.  A
resolver, whatever it was given before, resolves a source exactly when the source is well formed
and all that it needs is bound, well formed, and no fragment that needs itself. -/
theorem resolve_succeeds_iff (b : Bindings) :
    ((∃ e, new b = .error e) ↔ ∃ key, key ∈ b.fragments.keys ∧ key ∈ b.vars.keys) ∧
    (∀ e, new b = .error e → ∃ keys, e = .ambiguous keys ∧
      (∀ key, key ∈ keys ↔ key ∈ b.fragments.keys ∧ key ∈ b.vars.keys) ∧
      keys.Pairwise fun key key' => Text.bytes key < Text.bytes key') ∧
    ∀ r, new b = .ok r → ∀ (sources : List Source) (source : Source),
      (∃ t, ((r.resolveAll sources).resolve source).1 = .ok t) ↔ b.Resolvable source := by
  refine ⟨?_, ?_, ?_⟩
  · simp only [new_eq_error_iff, ← Bindings.mem_sharedKeys]
    constructor
    · rintro ⟨_, hne, -⟩
      exact List.exists_mem_of_ne_nil _ hne
    · rintro ⟨key, hkey⟩
      exact ⟨_, List.ne_nil_of_mem hkey, rfl⟩
  · intro e he
    obtain ⟨-, rfl⟩ := new_eq_error_iff.1 he
    exact ⟨_, rfl, fun _ => Bindings.mem_sharedKeys, b.pairwise_sharedKeys⟩
  · intro r hr sources source
    obtain ⟨rfl, hempty⟩ := bindings_memory_of_new hr
    have hcoherent : r.memory.Coherent r.bindings [] := hempty ▸ Memory.coherent_empty _
    have hcoherent' := coherent_resolveAll hcoherent sources
    rw [← bindings_resolveAll r sources] at hcoherent' ⊢
    exact resolve_succeeds_of_coherent hcoherent' source

/-- Bindings in which two of the keys are bound both ways. -/
def doubled : Bindings where
  fragments := [("owner", ⟨[], ["owner"]⟩), ("name", ⟨[], ["name"]⟩), ("size", ⟨[], ["size"]⟩)]
  vars := [("size", "1"), ("id", "2"), ("name", "3")]

theorem new_doubled : new doubled = .error (.ambiguous ["name", "size"]) :=
  new_eq_error_iff.2 ⟨by decide, by decide⟩

/-- Where keys are bound both ways there is no resolver.  Among the tangled bindings there is one,
which fails for a source that needs a cycle, and behind that succeeds for one that does not. -/
theorem resolve_succeeds_iff_tangled :
    (∃ key, key ∈ doubled.fragments.keys ∧ key ∈ doubled.vars.keys) ∧
    new doubled = .error (.ambiguous ["name", "size"]) ∧
    (∀ key, key ∈ ["name", "size"] ↔ key ∈ doubled.fragments.keys ∧ key ∈ doubled.vars.keys) ∧
    ["name", "size"].Pairwise (fun key key' => Text.bytes key < Text.bytes key') ∧
    ∃ r, new tangled = .ok r ∧
      (r.resolve knotSource).1 = .error (.cycle ["ping", "pong", "ping"]) ∧
      ¬ tangled.Resolvable knotSource ∧
      ((r.resolveAll [knotSource]).resolve plainSource).1 = .ok plainTemplate ∧
      tangled.Resolvable plainSource := by
  obtain ⟨hiff, hkeys, -⟩ := resolve_succeeds_iff doubled
  obtain ⟨keys, heq, hmem, hascending⟩ := hkeys _ new_doubled
  obtain rfl : ["name", "size"] = keys := ResolveError.ambiguous.inj heq
  obtain ⟨-, -, hall⟩ := resolve_succeeds_iff tangled
  have hnew : new tangled = .ok (tangledResolver .empty) := new_eq_ok sharedKeys_tangled
  have hknot : ¬ tangled.Resolvable knotSource := by
    intro hresolvable
    obtain ⟨t, ht⟩ := (hall _ hnew [] knotSource).2 hresolvable
    rw [resolveAll, List.foldl_nil, resolve_knotSource] at ht
    cases ht
  have hplain : (((tangledResolver .empty).resolveAll [knotSource]).resolve plainSource).1 =
      .ok plainTemplate :=
    congrArg Prod.fst resolve_behind_knot
  exact ⟨hiff.1 ⟨_, new_doubled⟩, new_doubled, hmem, hascending, _, hnew,
    congrArg Prod.fst resolve_knotSource, hknot, hplain,
    (hall _ hnew [knotSource] plainSource).1 ⟨_, hplain⟩⟩

end Resolver

end QueryWeave
