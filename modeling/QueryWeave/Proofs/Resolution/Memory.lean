/-
**What a resolver may rely on in its memory.**

A resolver looks into its memory before it looks at the path, and keeps what it built even when the
template it was built for fails.  Both are sound for one reason: a fragment is built after all that
it refers to, so whatever a remembered key reaches is itself remembered or bound to a text.  No such
key can be on the path, whose keys are still being built, and none can fail.

Main definitions:

* `QueryWeave.Memory.Knows` — what a key is known to stand for without building anything;
* `QueryWeave.Memory.Coherent` — **the invariant**: every remembered fragment comes from its source
  and from what is known of the keys in it, and no key on the path is known;
* `QueryWeave.Memory.Grows`, `QueryWeave.Memory.Advances` — a later memory, in which all that was
  known is still known.

Main results:

* `QueryWeave.Memory.Coherent.not_reaches` — a known key reaches no key on the path;
* `QueryWeave.Memory.Coherent.expandKey` — **what is known is what expanding gives**, on this path;
* `QueryWeave.Memory.Coherent.building` — building a fragment keeps the invariant.
-/

import QueryWeave.Proofs.Fragment.Shape
import QueryWeave.Proofs.Resolution.Expansion

set_option relaxedAutoImplicit false
set_option autoImplicit false

namespace QueryWeave

namespace Memory

/-- What a key stands for, as far as the memory knows: a text, or a fragment built before. -/
inductive Knows (b : Bindings) (m : Memory) : String → Splice → Prop
  | var {key text : String} : b.vars.find? key = some text → Knows b m key (.leaf text)
  | fragment {key : String} {f : Fragment} : b.vars.find? key = none →
      m.resolved.find? key = some f → Knows b m key (.fragment f)

/-- **The invariant**, while the fragments for the keys on `path` are being built. -/
structure Coherent (b : Bindings) (path : List String) (m : Memory) : Prop where
  /-- A remembered fragment has the segments of its source, and as its children what is known of
  the keys in the source. -/
  built : ∀ {key : String} {f : Fragment}, m.resolved.find? key = some f →
    ∃ source t, b.vars.find? key = none ∧ b.fragments.find? key = some source ∧
      t.segments = source.segments ∧ List.Forall₂ (m.Knows b) source.keys t.splices ∧
      f = .ofTemplate f.serial t
  /-- Nothing is known of a key on the path. -/
  opened : ∀ key ∈ path, b.vars.find? key = none ∧ m.resolved.find? key = none

/-- All that `m` remembers is unchanged in `m'`. -/
def Grows (m m' : Memory) : Prop :=
  ∀ (key : String) (f : Fragment), m.resolved.find? key = some f → m'.resolved.find? key = some f

/-- A later memory, which is coherent and has forgotten and changed nothing. -/
structure Advances (b : Bindings) (path : List String) (m m' : Memory) : Prop where
  coherent : m'.Coherent b path
  grows : m.Grows m'

theorem Grows.refl (m : Memory) : m.Grows m := fun _ _ hf => hf

theorem Grows.trans {m m' m'' : Memory} (h : m.Grows m') (h' : m'.Grows m'') : m.Grows m'' :=
  fun key f hf => h' key f (h key f hf)

theorem Knows.mono {b : Bindings} {m m' : Memory} (h : m.Grows m') {key : String}
    {splice : Splice} (hkey : m.Knows b key splice) : m'.Knows b key splice := by
  cases hkey with
  | var hvar => exact .var hvar
  | fragment hvar hf => exact .fragment hvar (h _ _ hf)

theorem Coherent.advances_refl {b : Bindings} {path : List String} {m : Memory}
    (h : m.Coherent b path) : m.Advances b path m :=
  ⟨h, .refl m⟩

theorem Advances.trans {b : Bindings} {path path' : List String} {m m' m'' : Memory}
    (h : m.Advances b path' m') (h' : m'.Advances b path m'') : m.Advances b path m'' :=
  ⟨h'.coherent, h.grows.trans h'.grows⟩

/-- Nothing is known at first. -/
theorem coherent_empty (b : Bindings) : empty.Coherent b [] where
  built h := by cases h
  opened key hkey := by cases hkey

/-! ### What is known, and the path -/

/-- What a known key refers to is known. -/
theorem Coherent.known_of_refersTo {b : Bindings} {path : List String} {m : Memory}
    (h : m.Coherent b path) {key next : String} {splice : Splice} (hkey : m.Knows b key splice)
    (hnext : b.RefersTo key next) : ∃ splice, m.Knows b next splice := by
  cases hkey with
  | var hvar =>
      have hnone := hnext.1
      rw [hvar] at hnone
      cases hnone
  | fragment _ hf =>
      obtain ⟨source, t, -, hsource, -, hkeys, -⟩ := h.built hf
      obtain ⟨i, hi, rfl⟩ := List.getElem_of_mem (hnext.mem_keys hsource)
      exact ⟨_, hkeys.get hi (hkeys.length_eq ▸ hi)⟩

/-- Whatever a known key reaches is known. -/
theorem Coherent.known_of_reaches {b : Bindings} {path : List String} {m : Memory}
    (h : m.Coherent b path) {key key' : String} {splice : Splice} (hkey : m.Knows b key splice)
    (hreach : b.Reaches key key') : ∃ splice, m.Knows b key' splice := by
  induction hreach with
  | refl => exact ⟨splice, hkey⟩
  | tail _ hnext ih =>
      obtain ⟨splice', hsplice'⟩ := ih
      exact h.known_of_refersTo hsplice' hnext

/-- A known key reaches no key on the path. -/
theorem Coherent.not_reaches {b : Bindings} {path : List String} {m : Memory}
    (h : m.Coherent b path) {key : String} {splice : Splice} (hkey : m.Knows b key splice)
    {opened : String} (hopened : opened ∈ path) : ¬ b.Reaches key opened := by
  intro hreach
  obtain ⟨hvar, hnone⟩ := h.opened opened hopened
  obtain ⟨splice', hsplice'⟩ := h.known_of_reaches hkey hreach
  cases hsplice' with
  | var hsome => rw [hvar] at hsome; cases hsome
  | fragment _ hf => rw [hnone] at hf; cases hf

/-! ### What is known, and expanding -/

mutual
/-- A remembered fragment is what its key expands to, up to the identity of instances. -/
theorem Coherent.expands_fragment {b : Bindings} {path : List String} {m : Memory}
    (h : m.Coherent b path) : ∀ (f : Fragment) {key : String},
      m.resolved.find? key = some f → b.Expands [key] [.fragment f.shape]
  | ⟨serial, name, segments, children⟩, key, hf => by
      obtain ⟨source, t, hvar, hsource, hsegments, hkeys, heq⟩ := h.built hf
      obtain ⟨-, rfl⟩ : segments = t.segments ∧ children = t.splices := by
        simpa [Fragment.ofTemplate] using (Fragment.mk.inj heq).2.2
      rw [heq, Fragment.shape_ofTemplate]
      exact .fragment hvar hsource hsegments (h.expands_splices _ hkeys) .nil
/-- What keys are known to stand for is what they expand to, up to the identity of instances. -/
theorem Coherent.expands_splices {b : Bindings} {path : List String} {m : Memory}
    (h : m.Coherent b path) : ∀ (splices : List Splice) {keys : List String},
      List.Forall₂ (m.Knows b) keys splices → b.Expands keys (splices.map Splice.shape)
  | [], _, .nil => .nil
  | .leaf _ :: splices, _, .cons (.var hvar) hkeys => .var hvar (h.expands_splices splices hkeys)
  | .fragment f :: splices, _, .cons (.fragment _ hf) hkeys =>
      (h.expands_fragment f hf).cons (h.expands_splices splices hkeys)
end

/-- **What is known of a key is what expanding it gives** on the path of the invariant. -/
theorem Coherent.expandKey {b : Bindings} {path : List String} {m : Memory}
    (h : m.Coherent b path) {key : String} {splice : Splice} (hkey : m.Knows b key splice) :
    b.expandKey path key = .ok splice.shape :=
  (h.expands_splices [splice] (.cons hkey .nil)).expandKey fun _ => h.not_reaches hkey

/-! ### Steps that keep the invariant -/

theorem grows_opening (m : Memory) (key : String) : m.Grows (m.opening key) := fun _ _ hf => hf

theorem grows_closing (m : Memory) (key : String) : m.Grows (m.closing key) := fun _ _ hf => hf

/-- What a remembered fragment was built from is still known later. -/
theorem Coherent.built_of_grows {b : Bindings} {path : List String} {m m' : Memory}
    (h : m.Coherent b path) (hgrows : m.Grows m') {key : String} {f : Fragment}
    (hf : m.resolved.find? key = some f) :
    ∃ source t, b.vars.find? key = none ∧ b.fragments.find? key = some source ∧
      t.segments = source.segments ∧ List.Forall₂ (m'.Knows b) source.keys t.splices ∧
      f = .ofTemplate f.serial t := by
  obtain ⟨source, t, hvar, hsource, hsegments, hkeys, heq⟩ := h.built hf
  exact ⟨source, t, hvar, hsource, hsegments, hkeys.imp fun _ _ => Knows.mono hgrows, heq⟩

/-- A key of which nothing is known may join the path. -/
theorem Coherent.opening {b : Bindings} {path : List String} {m : Memory} (h : m.Coherent b path)
    {key : String} (hvar : b.vars.find? key = none) (hkey : m.resolved.find? key = none) :
    (m.opening key).Coherent b (path ++ [key]) where
  built hf := h.built_of_grows (grows_opening m key) hf
  opened k hk := by
    rcases List.mem_append.1 hk with hk | hk
    · exact h.opened k hk
    · obtain rfl := List.mem_singleton.1 hk
      exact ⟨hvar, hkey⟩

/-- The last key may leave the path. -/
theorem Coherent.closing {b : Bindings} {path : List String} {m : Memory} {key : String}
    (h : m.Coherent b (path ++ [key])) : (m.closing key).Coherent b path where
  built hf := h.built_of_grows (grows_closing m key) hf
  opened k hk := h.opened k (List.mem_append_left _ hk)

/-- What was not known before may be built. -/
theorem grows_building {m : Memory} {key : String} (hkey : m.resolved.find? key = none)
    (t : Template) : m.Grows (m.building key t) := by
  intro key' f hf
  have hne : key ≠ key' := by
    rintro rfl
    rw [hkey] at hf
    cases hf
  rw [Memory.building, Dictionary.find?_insert, if_neg hne]
  exact hf

/-- Building a fragment from its source and from what is known keeps the invariant. -/
theorem Coherent.building {b : Bindings} {path : List String} {m : Memory} (h : m.Coherent b path)
    {key : String} {source : Source} {t : Template} (hvar : b.vars.find? key = none)
    (hsource : b.fragments.find? key = some source) (hkey : m.resolved.find? key = none)
    (hpath : key ∉ path) (hsegments : t.segments = source.segments)
    (hkeys : List.Forall₂ (m.Knows b) source.keys t.splices) :
    (m.building key t).Coherent b path where
  built := by
    have hgrows := grows_building hkey t
    intro key' f hf
    rw [Memory.building, Dictionary.find?_insert] at hf
    split at hf
    · next heq =>
        subst heq
        cases hf
        exact ⟨source, t, hvar, hsource, hsegments, hkeys.imp fun _ _ => Knows.mono hgrows, rfl⟩
    · exact h.built_of_grows hgrows hf
  opened k hk := by
    have hne : key ≠ k := fun heq => hpath (heq ▸ hk)
    rw [Memory.building, Dictionary.find?_insert, if_neg hne]
    exact h.opened k hk

end Memory

end QueryWeave
