/-
**What of a template its document depends on.**

The fragments of a template are nested and shared in some way, met in some order and as often as
there are ways to them, and of those with one name the last one is defined.  Nothing of this shows
up in the document.  Its text depends on the segments and on what is written between them, on the
names of the fragments that are spliced in at any depth, and on the definition that goes with each
of these names.

Main definitions:

* `QueryWeave.Template.ReadsAlike` — two templates that agree in all this.

Main results:

* `QueryWeave.Template.ReadsAlike.map_name_fragments` — they define the same names in one order;
* `QueryWeave.Template.documentText_eq_of_readsAlike` — **they have the same document**.
-/

import QueryWeave.Proofs.Template.Closure

set_option relaxedAutoImplicit false
set_option autoImplicit false

namespace QueryWeave.Template

/-- Two templates read alike: they have the same segments with the same texts between them, and the
fragments that are spliced in, at any depth, have the same names in both and one definition for each
of these names. -/
structure ReadsAlike (s t : Template) : Prop where
  segments : s.segments = t.segments
  names : s.splices.map Splice.name = t.splices.map Splice.name
  reached : ∀ name, (∃ f, ReachedFrom s.splices f ∧ f.name = name) ↔
    ∃ f, ReachedFrom t.splices f ∧ f.name = name
  definition : ∀ f g, ReachedFrom s.splices f ∨ ReachedFrom t.splices f →
    ReachedFrom s.splices g ∨ ReachedFrom t.splices g → f.name = g.name →
    f.definition = g.definition

/-- Lists with the same keys, entry by entry, agree in everything that the keys determine. -/
theorem map_eq_map_of_key {α β γ : Type} {key : α → β} {value : α → γ} {xs ys : List α}
    (hkeys : xs.map key = ys.map key)
    (hvalue : ∀ x ∈ xs, ∀ y ∈ ys, key x = key y → value x = value y) :
    xs.map value = ys.map value := by
  induction xs generalizing ys with
  | nil =>
      rw [List.map_eq_nil_iff.1 hkeys.symm, List.map_nil]
  | cons x xs ih =>
      cases ys with
      | nil => cases hkeys
      | cons y ys =>
          obtain ⟨hkey, hrest⟩ := List.cons_eq_cons.1 hkeys
          rw [List.map_cons, List.map_cons,
            hvalue x List.mem_cons_self y List.mem_cons_self hkey, ih hrest]
          intro x' hx' y' hy'
          exact hvalue x' (List.mem_cons_of_mem _ hx') y' (List.mem_cons_of_mem _ hy')

variable {s t : Template}

/-- The same names are defined, in the same order. -/
theorem ReadsAlike.map_name_fragments (h : s.ReadsAlike t) :
    s.fragments.map Fragment.name = t.fragments.map Fragment.name := by
  rw [fragments, fragments, onePerName, onePerName, collectAll_eq_preorders,
    collectAll_eq_preorders]
  refine KeyOrder.map_ofList_eq ?_
  intro name
  simp only [mem_preorders_iff]
  exact h.reached name

/-- The definitions are the same, whichever fragments were kept for the names. -/
theorem ReadsAlike.definitions_eq (h : s.ReadsAlike t) : s.definitions = t.definitions := by
  have hmap : s.fragments.map Fragment.definition = t.fragments.map Fragment.definition := by
    refine map_eq_map_of_key h.map_name_fragments ?_
    intro f hf g hg hname
    exact h.definition f g (.inl (reachedFrom_of_mem_fragments hf))
      (.inr (reachedFrom_of_mem_fragments hg)) hname
  rw [definitions, definitions, hmap]

/-- **Templates that read alike have the same document**, in whatever order, how often and in what
nesting their fragments are met, and whichever of their instances are shared. -/
theorem documentText_eq_of_readsAlike (s t : Template) (h : s.ReadsAlike t) :
    s.documentText = t.documentText := by
  rw [documentText, documentText, h.segments, h.names, h.definitions_eq]

/-! ### Two albums -/

/-- A button. -/
def albumButton (serial : Nat) : Fragment :=
  .ofTemplate serial (.ofText "... on Button { id }")

/-- An image around something that is written like a button. -/
def albumImage (serial : Nat) (button : Splice) : Fragment :=
  .ofTemplate serial ⟨["... on Image \x7b button \x7b ...", " \x7d \x7d"], [button], by simp⟩

/-- A template that shows three things. -/
def album (first second third : Splice) : Template :=
  ⟨["\x7b a \x7b ...", " \x7d b \x7b ...", " \x7d c \x7b ...", " \x7d \x7d"],
    [first, second, third], by simp⟩

/-- A button, and then twice one image that only mentions it. -/
def flatAlbum : Template :=
  let image := albumImage 1 (.leaf (albumButton 0).name)
  album (.fragment (albumButton 0)) (.fragment image) (.fragment image)

/-- A button that is only mentioned, and is spliced into one of two images, the other of which is
only mentioned itself. -/
def nestedAlbum : Template :=
  let image := albumImage 5 (.fragment (albumButton 4))
  album (.leaf (albumButton 0).name) (.fragment image) (.leaf image.name)

theorem readsAlike_albums : flatAlbum.ReadsAlike nestedAlbum where
  segments := rfl
  names := by decide +kernel
  reached := by
    have hnames : (preorders flatAlbum.splices).map Fragment.name ⊆
          (preorders nestedAlbum.splices).map Fragment.name ∧
        (preorders nestedAlbum.splices).map Fragment.name ⊆
          (preorders flatAlbum.splices).map Fragment.name := by
      decide +kernel
    intro name
    simp only [← mem_preorders_iff, ← List.mem_map]
    exact ⟨fun h => hnames.1 h, fun h => hnames.2 h⟩
  definition := by
    have h : ∀ f ∈ preorders flatAlbum.splices ++ preorders nestedAlbum.splices,
        ∀ g ∈ preorders flatAlbum.splices ++ preorders nestedAlbum.splices,
          f.name = g.name → f.definition = g.definition := by
      decide +kernel
    intro f g hf hg
    simp only [← mem_preorders_iff, ← List.mem_append] at hf hg
    exact h f hf g hg

/-- The albums meet their fragments in different orders, differently often, and differently
nested. -/
theorem documentText_albums :
    flatAlbum.ReadsAlike nestedAlbum ∧ flatAlbum.documentText = nestedAlbum.documentText :=
  ⟨readsAlike_albums, documentText_eq_of_readsAlike flatAlbum nestedAlbum readsAlike_albums⟩

end QueryWeave.Template
