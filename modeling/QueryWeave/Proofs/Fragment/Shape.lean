/-
**Fragments up to the identity of their instances.**

Serial numbers tell instances apart and do nothing else: no text and no decision depends on them.
The shape of a fragment is what is left when they are forgotten, at every depth of the nesting, so
two results have equal shapes exactly when they are the same but for the identity of instances.

Main definitions:

* `QueryWeave.Fragment.shape`, `QueryWeave.Splice.shape`, `QueryWeave.Template.shape` — the same
  thing with every serial number set to zero.

Main results:

* `QueryWeave.Fragment.shape_ofTemplate` — building a fragment and taking the shape commute: the
  name depends on shapes only;
* `QueryWeave.preorders_shape` — so do collecting and taking shapes;
* `QueryWeave.Template.documentText_shape` — the text of a document depends on the shape only.
-/

import QueryWeave.Proofs.KeyOrder
import QueryWeave.Template.Document

set_option relaxedAutoImplicit false
set_option autoImplicit false

namespace QueryWeave

/-! ### Shapes -/

mutual
/-- A fragment without its serial number, and without those of the fragments below it. -/
def Fragment.shape : Fragment → Fragment
  | ⟨_, name, segments, children⟩ => ⟨0, name, segments, shapes children⟩
/-- A splice without the serial numbers in it. -/
def Splice.shape : Splice → Splice
  | .leaf text => .leaf text
  | .fragment f => .fragment f.shape
/-- Several splices without the serial numbers in them. -/
def shapes : List Splice → List Splice
  | [] => []
  | splice :: splices => splice.shape :: shapes splices
end

@[simp] theorem shapes_eq_map (splices : List Splice) :
    shapes splices = splices.map Splice.shape := by
  induction splices with
  | nil => rfl
  | cons splice splices ih => rw [shapes, ih, List.map_cons]

@[simp] theorem Splice.shape_leaf (text : String) : (leaf text).shape = leaf text := rfl

@[simp] theorem Splice.shape_fragment (f : Fragment) : (fragment f).shape = fragment f.shape := rfl

@[simp] theorem Fragment.name_shape (f : Fragment) : f.shape.name = f.name := by
  cases f
  rfl

@[simp] theorem Fragment.segments_shape (f : Fragment) : f.shape.segments = f.segments := by
  cases f
  rfl

@[simp] theorem Fragment.children_shape (f : Fragment) :
    f.shape.children = f.children.map Splice.shape := by
  cases f
  simp [Fragment.shape]

@[simp] theorem Splice.name_shape (splice : Splice) : splice.shape.name = splice.name := by
  cases splice <;> simp

@[simp] theorem Splice.name_comp_shape : Splice.name ∘ Splice.shape = Splice.name :=
  funext Splice.name_shape

/-- A template without the serial numbers in it. -/
def Template.shape (t : Template) : Template :=
  ⟨t.segments, t.splices.map Splice.shape, by simp [t.length_segments]⟩

@[simp] theorem Template.segments_shape (t : Template) : t.shape.segments = t.segments := rfl

@[simp] theorem Template.splices_shape (t : Template) :
    t.shape.splices = t.splices.map Splice.shape := rfl

/-! ### What depends on shapes only -/

@[simp] theorem Template.content_shape (t : Template) : t.shape.content = t.content := by
  simp [Template.content]

/-- Whether lists make a template depends on shapes only. -/
theorem Template.map_shape_ofLists (segments : List String) (splices : List Splice) :
    (ofLists segments splices).map shape = ofLists segments (splices.map Splice.shape) := by
  unfold ofLists
  by_cases h : segments.length = splices.length + 1
  · simp [h, Except.map, shape]
  · simp [h, Except.map]

/-- A fragment is named after its shape, whatever instances are spliced into it. -/
@[simp] theorem Fragment.shape_ofTemplate (serial : Nat) (t : Template) :
    (ofTemplate serial t).shape = ofTemplate 0 t.shape := by
  simp [ofTemplate, Fragment.shape, Template.shape, Template.content]

@[simp] theorem Fragment.definition_shape (f : Fragment) : f.shape.definition = f.definition := by
  simp [definition, body, childTexts]

@[simp] theorem Fragment.definition_comp_shape :
    Fragment.definition ∘ Fragment.shape = Fragment.definition :=
  funext Fragment.definition_shape

mutual
theorem Fragment.preorder_shape (f : Fragment) :
    f.shape.preorder = f.preorder.map Fragment.shape := by
  cases f with
  | mk serial name segments children =>
      rw [Fragment.shape, Fragment.preorder, Fragment.preorder, List.map_cons, Fragment.shape,
        preorders_shape children]
theorem Splice.preorder_shape (splice : Splice) :
    splice.shape.preorder = splice.preorder.map Fragment.shape := by
  cases splice with
  | leaf text => rfl
  | fragment f => exact f.preorder_shape
/-- The fragments met in a nesting have the shapes of those met in its shape. -/
theorem preorders_shape (splices : List Splice) :
    preorders (shapes splices) = (preorders splices).map Fragment.shape := by
  cases splices with
  | nil => rfl
  | cons splice splices =>
      rw [shapes, preorders, preorders, List.map_append, splice.preorder_shape,
        preorders_shape splices]
end

theorem Template.fragments_shape (t : Template) :
    t.shape.fragments = t.fragments.map Fragment.shape := by
  rw [fragments, fragments, collectAll_eq_preorders, collectAll_eq_preorders, splices_shape,
    ← shapes_eq_map, preorders_shape, onePerName, onePerName, KeyOrder.ofList_map]
  intro f
  exact f.name_shape

/-- The text of a document does not depend on which instances its template holds. -/
@[simp] theorem Template.documentText_shape (t : Template) :
    t.shape.documentText = t.documentText := by
  have hdefinitions : t.shape.definitions = t.definitions := by
    simp [definitions, fragments_shape]
  simp [documentText, hdefinitions]

end QueryWeave
