/-
**From a template to its document.**

A fragment is built from a template and named after its content: all segments, then the texts of all
children.  Its definition is the keyword, the name and the interleaved body, from which the marker
`...` of the inline fragment is taken away.

Every fragment that is spliced in anywhere has to be defined in the document.  They are collected in
the order of reading, a fragment before what is spliced into it and as often as it is met, and then
reduced to one for each name.  Collecting appends to what has been collected before.

The text of a document is the text of its template, followed by the definitions of all fragments
that the template needs.  The definitions are separated by line feeds and come right after the last
segment, with nothing in between.

Main definitions:

* `QueryWeave.Template.content` — the text that is hashed for the name;
* `QueryWeave.Fragment.ofTemplate` — the fragment of a template;
* `QueryWeave.dropMarker` — a text without its first `...`;
* `QueryWeave.Fragment.definition` — the text that defines a fragment;
* `QueryWeave.Fragment.collectInto`, `QueryWeave.Splice.collectInto`, `QueryWeave.collectAllInto` —
  collecting from a fragment, a splice, a list of splices;
* `QueryWeave.Fragment.preorder`, `QueryWeave.Splice.preorder` — what there is to collect: the
  fragments of a nesting in pre-order;
* `QueryWeave.onePerName` — one fragment for each name, in ascending order of names;
* `QueryWeave.Template.definitions` — the definitions a template needs, in order of names;
* `QueryWeave.Template.documentText` — the text of the document.

Main results:

* `QueryWeave.Fragment.toList_collectInto`, `QueryWeave.toList_collectAllInto` — the pre-order is
  appended, and nothing else happens;
* `QueryWeave.pairwise_onePerName` — names ascend strictly.
-/

import QueryWeave.ContentName
import QueryWeave.Fragment.Basic
import QueryWeave.KeyOrder
import QueryWeave.Log
import QueryWeave.Template.Basic

set_option relaxedAutoImplicit false
set_option autoImplicit false

namespace QueryWeave

/-! ### Building and defining fragments -/

/-- The content of a template, for naming: its segments, then the texts of its splices. -/
def Template.content (t : Template) : String :=
  String.join t.segments ++ String.join (t.splices.map Splice.name)

/-- A text without its first `...`; a text without any stays as it is. -/
def dropMarker : List Char → List Char
  | '.' :: '.' :: '.' :: rest => rest
  | c :: rest => c :: dropMarker rest
  | [] => []

namespace Fragment

/-- The fragment built from a template under the given serial number. -/
def ofTemplate (serial : Nat) (t : Template) : Fragment :=
  ⟨serial, contentName t.content, t.segments, t.splices⟩

@[simp] theorem serial_ofTemplate (serial : Nat) (t : Template) :
    (ofTemplate serial t).serial = serial := rfl

@[simp] theorem name_ofTemplate (serial : Nat) (t : Template) :
    (ofTemplate serial t).name = contentName t.content := rfl

@[simp] theorem segments_ofTemplate (serial : Nat) (t : Template) :
    (ofTemplate serial t).segments = t.segments := rfl

@[simp] theorem children_ofTemplate (serial : Nat) (t : Template) :
    (ofTemplate serial t).children = t.splices := rfl

/-- The segments interleaved with the texts of the children. -/
def body (f : Fragment) : String :=
  weave f.segments f.childTexts

/-- The definition of a fragment, as it stands in a document. -/
def definition (f : Fragment) : String :=
  "fragment " ++ f.name ++ " " ++ String.ofList (dropMarker f.body.toList)

/-- What the log says when `f` has been built. -/
def creationRecord (f : Fragment) : LogRecord :=
  .fragmentCreated f.name f.children.length

end Fragment

/-! ### Collecting -/

mutual
/-- Appends a fragment, and then everything that is met below it. -/
def Fragment.collectInto (collected : Array Fragment) : Fragment → Array Fragment
  | ⟨serial, name, segments, children⟩ =>
      collectAllInto (collected.push ⟨serial, name, segments, children⟩) children
/-- Appends the fragments met in a splice; plain text has none. -/
def Splice.collectInto (collected : Array Fragment) : Splice → Array Fragment
  | .leaf _ => collected
  | .fragment f => f.collectInto collected
/-- Appends the fragments met in several splices, one splice after the other. -/
def collectAllInto (collected : Array Fragment) : List Splice → Array Fragment
  | [] => collected
  | splice :: splices => collectAllInto (splice.collectInto collected) splices
end

/-- The fragments met in several splices. -/
def collectAll (splices : List Splice) : List Fragment :=
  (collectAllInto #[] splices).toList

/-! ### The pre-order of a nesting -/

mutual
/-- A fragment, and behind it the pre-orders of its children. -/
def Fragment.preorder : Fragment → List Fragment
  | ⟨serial, name, segments, children⟩ => ⟨serial, name, segments, children⟩ :: preorders children
/-- The pre-order of a spliced fragment; plain text has an empty one. -/
def Splice.preorder : Splice → List Fragment
  | .leaf _ => []
  | .fragment f => f.preorder
/-- The pre-orders of several splices in a row. -/
def preorders : List Splice → List Fragment
  | [] => []
  | splice :: splices => splice.preorder ++ preorders splices
end

theorem Fragment.preorder_eq (f : Fragment) : f.preorder = f :: preorders f.children := by
  cases f
  rfl

@[simp] theorem Splice.preorder_leaf (text : String) : (leaf text).preorder = [] := rfl

@[simp] theorem Splice.preorder_fragment (f : Fragment) : (fragment f).preorder = f.preorder := rfl

theorem preorders_eq_flatMap (splices : List Splice) :
    preorders splices = splices.flatMap Splice.preorder := by
  induction splices with
  | nil => rfl
  | cons splice splices ih => rw [preorders, ih, List.flatMap_cons]

mutual
/-- Collecting from a fragment appends its pre-order. -/
theorem Fragment.toList_collectInto (collected : Array Fragment) (f : Fragment) :
    (f.collectInto collected).toList = collected.toList ++ f.preorder := by
  cases f with
  | mk serial name segments children =>
      rw [Fragment.collectInto, toList_collectAllInto, Fragment.preorder]
      simp
/-- Collecting from a splice appends its pre-order. -/
theorem Splice.toList_collectInto (collected : Array Fragment) (splice : Splice) :
    (splice.collectInto collected).toList = collected.toList ++ splice.preorder := by
  cases splice with
  | leaf text => simp [Splice.collectInto]
  | fragment f => exact f.toList_collectInto collected
/-- Collecting from splices appends their pre-orders. -/
theorem toList_collectAllInto (collected : Array Fragment) (splices : List Splice) :
    (collectAllInto collected splices).toList = collected.toList ++ preorders splices := by
  cases splices with
  | nil => simp [collectAllInto, preorders]
  | cons splice splices =>
      rw [collectAllInto, toList_collectAllInto, Splice.toList_collectInto, preorders,
        List.append_assoc]
end

@[simp] theorem collectAll_eq_preorders (splices : List Splice) :
    collectAll splices = preorders splices := by
  simp [collectAll, toList_collectAllInto]

/-! ### One fragment for each name -/

/-- One fragment for each name, the last one of the list, in ascending order of names. -/
def onePerName (fragments : List Fragment) : List Fragment :=
  KeyOrder.ofList Fragment.name fragments

theorem pairwise_onePerName (fragments : List Fragment) :
    (onePerName fragments).Pairwise fun f g => f.name < g.name :=
  KeyOrder.pairwise_ofList Fragment.name fragments

/-- What the log says about reducing `fragments` to one for each name. -/
def deduplicationRecord (fragments : List Fragment) : LogRecord :=
  .fragmentsDeduplicated fragments.length (onePerName fragments).length

end QueryWeave

namespace QueryWeave.Template

/-! ### Assembling -/

/-- The fragments that a template needs, one for each name. -/
def fragments (t : Template) : List Fragment :=
  onePerName (collectAll t.splices)

/-- The definitions that a template needs, one to a line feed. -/
def definitions (t : Template) : String :=
  "\n".intercalate (t.fragments.map Fragment.definition)

/-- The assembled text: the definitions are appended to the last segment before the segments are
interleaved with the texts of the splices. -/
def documentText (t : Template) : String :=
  weave (appendLast t.segments t.definitions) (t.splices.map Splice.name)

/-- What the log says about assembling a document from `t`. -/
def assemblyRecords (t : Template) : List LogRecord :=
  let collected := collectAll t.splices
  [.fragmentsCollected collected.length, deduplicationRecord collected,
    .documentAssembled t.documentText.utf8ByteSize]

end QueryWeave.Template
