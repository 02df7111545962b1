/-
**Templates.**

A template is literal text with places where something is spliced in: a list of segments with one
splice between each two neighbours.  It is made from the two lists, or step by step from parts.  Its
text comes from alternating the segments with the texts of the splices.

Main definitions:

* `QueryWeave.weave` — `s₀ n₀ s₁ n₁ …`; missing names add nothing, and names beyond the one
  that follows the last segment are dropped;
* `QueryWeave.appendLast` — a list of segments with more text at the end of the last one;
* `QueryWeave.Template` — segments and splices, with one segment more than splices;
* `QueryWeave.Template.ofLists` — a template from its two lists, if their lengths fit;
* `QueryWeave.Template.ofText` — a template with nothing spliced in;
* `QueryWeave.Template.ofParts` — a template from texts and splices in the order of reading;
* `QueryWeave.Template.body` — the segments interleaved with the texts of the splices.
-/

import QueryWeave.Fragment.Basic

set_option relaxedAutoImplicit false
set_option autoImplicit false

namespace QueryWeave

/-! ### Interleaving -/

/-- Alternates segments with names, beginning with a segment. -/
def weave : List String → List String → String
  | [], _ => ""
  | segment :: segments, [] => segment ++ weave segments []
  | segment :: segments, name :: names => segment ++ name ++ weave segments names

@[simp] theorem weave_nil (names : List String) : weave [] names = "" := rfl

@[simp] theorem weave_singleton (segment : String) : weave [segment] [] = segment := by
  simp [weave]

/-- Appends `text` to the last of the segments; without segments there is nothing to append to. -/
def appendLast : List String → String → List String
  | [], _ => []
  | [segment], text => [segment ++ text]
  | segment :: next :: segments, text => segment :: appendLast (next :: segments) text

@[simp] theorem length_appendLast (segments : List String) (text : String) :
    (appendLast segments text).length = segments.length := by
  fun_induction appendLast segments text <;> simp_all

/-- On a list that ends in `segment`, only that end changes. -/
@[simp] theorem appendLast_append_singleton (segments : List String) (segment text : String) :
    appendLast (segments ++ [segment]) text = segments ++ [segment ++ text] := by
  induction segments with
  | nil => rfl
  | cons s segments ih =>
      cases segments with
      | nil => rfl
      | cons t segments => simpa [appendLast] using ih

/-! ### Templates -/

/-- Literal segments with a splice between each two neighbours. -/
structure Template where
  segments : List String
  splices : List Splice
  length_segments : segments.length = splices.length + 1

/-- The numbers of segments and splices do not fit together. -/
structure CountMismatch where
  numSegments : Nat
  numSplices : Nat
  deriving DecidableEq, Repr

/-- How the mismatch is told to the user. -/
def CountMismatch.message (mismatch : CountMismatch) : String :=
  s!"A template with {mismatch.numSplices} interpolated values needs {mismatch.numSplices + 1} " ++
    s!"literal segments, but {mismatch.numSegments} were given."

namespace Template

/-- The template with the given segments and splices. -/
def ofLists (segments : List String) (splices : List Splice) :
    Except CountMismatch Template :=
  if h : segments.length = splices.length + 1 then .ok ⟨segments, splices, h⟩
  else .error ⟨segments.length, splices.length⟩

/-- A template of literal text alone. -/
def ofText (text : String) : Template :=
  ⟨[text], [], rfl⟩

/-- The segments interleaved with the texts of the splices. -/
def body (t : Template) : String :=
  weave t.segments (t.splices.map Splice.name)

/-- Two templates agree when their segments are equal and their splices agree in pairs. -/
def agrees (s t : Template) : Bool :=
  s.segments == t.segments && s.splices.length == t.splices.length &&
    (s.splices.zip t.splices).all fun pair => pair.1.agrees pair.2

/-! ### Building a template part by part -/

/-- A part of a template under construction. -/
inductive Part where
  | text (text : String)
  | splice (splice : Splice)

/-- The template of no parts: one empty segment. -/
def empty : Template :=
  ofText ""

/-- Text goes to the end of the last segment. -/
def addText (t : Template) (text : String) : Template :=
  ⟨appendLast t.segments text, t.splices, by simp [t.length_segments]⟩

/-- A splice ends the last segment and begins an empty one. -/
def addSplice (t : Template) (splice : Splice) : Template :=
  ⟨t.segments ++ [""], t.splices ++ [splice], by simp [t.length_segments]⟩

/-- Adds one part at the end. -/
def addPart (t : Template) : Part → Template
  | .text text => t.addText text
  | .splice splice => t.addSplice splice

/-- The template that the parts make up in their order. -/
def ofParts (parts : List Part) : Template :=
  parts.foldl addPart empty

@[simp] theorem ofParts_nil : ofParts [] = empty := rfl

@[simp] theorem ofParts_append_singleton (parts : List Part) (part : Part) :
    ofParts (parts ++ [part]) = (ofParts parts).addPart part := by
  simp [ofParts]

end Template

end QueryWeave
