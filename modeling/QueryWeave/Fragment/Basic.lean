/-
**Fragments and what is spliced into them.**

A fragment is a piece of GraphQL under construction: literal segments with something spliced between
each two of them, either plain text or another fragment, which shows up by its name only.  Fragments
are shared, so each one carries the serial number it got when it was built: two occurrences are the
same instance exactly when their serial numbers are equal, whereas equal names only say that the
contents agree as far as their hashes tell.

Texts, whole numbers and floating-point numbers can be spliced in as plain text; all that counts of
them is their text.

Main definitions:

* `QueryWeave.Splice`, `QueryWeave.Fragment` — the two types, defined together;
* `QueryWeave.Splice.name` — the text that a splice contributes;
* `QueryWeave.Fragment.agrees`, `QueryWeave.Splice.agrees` — equality by name;
* `QueryWeave.Fragment.sameInstance` — equality by serial number;
* `QueryWeave.PlainValue`, `QueryWeave.PlainValue.text` — plain values and their texts.
-/

import QueryWeave.Decimal

set_option relaxedAutoImplicit false
set_option autoImplicit false

namespace QueryWeave

mutual
/-- What stands between two segments: plain text, or a fragment that is defined elsewhere. -/
inductive Splice where
  | leaf (text : String)
  | fragment (fragment : Fragment)
/-- A named fragment.  Of the segments there is one more than of the children. -/
structure Fragment where
  serial : Nat
  name : String
  segments : List String
  children : List Splice
end

instance : Inhabited Splice := ⟨.leaf ""⟩

instance : Inhabited Fragment := ⟨⟨0, "", [], []⟩⟩

namespace Splice

/-- The text a splice contributes: its own text, or the name of the fragment. -/
def name : Splice → String
  | .leaf text => text
  | .fragment f => f.name

/-- The fragment of a splice, if it is one. -/
def fragment? : Splice → Option Fragment
  | .leaf _ => none
  | .fragment f => some f

@[simp] theorem name_leaf (text : String) : (leaf text).name = text := rfl

@[simp] theorem name_fragment (f : Fragment) : (fragment f).name = f.name := rfl

@[simp] theorem fragment?_leaf (text : String) : (leaf text).fragment? = none := rfl

@[simp] theorem fragment?_fragment (f : Fragment) : (fragment f).fragment? = some f := rfl

/-- Two splices agree when they are of the same kind and contribute the same text. -/
def agrees : Splice → Splice → Bool
  | .leaf s, .leaf t => s == t
  | .fragment f, .fragment g => f.name == g.name
  | _, _ => false

end Splice

namespace Fragment

/-- The texts that the children contribute, in order. -/
def childTexts (f : Fragment) : List String :=
  f.children.map Splice.name

/-- Two fragments agree when their names are equal. -/
def agrees (f g : Fragment) : Bool :=
  f.name == g.name

/-- Two occurrences are the same instance when they come from one construction. -/
def sameInstance (f g : Fragment) : Bool :=
  f.serial == g.serial

end Fragment

/-! ### Plain values -/

/-- A value that is spliced in as plain text. -/
inductive PlainValue where
  | verbatim (text : String)
  | integer (value : Int)
  | number (format : Decimal.BinaryFormat) (value : Decimal.Number)

/-- The text of a plain value: itself, or the decimal of a number. -/
def PlainValue.text : PlainValue → String
  | .verbatim text => text
  | .integer value => toString value
  | .number format value => value.text format

/-- A plain value, spliced in. -/
def Splice.ofPlain (value : PlainValue) : Splice :=
  .leaf value.text

@[simp] theorem Splice.name_ofPlain (value : PlainValue) : (ofPlain value).name = value.text := rfl

end QueryWeave
