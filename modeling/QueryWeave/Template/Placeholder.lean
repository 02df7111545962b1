/-
**Template texts with placeholders.**

In a template file a placeholder such as `${key}` marks the place where a value goes.  Reading a
file takes it apart into the keys of its placeholders and the literal segments between them; blanks
around a key do not count.  Reading goes from left to right, and the first placeholder that is not
closed, has no key or has a key with a foreign character in it ends it.

What lies between two braces is cut up by this, so that many texts have a brace without its partner.
Here and in all that follows such a brace is written by its code, `\x7b` or `\x7d`.

Main definitions:

* `QueryWeave.Source` — keys and segments;
* `QueryWeave.PlaceholderFault`, `QueryWeave.PlaceholderFault.message` — what can be wrong;
* `QueryWeave.Source.parse` — taking a text apart.

Main results:

* `QueryWeave.eq_append_of_splitOpen` — cutting where a placeholder opens loses nothing but its
  mark.
-/

import QueryWeave.Text.Alphanumeric
import QueryWeave.Text.Blank
import QueryWeave.Text.Cut

set_option relaxedAutoImplicit false
set_option autoImplicit false

namespace QueryWeave

/-- A template text taken apart: the keys of its placeholders, and the segments around them. -/
structure Source where
  keys : List String
  segments : List String
  deriving DecidableEq, Repr

/-- A placeholder that cannot be read.  Offsets count the bytes in front of its `$`. -/
inductive PlaceholderFault where
  | unclosed (offset : Nat)
  | empty (offset : Nat)
  | invalidKey (offset : Nat) (key : String)
  deriving DecidableEq, Repr

/-- How a fault is told to the user. -/
def PlaceholderFault.message : PlaceholderFault → String
  | .unclosed offset => s!"Placeholder opened at byte {offset} is never closed"
  | .empty offset => s!"Empty `$\x7b\x7d` placeholder at byte {offset}"
  | .invalidKey offset key => s!"Invalid placeholder key `{key}` at byte {offset}"

/-! ### Where a placeholder opens -/

/-- The text in front of the first `${` and the text behind it. -/
def splitOpen : List Char → Option (List Char × List Char)
  | [] => none
  | '$' :: '{' :: rest => some ([], rest)
  | c :: rest => (splitOpen rest).map fun cut => (c :: cut.1, cut.2)

theorem eq_append_of_splitOpen {cs segment rest : List Char}
    (h : splitOpen cs = some (segment, rest)) : cs = segment ++ '$' :: '{' :: rest := by
  fun_induction splitOpen cs generalizing segment with
  | case1 => simp at h
  | case2 rest' =>
      obtain ⟨rfl, rfl⟩ : [] = segment ∧ rest' = rest := by simpa using h
      rfl
  | case3 c cs _ ih =>
      obtain ⟨⟨a, b⟩, hab, heq⟩ := Option.map_eq_some_iff.1 h
      obtain ⟨rfl, rfl⟩ : c :: a = segment ∧ b = rest := by simpa using heq
      rw [ih hab, List.cons_append]

/-! ### Reading -/

/-- Whether `c` may stand in a key. -/
def isKeySymbol (c : Char) : Bool :=
  Text.isAlphanumeric c || c == '_' || c == '-' || c == '.'

/-- Takes apart the text `cs`, in front of which there are `offset` bytes. -/
def Source.parseFrom (offset : Nat) (cs : List Char) : Except PlaceholderFault Source :=
  match hopen : splitOpen cs with
  | none => .ok ⟨[], [String.ofList cs]⟩
  | some (segment, behind) =>
      let opening := offset + Text.byteLength segment
      match hclose : Text.cutFirst '}' behind with
      | none => .error (.unclosed opening)
      | some (inside, rest) =>
          have : rest.length < cs.length := by
            simp [eq_append_of_splitOpen hopen, (Text.eq_append_of_cutFirst hclose).1]
            omega
          let key := Text.trim inside
          if key = [] then .error (.empty opening)
          else if key.all isKeySymbol then
            match parseFrom (opening + 2 + Text.byteLength inside + 1) rest with
            | .error fault => .error fault
            | .ok source =>
                .ok ⟨String.ofList key :: source.keys, String.ofList segment :: source.segments⟩
          else .error (.invalidKey opening (String.ofList key))
termination_by cs.length

/-- Takes a template text apart into keys and segments. -/
def Source.parse (text : String) : Except PlaceholderFault Source :=
  parseFrom 0 text.toList

end QueryWeave
