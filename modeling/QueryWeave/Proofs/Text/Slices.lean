/-
**Slices of a text between two bytes.**

A text can be sliced at the boundaries of its characters only: a byte within a character, or one
that lies outside the text, is no place to cut.  So the parts of a text are all its slices, and each
is found between the numbers of bytes in front of it and behind it.

Main definitions:

* `QueryWeave.Text.slice?` — the text between two bytes, if it can be cut there;
* `QueryWeave.Text.bytesBefore` — the number of bytes in front of a part of a text.

Main results:

* `QueryWeave.Text.isValid_iff` — where a text can be cut;
* `QueryWeave.Text.slice?_eq_some_iff` — **the slices of a text are its parts**.
-/

import Mathlib.Data.String.Basic
import QueryWeave.Text.Cut

set_option relaxedAutoImplicit false
set_option autoImplicit false

namespace QueryWeave.Text

/-- The text from the byte `start` up to the byte `stop`.  There is none if they come in the wrong
order, or if one of them lies outside the text or within a character. -/
def slice? (text : String) (start stop : Nat) : Option String :=
  if start ≤ stop ∧ String.Pos.Raw.isValid text ⟨start⟩ ∧ String.Pos.Raw.isValid text ⟨stop⟩ then
    some (String.Pos.Raw.extract text ⟨start⟩ ⟨stop⟩)
  else none

/-- The number of bytes in front of the first occurrence of `part`. -/
def bytesBefore (part : List Char) : List Char → Option Nat
  | [] => none
  | c :: cs =>
      if part.isPrefixOf (c :: cs) then some 0
      else (bytesBefore part cs).map fun bytes => c.utf8Size + bytes

/-! ### Counting bytes -/

theorem byteLength_eq_utf8Len (cs : List Char) : byteLength cs = String.utf8Len cs := by
  induction cs with
  | nil => rfl
  | cons c cs ih => rw [byteLength_cons, ih, String.utf8Len_cons, Nat.add_comm]

@[simp] theorem byteLength_toList (text : String) :
    byteLength text.toList = text.utf8ByteSize := by
  rw [byteLength_eq_utf8Len, String.utf8Len_toList]

@[simp] theorem utf8ByteSize_ofList (cs : List Char) :
    (String.ofList cs).utf8ByteSize = byteLength cs := by
  rw [byteLength_eq_utf8Len, String.utf8ByteSize_ofList]

/-- In front of a character there are the bytes of the text up to its first occurrence. -/
theorem bytesBefore_singleton (mark : Char) (cs : List Char) :
    bytesBefore [mark] cs = (cutFirst mark cs).map fun cut => byteLength cut.1 := by
  induction cs with
  | nil => rfl
  | cons c cs ih =>
      rw [bytesBefore, cutFirst, ih]
      by_cases hc : c = mark
      · simp [hc]
      · have hmark : mark ≠ c := Ne.symm hc
        simp [hc, hmark, Function.comp_def]

/-! ### Slices -/

/-- A text can be cut where one part of it ends and another begins. -/
theorem isValid_iff {text : String} {n : Nat} :
    String.Pos.Raw.isValid text ⟨n⟩ = true ↔
      ∃ before behind, text = before ++ behind ∧ n = before.utf8ByteSize := by
  rw [String.Pos.Raw.isValid_eq_true_iff, String.Pos.Raw.isValid_iff_exists_append]
  simp [String.Pos.Raw.ext_iff, String.rawEndPos]

/-- Of two places where a text can be cut, the part in front of the first one is a part of what is
in front of the second one. -/
theorem exists_append_of_le {before rest front behind : String}
    (h : before ++ rest = front ++ behind) (hle : before.utf8ByteSize ≤ front.utf8ByteSize) :
    ∃ between, front = before ++ between := by
  have hlists := congrArg String.toList h
  rw [String.toList_append, String.toList_append] at hlists
  rcases List.append_eq_append_iff.1 hlists with ⟨cs, hfront, -⟩ | ⟨cs, hbefore, -⟩
  · refine ⟨String.ofList cs, String.toList_inj.1 ?_⟩
    simpa using hfront
  · have hcut : before = front ++ String.ofList cs := by
      refine String.toList_inj.1 ?_
      simpa using hbefore
    rw [hcut, String.utf8ByteSize_append] at hle
    have hempty : (String.ofList cs).utf8ByteSize = 0 := by omega
    refine ⟨"", ?_⟩
    rw [hcut, String.utf8ByteSize_eq_zero_iff.1 hempty, String.append_empty, String.append_empty]

/-- A part of a text is the slice between the bytes in front of it and those behind it. -/
theorem slice?_append (before between behind : String) :
    slice? (before ++ between ++ behind) before.utf8ByteSize
      (before.utf8ByteSize + between.utf8ByteSize) = some between := by
  have hstart : String.Pos.Raw.isValid (before ++ between ++ behind) ⟨before.utf8ByteSize⟩ = true :=
    isValid_iff.2 ⟨before, between ++ behind, String.append_assoc, rfl⟩
  have hstop : String.Pos.Raw.isValid (before ++ between ++ behind)
      ⟨before.utf8ByteSize + between.utf8ByteSize⟩ = true :=
    isValid_iff.2 ⟨before ++ between, behind, rfl, String.utf8ByteSize_append.symm⟩
  have hextract := String.extract_of_valid before.toList between.toList behind.toList
  rw [slice?, if_pos ⟨Nat.le_add_right _ _, hstart, hstop⟩]
  simpa [String.append_assoc] using hextract

/-- **The slices of a text are its parts.** -/
theorem slice?_eq_some_iff {text slice : String} {start stop : Nat} :
    slice? text start stop = some slice ↔
      ∃ before behind, text = before ++ slice ++ behind ∧ start = before.utf8ByteSize ∧
        stop = before.utf8ByteSize + slice.utf8ByteSize := by
  constructor
  · intro h
    have hbounds : start ≤ stop ∧ String.Pos.Raw.isValid text ⟨start⟩ ∧
        String.Pos.Raw.isValid text ⟨stop⟩ := by
      by_contra hnot
      rw [slice?, if_neg hnot] at h
      cases h
    obtain ⟨hle, hstart, hstop⟩ := hbounds
    obtain ⟨before, rest, heq, rfl⟩ := isValid_iff.1 hstart
    obtain ⟨front, behind, rfl, rfl⟩ := isValid_iff.1 hstop
    obtain ⟨between, rfl⟩ := exists_append_of_le heq.symm hle
    rw [String.utf8ByteSize_append, slice?_append] at h
    cases h
    exact ⟨before, behind, rfl, rfl, String.utf8ByteSize_append⟩
  · rintro ⟨before, behind, rfl, rfl, rfl⟩
    exact slice?_append before slice behind

/-- What is behind a first part that is not empty is shorter than the text. -/
theorem utf8ByteSize_lt_of_slice? {text slice : String} {start : Nat} (hstart : 0 < start)
    (h : slice? text start text.utf8ByteSize = some slice) :
    slice.utf8ByteSize < text.utf8ByteSize := by
  obtain ⟨before, behind, -, rfl, hstop⟩ := slice?_eq_some_iff.1 h
  omega

/-- The slices of a text that is given by its characters. -/
theorem slice?_ofList {cs between : List Char} (before behind : List Char)
    (h : cs = before ++ between ++ behind) {start stop : Nat} (hstart : start = byteLength before)
    (hstop : stop = start + byteLength between) :
    slice? (String.ofList cs) start stop = some (String.ofList between) := by
  refine slice?_eq_some_iff.2 ⟨String.ofList before, String.ofList behind, ?_, ?_, ?_⟩
  · rw [h, String.ofList_append, String.ofList_append]
  · rw [hstart, utf8ByteSize_ofList]
  · rw [hstop, hstart, utf8ByteSize_ofList, utf8ByteSize_ofList]

end QueryWeave.Text
