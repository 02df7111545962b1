/-
**Names made from content.**

A fragment is named after what it says.  Its content is hashed by the rolling rule
`h ↦ 31 * h + unit` over the UTF-16 code units, in wrapping arithmetic on signed 32-bit words, and
the magnitude of the hash, written in base 36, is the last part of the name.

A character below U+10000 is one 16-bit unit, any other character is a pair of surrogates: the ten
high bits of its code point less 0x10000 on top of 0xD800, then the ten low bits on top of 0xDC00.

Main definitions:

* `QueryWeave.Text.units` — the UTF-16 code units of a text;
* `QueryWeave.fingerprint` — the hash of a text;
* `QueryWeave.base36` — a number in base 36, with the digits `0` to `9` and `a` to `z`;
* `QueryWeave.contentName` — the name for some content.

Main results:

* `QueryWeave.Text.length_units` — how many units a text has;
* `QueryWeave.fingerprint_append` — hashing goes on from the hash of the part before.
-/

set_option relaxedAutoImplicit false
set_option autoImplicit false

namespace QueryWeave.Text

/-! ### UTF-16 code units -/

/-- The UTF-16 code units of one character. -/
def unitsOfChar (c : Char) : List UInt16 :=
  if c.toNat < 0x10000 then [c.toNat.toUInt16]
  else
    [(0xD800 + (c.toNat - 0x10000) / 0x400).toUInt16,
      (0xDC00 + (c.toNat - 0x10000) % 0x400).toUInt16]

/-- The UTF-16 code units of a text. -/
def units (text : String) : List UInt16 :=
  text.toList.flatMap unitsOfChar

@[simp] theorem units_empty : units "" = [] := rfl

@[simp] theorem units_append (s t : String) : units (s ++ t) = units s ++ units t := by
  simp [units]

/-- Units are counted one or two to a character. -/
theorem length_unitsOfChar (c : Char) :
    (unitsOfChar c).length = if c.toNat < 0x10000 then 1 else 2 := by
  unfold unitsOfChar
  split <;> rfl

/-- There are as many units as characters, and one more for each character that takes two. -/
theorem length_units (text : String) :
    (units text).length = text.length + text.toList.countP (0x10000 ≤ ·.toNat) := by
  rw [units, ← String.length_toList]
  induction text.toList with
  | nil => rfl
  | cons c cs ih =>
      rw [List.flatMap_cons, List.length_append, length_unitsOfChar, ih, List.length_cons,
        List.countP_cons]
      simp only [decide_eq_true_eq]
      split <;> split <;> omega

end QueryWeave.Text

namespace QueryWeave

/-! ### The hash -/

/-- One step of the hash: 31 times the hash so far, as a shift and a difference, plus the unit. -/
def fingerprintStep (hash : Int32) (unit : UInt16) : Int32 :=
  (hash <<< 5) - hash + Int32.ofNat unit.toNat

/-- The hash of a text: a signed 32-bit fingerprint of its UTF-16 code units. -/
def fingerprint (text : String) : Int32 :=
  (Text.units text).foldl fingerprintStep 0

@[simp] theorem fingerprint_empty : fingerprint "" = 0 := rfl

/-- Hashing a text goes on from the hash of its first part. -/
theorem fingerprint_append (s t : String) :
    fingerprint (s ++ t) = (Text.units t).foldl fingerprintStep (fingerprint s) := by
  simp [fingerprint]

/-! ### Base 36 -/

/-- The digit for a number below 36: `0` to `9`, then `a` to `z`. -/
def base36Digit (n : Nat) : Char :=
  if n < 10 then Char.ofNat (48 + n) else Char.ofNat (87 + n)

/-- The base-36 digits of `n`, the most significant one first; none for zero. -/
def base36Digits (n : Nat) : List Char :=
  if n = 0 then [] else base36Digits (n / 36) ++ [base36Digit (n % 36)]
termination_by n

/-- `n` in base 36, without leading zeros. -/
def base36 (n : Nat) : String :=
  if n = 0 then "0" else String.ofList (base36Digits n)

/-! ### The name -/

/-- The name that content gets: the magnitude of its hash in base 36. -/
def contentName (content : String) : String :=
  "fragment_" ++ base36 (fingerprint content).toInt.natAbs

end QueryWeave
