/-
**Texts and their bytes.**

Texts are compared by code points.  In UTF-8 a smaller code point has the smaller bytes, compared
from the first on, and no character is the beginning of another one; so comparing the bytes of two
texts gives the same answer.

Bytes that are a text are read as this text, with nothing stray among them.  So raw texts that are
texts differ when they are shown as different texts, while others may be shown alike.

Main results:

* `QueryWeave.Text.bytes_lt_bytes_iff` — **a text is smaller when its bytes are**;
* `QueryWeave.Text.piecesFrom_utf8EncodeChar` — the bytes of a character are read as it;
* `QueryWeave.Text.text_bytes` — **the bytes of a text are shown as it**.
-/

import Mathlib.Data.String.Basic
import Mathlib.Tactic.SplitIfs
import QueryWeave.Text.Utf8

set_option relaxedAutoImplicit false
set_option autoImplicit false

namespace QueryWeave.Text

theorem bytes_eq_flatMap (s : String) : bytes s = s.toList.flatMap String.utf8EncodeChar := by
  have h : s.toByteArray = s.toList.utf8Encode := by
    rw [← String.toByteArray_ofList, String.ofList_toList]
  simp [bytes, String.toUTF8, h, List.utf8Encode]

/-! ### Order -/

private theorem ofNat_lt_ofNat_iff {m n : Nat} (hm : m < 256) (hn : n < 256) :
    UInt8.ofNat m < UInt8.ofNat n ↔ m < n := by
  rw [UInt8.lt_iff_toNat_lt, UInt8.toNat_ofNat_of_lt' hm, UInt8.toNat_ofNat_of_lt' hn]

private theorem ofNat_eq_ofNat_iff {m n : Nat} (hm : m < 256) (hn : n < 256) :
    UInt8.ofNat m = UInt8.ofNat n ↔ m = n := by
  rw [← UInt8.toNat_inj, UInt8.toNat_ofNat_of_lt' hm, UInt8.toNat_ofNat_of_lt' hn]

/-- Where two characters differ their bytes do, whatever comes behind them. -/
theorem append_lt_append_of_lt {c d : Char} (h : c < d) (x y : List UInt8) :
    String.utf8EncodeChar c ++ x < String.utf8EncodeChar d ++ y := by
  have hlt : c.val.toNat < d.val.toNat := h
  have hd : d.val.toNat < 1114112 := by
    have hvalid := d.valid
    simp only [UInt32.isValidChar, Nat.isValidChar] at hvalid
    omega
  -- all digits to the base 64 are taken off one by one
  have hsecond (k : Nat) : k / 4096 = k / 64 / 64 := (Nat.div_div_eq_div_mul k 64 64).symm
  have hthird (k : Nat) : k / 262144 = k / 64 / 64 / 64 := by
    rw [Nat.div_div_eq_div_mul, Nat.div_div_eq_div_mul]
  simp only [String.utf8EncodeChar, hsecond, hthird]
  generalize c.val.toNat = m at hlt
  generalize d.val.toNat = n at hlt hd
  -- one case for each pair of widths
  split_ifs <;>
    simp (disch := omega) only [List.cons_append, List.nil_append, List.cons_lt_cons_iff,
      ofNat_lt_ofNat_iff, ofNat_eq_ofNat_iff] <;> omega

theorem flatMap_lt_flatMap_of_lt {cs ds : List Char} (h : cs < ds) :
    cs.flatMap String.utf8EncodeChar < ds.flatMap String.utf8EncodeChar := by
  induction cs generalizing ds with
  | nil =>
      cases ds with
      | nil => exact absurd h (List.lt_irrefl _)
      | cons d ds =>
          rw [List.flatMap_nil, List.flatMap_cons]
          have hne : String.utf8EncodeChar d ≠ [] := String.utf8EncodeChar_ne_nil
          obtain ⟨first, others, heq⟩ := List.exists_cons_of_ne_nil hne
          rw [heq, List.cons_append]
          exact List.nil_lt_cons _ _
  | cons c cs ih =>
      cases ds with
      | nil => exact absurd h (List.not_lt_nil _)
      | cons d ds =>
          rw [List.flatMap_cons, List.flatMap_cons]
          rcases List.cons_lt_cons_iff.1 h with hlt | ⟨rfl, hrest⟩
          · exact append_lt_append_of_lt hlt _ _
          · exact List.append_left_lt (ih hrest)

/-- **A text is smaller than another one when its bytes are.** -/
theorem bytes_lt_bytes_iff {s t : String} : bytes s < bytes t ↔ s < t := by
  rw [bytes_eq_flatMap, bytes_eq_flatMap, String.lt_iff_toList_lt]
  refine ⟨fun h => ?_, flatMap_lt_flatMap_of_lt⟩
  rcases lt_trichotomy s.toList t.toList with hlt | heq | hgt
  · exact hlt
  · rw [heq] at h
    exact absurd h (List.lt_irrefl _)
  · exact absurd (List.lt_trans h (flatMap_lt_flatMap_of_lt hgt)) (List.lt_irrefl _)

/-! ### Reading what was written -/

/-- A byte that begins a character leaves it open. -/
theorem piecesFrom_lead {n : Nat} {p : PartialChar} (hn : 0x80 ≤ n) (hn' : n < 256)
    (hp : PartialChar.ofLead n = some p) (bytes : List UInt8) :
    piecesFrom none (UInt8.ofNat n :: bytes) = piecesFrom (some (p, [UInt8.ofNat n])) bytes := by
  rw [piecesFrom, openPiece, UInt8.toNat_ofNat_of_lt' hn', if_neg (Nat.not_lt.2 hn)]
  simp only [hp, List.nil_append]

/-- The next byte of an open character that is not its last one. -/
theorem piecesFrom_next {seen bits missing low high n : Nat} {begun : List UInt8} (hlow : low ≤ n)
    (hhigh : n ≤ high) (hn : n < 256) (bytes : List UInt8) :
    piecesFrom (some (⟨seen, bits, missing + 2, low, high⟩, begun)) (UInt8.ofNat n :: bytes) =
      piecesFrom (some (⟨seen + 1, bits * 0x40 + n % 0x40, missing + 1, 0x80, 0xBF⟩,
        begun ++ [UInt8.ofNat n])) bytes := by
  rw [piecesFrom, UInt8.toNat_ofNat_of_lt' hn, if_pos ⟨hlow, hhigh⟩]
  rfl

/-- The last byte of an open character. -/
theorem piecesFrom_last {seen bits low high n : Nat} {begun : List UInt8} (hlow : low ≤ n)
    (hhigh : n ≤ high) (hn : n < 256) (bytes : List UInt8) :
    piecesFrom (some (⟨seen, bits, 1, low, high⟩, begun)) (UInt8.ofNat n :: bytes) =
      .char (Char.ofNat (bits * 0x40 + n % 0x40)) :: piecesFrom none bytes := by
  rw [piecesFrom, UInt8.toNat_ofNat_of_lt' hn, if_pos ⟨hlow, hhigh⟩]
  rfl

/-- The first of three bytes leaves room for the second one: no character is written in more bytes
than it needs, and none is a surrogate. -/
theorem exists_ofLead_of_three {n : Nat} (hn : 0x7FF < n) (hn' : n ≤ 0xFFFF)
    (hsurrogate : n < 0xD800 ∨ 0xDFFF < n) :
    ∃ low high, PartialChar.ofLead (n / 4096 % 16 + 224) =
        some ⟨1, (n / 4096 % 16 + 224) % 0x10, 2, low, high⟩ ∧
      low ≤ n / 64 % 64 + 128 ∧ n / 64 % 64 + 128 ≤ high := by
  unfold PartialChar.ofLead
  split_ifs <;> first | omega | exact ⟨_, _, rfl, by omega, by omega⟩

theorem exists_ofLead_of_four {n : Nat} (hn : 0xFFFF < n) (hn' : n ≤ 0x10FFFF) :
    ∃ low high, PartialChar.ofLead (n / 262144 % 8 + 240) =
        some ⟨1, (n / 262144 % 8 + 240) % 0x08, 3, low, high⟩ ∧
      low ≤ n / 4096 % 64 + 128 ∧ n / 4096 % 64 + 128 ≤ high := by
  unfold PartialChar.ofLead
  split_ifs <;> first | omega | exact ⟨_, _, rfl, by omega, by omega⟩

/-- The bytes of a character are read as this character. -/
theorem piecesFrom_utf8EncodeChar (c : Char) (bytes : List UInt8) :
    piecesFrom none (String.utf8EncodeChar c ++ bytes) = .char c :: piecesFrom none bytes := by
  have hvalid : c.val.toNat < 0xD800 ∨ 0xDFFF < c.val.toNat ∧ c.val.toNat < 0x110000 := c.valid
  have hc : Char.ofNat c.val.toNat = c := Char.ofNat_toNat c
  rw [String.utf8EncodeChar]
  generalize c.val.toNat = n at hvalid hc
  -- one case for each width
  split_ifs with hone htwo hthree
  · have hbyte : n < 256 := by omega
    rw [List.singleton_append, piecesFrom, openPiece, UInt8.toNat_ofNat_of_lt' hbyte,
      if_pos (by omega), hc, List.singleton_append]
  · have hlead : PartialChar.ofLead (n / 64 % 32 + 192) =
        some ⟨1, (n / 64 % 32 + 192) % 0x20, 1, 0x80, 0xBF⟩ := if_pos (by omega)
    have hbits : (n / 64 % 32 + 192) % 0x20 * 0x40 + (n % 64 + 128) % 0x40 = n := by omega
    rw [List.cons_append, List.singleton_append, piecesFrom_lead (by omega) (by omega) hlead,
      piecesFrom_last (by omega) (by omega) (by omega), hbits, hc]
  · obtain ⟨low, high, hlead, hlow, hhigh⟩ :=
      exists_ofLead_of_three (Nat.lt_of_not_le htwo) hthree (by omega)
    have hbits : ((n / 4096 % 16 + 224) % 0x10 * 0x40 + (n / 64 % 64 + 128) % 0x40) * 0x40 +
        (n % 64 + 128) % 0x40 = n := by omega
    rw [List.cons_append, List.cons_append, List.singleton_append,
      piecesFrom_lead (by omega) (by omega) hlead, piecesFrom_next hlow hhigh (by omega),
      piecesFrom_last (by omega) (by omega) (by omega), hbits, hc]
  · obtain ⟨low, high, hlead, hlow, hhigh⟩ :=
      exists_ofLead_of_four (Nat.lt_of_not_le hthree) (by omega)
    have hbits : (((n / 262144 % 8 + 240) % 0x08 * 0x40 + (n / 4096 % 64 + 128) % 0x40) * 0x40 +
        (n / 64 % 64 + 128) % 0x40) * 0x40 + (n % 64 + 128) % 0x40 = n := by omega
    rw [List.cons_append, List.cons_append, List.cons_append, List.singleton_append,
      piecesFrom_lead (by omega) (by omega) hlead, piecesFrom_next hlow hhigh (by omega),
      piecesFrom_next (by omega) (by omega) (by omega),
      piecesFrom_last (by omega) (by omega) (by omega), hbits, hc]

/-- The bytes of a text are read as its characters. -/
theorem pieces_bytes (s : String) : RawText.pieces (bytes s) = s.toList.map .char := by
  rw [RawText.pieces, bytes_eq_flatMap]
  induction s.toList with
  | nil => rfl
  | cons c cs ih => rw [List.flatMap_cons, piecesFrom_utf8EncodeChar, ih, List.map_cons]

/-- **The bytes of a text are shown as this text.** -/
@[simp] theorem text_bytes (s : String) : RawText.text (bytes s) = s := by
  have hshown : Utf8Piece.shown ∘ Utf8Piece.char = id := rfl
  rw [RawText.text, pieces_bytes, List.map_map, hshown, List.map_id, String.ofList_toList]

end QueryWeave.Text
