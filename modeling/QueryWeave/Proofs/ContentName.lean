/-
**Names made from content are names.**

A number is written in base 36 with the digits `0` to `9` and `a` to `z`, the most significant one
first, and without zeros in front unless it is zero itself.  Every number has exactly one such
text.

The name that content gets begins with a fixed word and goes on with digits and small letters.  So
it can stand wherever a name is read, and has no other characters in it.  Behind the word it writes
the magnitude of the hash in base 36, and so two contents have one name exactly if their hashes have
one magnitude.

Main definitions:

* `QueryWeave.base36Value` — the number that a digit stands for;
* `QueryWeave.IsBase36` — a text that writes a number in base 36.

Main results:

* `QueryWeave.base36Digits_eq` — the digits are those of the number, from the last to the first;
* `QueryWeave.isBase36_iff` — **every number is written by exactly one text**;
* `QueryWeave.length_base36_le` — how many digits a number needs at most;
* `QueryWeave.isName_contentName` — **names made from content are names**;
* `QueryWeave.not_dot_mem_contentName` — there are no dots in them;
* `QueryWeave.contentName_canonical` — **what a name writes, and when two contents share one**.
-/

import Mathlib.Data.Nat.Digits.Lemmas
import QueryWeave.ContentName
import QueryWeave.Proofs.GraphQL.Fronts

set_option relaxedAutoImplicit false
set_option autoImplicit false

namespace QueryWeave

/-! ### Digits -/

/-- The number that a base-36 digit stands for. -/
def base36Value (c : Char) : ℕ :=
  if c.isDigit then c.toNat - '0'.toNat else c.toNat - 'a'.toNat + 10

theorem base36Value_base36Digit {d : ℕ} (h : d < 36) : base36Value (base36Digit d) = d :=
  (by decide : ∀ d < 36, base36Value (base36Digit d) = d) d h

theorem isDigit_or_isLower_base36Digit {d : ℕ} (h : d < 36) :
    (base36Digit d).isDigit ∨ (base36Digit d).isLower :=
  (by decide : ∀ d < 36, (base36Digit d).isDigit ∨ (base36Digit d).isLower) d h

theorem toNat_of_isLower {c : Char} (h : c.isLower) : 97 ≤ c.toNat ∧ c.toNat ≤ 122 := by
  obtain ⟨hle, hge⟩ := Bool.and_eq_true_iff.1 h
  exact ⟨UInt32.le_iff_toNat_le.1 (of_decide_eq_true hle),
    UInt32.le_iff_toNat_le.1 (of_decide_eq_true hge)⟩

/-- A digit stands for a number below 36, and is the digit for it. -/
theorem base36Digit_base36Value {c : Char} (h : c.isDigit ∨ c.isLower) :
    base36Value c < 36 ∧ base36Digit (base36Value c) = c := by
  have hzero : '0'.toNat = 48 := rfl
  have hnine : '9'.toNat = 57 := rfl
  have ha : 'a'.toNat = 97 := rfl
  rw [base36Value]
  by_cases hdigit : c.isDigit
  · obtain ⟨hle, hge⟩ := Char.isDigit_iff_toNat.1 hdigit
    have hcode : 48 + (c.toNat - 48) = c.toNat := by omega
    rw [if_pos hdigit, hzero, base36Digit, if_pos (by omega), hcode, Char.ofNat_toNat]
    exact ⟨by omega, rfl⟩
  · obtain ⟨hle, hge⟩ := toNat_of_isLower (h.resolve_left hdigit)
    have hcode : 87 + (c.toNat - 97 + 10) = c.toNat := by omega
    rw [if_neg hdigit, ha, base36Digit, if_neg (by omega), hcode, Char.ofNat_toNat]
    exact ⟨by omega, rfl⟩

/-! ### The text of a number -/

/-- The digits are those of the number, from the last to the first. -/
theorem base36Digits_eq (n : ℕ) :
    base36Digits n = (Nat.digits 36 n).reverse.map base36Digit := by
  fun_induction base36Digits n with
  | case1 => rfl
  | case2 n hn ih =>
      rw [Nat.digits_def' (by decide) (Nat.pos_of_ne_zero hn), List.reverse_cons, List.map_append,
        ih]
      rfl

theorem toList_base36_of_ne_zero {n : ℕ} (hn : n ≠ 0) :
    (base36 n).toList = (Nat.digits 36 n).reverse.map base36Digit := by
  rw [base36, if_neg hn, String.toList_ofList, base36Digits_eq]

theorem lt_of_mem_digits {n d : ℕ} (hd : d ∈ (Nat.digits 36 n).reverse) : d < 36 :=
  Nat.digits_lt_base (by decide) (List.mem_reverse.1 hd)

/-- The digits stand for the digits of the number. -/
theorem map_base36Value_base36 {n : ℕ} (hn : n ≠ 0) :
    (base36 n).toList.map base36Value = (Nat.digits 36 n).reverse := by
  rw [toList_base36_of_ne_zero hn, List.map_map]
  exact (List.map_congr_left fun d hd => base36Value_base36Digit (lt_of_mem_digits hd)).trans
    (List.map_id _)

/-- Only zero begins with a zero. -/
theorem head?_base36_ne_zero {n : ℕ} (hn : n ≠ 0) : (base36 n).toList.head? ≠ some '0' := by
  intro hzero
  have hlast : (Nat.digits 36 n).getLast? = some 0 := by
    rw [← List.head?_reverse, ← map_base36Value_base36 hn, List.head?_map, hzero]
    rfl
  exact Nat.getLast_digit_ne_zero 36 hn (List.getLast_of_getLast?_eq_some hlast)

/-- A number below a power of 36 has no more digits than the power has factors. -/
theorem length_base36_le {n k : ℕ} (hk : k ≠ 0) (h : n < 36 ^ k) : (base36 n).length ≤ k := by
  by_cases hn : n = 0
  · subst hn
    exact Nat.one_le_iff_ne_zero.2 hk
  · rw [← String.length_toList, toList_base36_of_ne_zero hn, List.length_map, List.length_reverse]
    exact (Nat.digits_length_le_iff (by decide) n).2 h

/-! ### Texts that write numbers -/

/-- A text that writes a number in base 36: it is not empty, has digits only, of which the first one
is no zero unless it is all there is, and the digits stand for the number. -/
structure IsBase36 (text : String) (n : ℕ) : Prop where
  ne_empty : text ≠ ""
  digits : ∀ c ∈ text.toList, c.isDigit ∨ c.isLower
  no_leading_zero : text.toList.head? = some '0' → text = "0"
  value : Nat.ofDigits 36 (text.toList.map base36Value).reverse = n

theorem isBase36_base36 (n : ℕ) : IsBase36 (base36 n) n := by
  by_cases hn : n = 0
  · subst hn
    exact ⟨by decide, List.forall_mem_singleton.2 (.inl rfl), fun _ => rfl, rfl⟩
  · refine ⟨?_, ?_, fun hzero => absurd hzero (head?_base36_ne_zero hn), ?_⟩
    · intro hempty
      have hdigits := map_base36Value_base36 hn
      rw [hempty, String.toList_empty, List.map_nil, eq_comm, List.reverse_eq_nil_iff,
        Nat.digits_eq_nil_iff_eq_zero] at hdigits
      exact hn hdigits
    · rw [toList_base36_of_ne_zero hn]
      exact List.forall_mem_map.2 fun d hd => isDigit_or_isLower_base36Digit (lt_of_mem_digits hd)
    · rw [map_base36Value_base36 hn, List.reverse_reverse, Nat.ofDigits_digits]

/-- Without a zero in front, the digits of a text are those of the number it writes. -/
theorem IsBase36.digits_eq {text : String} {n : ℕ} (h : IsBase36 text n)
    (hzero : text.toList.head? ≠ some '0') :
    Nat.digits 36 n = (text.toList.map base36Value).reverse := by
  rw [← h.value]
  refine Nat.digits_ofDigits 36 (by decide) _ ?_ ?_
  · intro d hd
    obtain ⟨c, hc, rfl⟩ := List.mem_map.1 (List.mem_reverse.1 hd)
    exact (base36Digit_base36Value (h.digits c hc)).1
  · intro hne hlast
    have hhead := List.getLast?_eq_some_getLast hne
    rw [hlast, List.getLast?_reverse, List.head?_map] at hhead
    obtain ⟨c, hc, hvalue⟩ := Option.map_eq_some_iff.1 hhead
    have hdigit := (base36Digit_base36Value (h.digits c (List.mem_of_head? hc))).2
    rw [hvalue] at hdigit
    exact hzero (hc.trans (congrArg some hdigit.symm))

/-- Only the text made for a number writes it. -/
theorem IsBase36.eq_base36 {text : String} {n : ℕ} (h : IsBase36 text n) : text = base36 n := by
  by_cases hzero : text.toList.head? = some '0'
  · obtain rfl := h.no_leading_zero hzero
    obtain rfl : 0 = n := h.value
    rfl
  · have htext : (Nat.digits 36 n).reverse.map base36Digit = text.toList := by
      rw [h.digits_eq hzero, List.reverse_reverse, List.map_map]
      exact (List.map_congr_left fun c hc => (base36Digit_base36Value (h.digits c hc)).2).trans
        (List.map_id _)
    have hn : n ≠ 0 := by
      rintro rfl
      exact h.ne_empty (String.toList_eq_nil_iff.1 htext.symm)
    rw [← String.toList_inj, toList_base36_of_ne_zero hn, htext]

/-- **Every number is written by exactly one text.** -/
theorem isBase36_iff {text : String} {n : ℕ} : IsBase36 text n ↔ text = base36 n :=
  ⟨IsBase36.eq_base36, fun h => h ▸ isBase36_base36 n⟩

/-- Different numbers are written by different texts. -/
theorem base36_injective : Function.Injective base36 := by
  intro n n' h
  rw [← (isBase36_base36 n).value, ← (isBase36_base36 n').value, h]

/-! ### Names -/

theorem isNameChar_of_mem_base36 (n : Nat) :
    ∀ c ∈ (base36 n).toList, GraphQL.isNameChar c = true := by
  intro c hc
  have halphanum : c.isAlphanum = true := by
    rcases (isBase36_base36 n).digits c hc with hdigit | hlower
    · exact Bool.or_eq_true_iff.2 (.inr hdigit)
    · exact Bool.or_eq_true_iff.2 (.inl (Bool.or_eq_true_iff.2 (.inr hlower)))
  exact Bool.or_eq_true_iff.2 (.inl halphanum)

/-- **Names made from content are names.** -/
theorem isName_contentName (content : String) :
    GraphQL.isName (contentName content).toList = true := by
  rw [contentName, String.toList_append]
  exact GraphQL.isName_append (by decide) (isNameChar_of_mem_base36 _)

theorem not_dot_mem_contentName (content : String) : '.' ∉ (contentName content).toList := by
  intro hdot
  have hchar := GraphQL.isNameChar_of_isName (isName_contentName content) _ hdot
  cases hchar

/-- The magnitude of a hash needs at most six digits, also that of the least hash. -/
theorem length_base36_natAbs_le (hash : Int32) : (base36 hash.toInt.natAbs).length ≤ 6 := by
  have hle := hash.le_toInt
  have hlt := hash.toInt_lt
  refine length_base36_le (by decide) ?_
  omega

/-- Names are equal if the magnitudes of the hashes are. -/
theorem contentName_eq_iff {content content' : String} :
    contentName content = contentName content' ↔
      (fingerprint content).toInt.natAbs = (fingerprint content').toInt.natAbs := by
  rw [contentName, contentName, String.append_right_inj, base36_injective.eq_iff]

/-- **What a name writes, and when two contents share one.**  Every number is written in base 36 by
exactly one text, without zeros in front, and different numbers by different texts.  The name for
some content is a fixed word and then the magnitude of the hash, with one to six digits, and it is a
name.  Two contents have one name exactly if their hashes are equal or opposite. -/
theorem contentName_canonical :
    (∀ text n, IsBase36 text n ↔ text = base36 n) ∧
    Function.Injective base36 ∧
    (∀ content, ∃ digits, contentName content = "fragment_" ++ digits ∧
      IsBase36 digits (fingerprint content).toInt.natAbs ∧
      1 ≤ digits.length ∧ digits.length ≤ 6) ∧
    (∀ content, GraphQL.isName (contentName content).toList = true) ∧
    ∀ content content', contentName content = contentName content' ↔
      fingerprint content = fingerprint content' ∨
        (fingerprint content).toInt = -(fingerprint content').toInt := by
  refine ⟨fun text n => isBase36_iff, base36_injective, fun content => ?_, isName_contentName,
    fun content content' => ?_⟩
  · have hdigits := isBase36_base36 (fingerprint content).toInt.natAbs
    refine ⟨_, rfl, hdigits, ?_, length_base36_natAbs_le _⟩
    exact Nat.one_le_iff_ne_zero.2 fun hzero => hdigits.ne_empty (String.length_eq_zero_iff.1 hzero)
  · rw [contentName_eq_iff, Int.natAbs_eq_natAbs_iff, Int32.toInt_inj]

/-- The least hash has a magnitude that is no hash. -/
example : (fingerprint "polygenelubricants").toInt = -2 ^ 31 ∧
    contentName "polygenelubricants" = "fragment_zik0zk" := by
  decide +kernel

end QueryWeave
