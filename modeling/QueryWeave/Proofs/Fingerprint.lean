/-
**The hash of a text in numbers.**

The hash is computed in signed 32-bit words that overflow at any step.  Read as integers, the steps
are those of Horner's rule for a polynomial at 31, up to multiples of 2 ^ 32; so a hash is the
representative in the signed range of a sum over the code units, and the hash of two texts in a row
is made from their hashes.  As 31 is odd, what comes behind never hides a difference.  And the
difference of two units, also 30 times over, is too small to be a multiple of 2 ^ 32.

Main definitions:

* `QueryWeave.weightedSum` — code units, each times a power of 31.

Main results:

* `QueryWeave.toInt_fingerprintStep`, `QueryWeave.toInt_foldl_fingerprintStep` — one step and all
  steps in integers;
* `QueryWeave.toInt_fingerprint_eq_sum` — **the hash of a text, and of two texts in a row**;
* `QueryWeave.fingerprintStep_injective`, `QueryWeave.fingerprintStep_ne`,
  `QueryWeave.fingerprintStep_swap_ne` — steps that lead to different hashes;
* `QueryWeave.fingerprint_notices_changes` — **texts that differ in one place have different
  hashes**.
-/

import Mathlib.Algebra.BigOperators.Fin
import Mathlib.Algebra.Order.Ring.Abs
import Mathlib.RingTheory.Coprime.Lemmas
import Mathlib.Tactic.Linarith
import QueryWeave.ContentName

set_option relaxedAutoImplicit false
set_option autoImplicit false

namespace QueryWeave

/-! ### Steps in integers -/

/-- Shifting by five places is multiplying by 32, but for what overflows. -/
theorem toInt_shiftLeft_five (hash : Int32) :
    (hash <<< 5).toInt = (32 * hash.toInt).bmod (2 ^ 32) := by
  have hplaces : (5 : Int32).toBitVec.smod 32 = 5#32 := by decide
  have hfactor : (BitVec.twoPow 32 (5#32).toNat).toInt = 32 := by decide
  rw [← Int32.toInt_toBitVec, Int32.toBitVec_shiftLeft, hplaces, BitVec.shiftLeft_eq',
    BitVec.shiftLeft_eq_mul_twoPow, BitVec.toInt_mul, hfactor, Int32.toInt_toBitVec, Int.mul_comm]

/-- One step of the hash in integers. -/
theorem toInt_fingerprintStep (hash : Int32) (unit : UInt16) :
    (fingerprintStep hash unit).toInt = (31 * hash.toInt + unit.toNat).bmod (2 ^ 32) := by
  have hbound : unit.toNat < 2 ^ 31 := Nat.lt_trans unit.toNat_lt (by decide)
  have hfactor : 32 * hash.toInt - hash.toInt = 31 * hash.toInt := by omega
  rw [fingerprintStep, Int32.toInt_add, Int32.toInt_sub, toInt_shiftLeft_five,
    Int32.toInt_ofNat_of_lt hbound, Int.bmod_sub_bmod, Int.bmod_add_bmod, hfactor]

/-- The sum of code units, each times 31 for every unit behind it. -/
def weightedSum (units : List UInt16) : ℤ :=
  ∑ i : Fin units.length, (units[i].toNat : ℤ) * 31 ^ (units.length - 1 - i)

theorem weightedSum_nil : weightedSum [] = 0 := rfl

theorem weightedSum_cons (unit : UInt16) (units : List UInt16) :
    weightedSum (unit :: units) = unit.toNat * 31 ^ units.length + weightedSum units := by
  have hexponent : ∀ i : Fin units.length,
      units.length + 1 - 1 - (i.succ : ℕ) = units.length - 1 - i := by
    intro i
    rw [Fin.val_succ]
    omega
  simp only [weightedSum, List.length_cons, Fin.sum_univ_succ, hexponent]
  rfl

/-- All steps from a hash on, in integers. -/
theorem toInt_foldl_fingerprintStep (hash : Int32) (units : List UInt16) :
    (units.foldl fingerprintStep hash).toInt =
      (hash.toInt * 31 ^ units.length + weightedSum units).bmod (2 ^ 32) := by
  induction units generalizing hash with
  | nil => simp [weightedSum_nil]
  | cons unit units ih =>
      have hvalue : (31 * hash.toInt + unit.toNat) * 31 ^ units.length + weightedSum units =
          hash.toInt * 31 ^ (units.length + 1) + weightedSum (unit :: units) := by
        rw [weightedSum_cons]
        ring
      -- what has overflowed in the first step makes no difference behind it
      rw [List.foldl_cons, ih, toInt_fingerprintStep, List.length_cons, ← hvalue,
        ← Int.bmod_add_bmod, Int.bmod_mul_bmod, Int.bmod_add_bmod]

theorem toInt_fingerprint (text : String) :
    (fingerprint text).toInt = (weightedSum (Text.units text)).bmod (2 ^ 32) := by
  rw [fingerprint, toInt_foldl_fingerprintStep, Int32.toInt_zero, Int.zero_mul, Int.zero_add]

theorem toInt_fingerprint_append (text text' : String) :
    (fingerprint (text ++ text')).toInt =
      ((fingerprint text).toInt * 31 ^ (Text.units text').length +
        (fingerprint text').toInt).bmod (2 ^ 32) := by
  rw [fingerprint_append, toInt_foldl_fingerprintStep, toInt_fingerprint text', Int.add_bmod_bmod]

/-- **The hash of a text, and of two texts in a row.**  The hash is the signed 32-bit representative
of the sum of the code units, each times 31 to the number of units behind it.  When another text
follows, it is multiplied by 31 for each unit of that text, and the hash of that text is added.
Characters beyond U+FFFF have two units, all others one. -/
theorem toInt_fingerprint_eq_sum (text text' : String) :
    (fingerprint text).toInt =
      (∑ i : Fin (Text.units text).length,
        ((Text.units text)[i].toNat : ℤ) * 31 ^ ((Text.units text).length - 1 - i)).bmod (2 ^ 32) ∧
    (fingerprint (text ++ text')).toInt =
      ((fingerprint text).toInt * 31 ^ (Text.units text').length +
        (fingerprint text').toInt).bmod (2 ^ 32) ∧
    (Text.units text').length = text'.length + text'.toList.countP (0x10000 ≤ ·.toNat) :=
  ⟨toInt_fingerprint text, toInt_fingerprint_append text text', Text.length_units text'⟩

/-! ### Steps that lead to one hash -/

/-- Integers have one representative exactly if they differ by a multiple of 2 ^ 32. -/
theorem bmod_eq_bmod_iff_dvd {x y : ℤ} :
    x.bmod (2 ^ 32) = y.bmod (2 ^ 32) ↔ (2 ^ 32 : ℤ) ∣ x - y :=
  Int.bmod_eq_bmod_iff_bmod_sub_eq_zero.trans Int.dvd_iff_bmod_eq_zero.symm

/-- A step takes different hashes to different ones, since 31 is odd. -/
theorem fingerprintStep_injective (unit : UInt16) :
    Function.Injective (fingerprintStep · unit) := by
  intro hash hash' h
  have hstep := congrArg Int32.toInt h
  rw [toInt_fingerprintStep, toInt_fingerprintStep, bmod_eq_bmod_iff_dvd, add_sub_add_right_eq_sub,
    ← mul_sub] at hstep
  have hdvd : (2 ^ 32 : ℤ) ∣ hash.toInt - hash'.toInt :=
    (Int.isCoprime_iff_gcd_eq_one.2 rfl).dvd_of_dvd_mul_left hstep
  have hlt : |hash.toInt - hash'.toInt| < 2 ^ 32 := by
    have hsum : (2 ^ 31 : ℤ) + 2 ^ 31 = 2 ^ 32 := rfl
    rw [abs_sub_lt_iff]
    have hle := hash.le_toInt
    have hle' := hash'.le_toInt
    have hgt := hash.toInt_lt
    have hgt' := hash'.toInt_lt
    constructor <;> linarith
  exact Int32.toInt_inj.1 (sub_eq_zero.1 (Int.eq_zero_of_abs_lt_dvd hdvd hlt))

theorem foldl_fingerprintStep_injective (units : List UInt16) :
    Function.Injective (units.foldl fingerprintStep) := by
  induction units with
  | nil => exact fun _ _ h => h
  | cons unit units ih => exact ih.comp (fingerprintStep_injective unit)

/-- The difference of two units is below 2 ^ 16, so a small multiple of it is no multiple of 2 ^ 32
unless they are equal. -/
theorem eq_of_dvd_mul_sub {unit unit' : UInt16} {k : ℤ} (hpos : 0 < k) (hle : k ≤ 2 ^ 16)
    (h : (2 ^ 32 : ℤ) ∣ k * (unit.toNat - unit'.toNat)) : unit = unit' := by
  have hdifference : |(unit.toNat : ℤ) - unit'.toNat| < 2 ^ 16 := by
    have hlt := unit.toNat_lt
    have hlt' := unit'.toNat_lt
    rw [abs_sub_lt_iff]
    omega
  have hlt : |k * (unit.toNat - unit'.toNat)| < 2 ^ 32 := by
    calc |k * ((unit.toNat : ℤ) - unit'.toNat)|
        = k * |(unit.toNat : ℤ) - unit'.toNat| := by rw [abs_mul, abs_of_pos hpos]
      _ < k * 2 ^ 16 := mul_lt_mul_of_pos_left hdifference hpos
      _ ≤ 2 ^ 16 * 2 ^ 16 := mul_le_mul_of_nonneg_right hle (by positivity)
      _ = 2 ^ 32 := rfl
  have hzero := (mul_eq_zero.1 (Int.eq_zero_of_abs_lt_dvd h hlt)).resolve_left hpos.ne'
  exact UInt16.toNat_inj.1 (Int.ofNat_inj.1 (sub_eq_zero.1 hzero))

/-- Different units lead to different hashes. -/
theorem fingerprintStep_ne {unit unit' : UInt16} (h : unit ≠ unit') (hash : Int32) :
    fingerprintStep hash unit ≠ fingerprintStep hash unit' := by
  intro heq
  have hdvd := congrArg Int32.toInt heq
  rw [toInt_fingerprintStep, toInt_fingerprintStep, bmod_eq_bmod_iff_dvd,
    add_sub_add_left_eq_sub, ← one_mul (_ - _)] at hdvd
  exact h (eq_of_dvd_mul_sub (by norm_num) (by norm_num) hdvd)

theorem toInt_fingerprintStep_twice (hash : Int32) (unit unit' : UInt16) :
    (fingerprintStep (fingerprintStep hash unit) unit').toInt =
      (31 * (31 * hash.toInt + unit.toNat) + unit'.toNat).bmod (2 ^ 32) := by
  rw [toInt_fingerprintStep, toInt_fingerprintStep, ← Int.bmod_add_bmod, Int.mul_bmod_bmod,
    Int.bmod_add_bmod]

/-- Two different units lead to different hashes in the two orders: the hashes differ by 30 times
the difference of the units. -/
theorem fingerprintStep_swap_ne {unit unit' : UInt16} (h : unit ≠ unit') (hash : Int32) :
    fingerprintStep (fingerprintStep hash unit) unit' ≠
      fingerprintStep (fingerprintStep hash unit') unit := by
  intro heq
  have hdvd := congrArg Int32.toInt heq
  have hdifference : 31 * (31 * hash.toInt + unit.toNat) + unit'.toNat -
      (31 * (31 * hash.toInt + unit'.toNat) + unit.toNat) =
        30 * ((unit.toNat : ℤ) - unit'.toNat) := by ring
  rw [toInt_fingerprintStep_twice, toInt_fingerprintStep_twice, bmod_eq_bmod_iff_dvd,
    hdifference] at hdvd
  exact h (eq_of_dvd_mul_sub (by norm_num) (by norm_num) hdvd)

/-! ### Texts that differ in one place -/

/-- Lists of one length that differ at one index agree in front of it and behind it. -/
theorem exists_append_of_differ_once {units units' : List UInt16}
    (hlength : units.length = units'.length) (h : ∃! i : ℕ, units[i]? ≠ units'[i]?) :
    ∃ before unit unit' behind, unit ≠ unit' ∧ units = before ++ unit :: behind ∧
      units' = before ++ unit' :: behind := by
  obtain ⟨i, hi, hunique⟩ := h
  have hagree : ∀ j, j ≠ i → units[j]? = units'[j]? := fun j hj =>
    Classical.byContradiction fun hne => hj (hunique j hne)
  have hlt : i < units.length := by
    by_contra hge
    exact hi (by rw [List.getElem?_eq_none (by omega), List.getElem?_eq_none (by omega)])
  have hbefore : units.take i = units'.take i := by
    refine List.ext_getElem? fun j => ?_
    rw [List.getElem?_take, List.getElem?_take]
    split
    · exact hagree j (by omega)
    · rfl
  have hbehind : units.drop (i + 1) = units'.drop (i + 1) := by
    refine List.ext_getElem? fun j => ?_
    rw [List.getElem?_drop, List.getElem?_drop]
    exact hagree _ (by omega)
  refine ⟨units.take i, units[i], units'[i], units.drop (i + 1), ?_, ?_, ?_⟩
  · intro heq
    exact hi (by rw [List.getElem?_eq_getElem hlt, List.getElem?_eq_getElem, heq])
  · rw [List.getElem_cons_drop, List.take_append_drop]
  · rw [hbefore, hbehind, List.getElem_cons_drop, List.take_append_drop]

/-- **Texts that differ in one place have different hashes.**  The place is one code unit that is
another one, or two neighbours that have changed places.  And what is appended to two texts neither
hides nor makes a difference between their hashes. -/
theorem fingerprint_notices_changes (text text' : String) :
    ((Text.units text).length = (Text.units text').length →
      (∃! i : ℕ, (Text.units text)[i]? ≠ (Text.units text')[i]?) →
      fingerprint text ≠ fingerprint text') ∧
    (∀ before unit unit' behind, unit ≠ unit' →
      Text.units text = before ++ unit :: unit' :: behind →
      Text.units text' = before ++ unit' :: unit :: behind →
      fingerprint text ≠ fingerprint text') ∧
    ∀ more, fingerprint (text ++ more) = fingerprint (text' ++ more) ↔
      fingerprint text = fingerprint text' := by
  refine ⟨fun hlength honce => ?_, fun before unit unit' behind hne hunits hunits' => ?_,
    fun more => ?_⟩
  · obtain ⟨before, unit, unit', behind, hne, hunits, hunits'⟩ :=
      exists_append_of_differ_once hlength honce
    rw [fingerprint, fingerprint, hunits, hunits', List.foldl_append, List.foldl_append]
    exact (foldl_fingerprintStep_injective behind).ne (fingerprintStep_ne hne _)
  · rw [fingerprint, fingerprint, hunits, hunits', List.foldl_append, List.foldl_append]
    exact (foldl_fingerprintStep_injective behind).ne (fingerprintStep_swap_ne hne _)
  · rw [fingerprint_append, fingerprint_append]
    exact (foldl_fingerprintStep_injective (Text.units more)).eq_iff

/-- Another unit in the second place, the two units the other way round, and more text behind. -/
theorem fingerprint_notices_changes_ab :
    (Text.units "ab").length = (Text.units "ac").length ∧
    (∃! i : ℕ, (Text.units "ab")[i]? ≠ (Text.units "ac")[i]?) ∧
    fingerprint "ab" ≠ fingerprint "ac" ∧
    fingerprint ("ab" ++ "...") ≠ fingerprint ("ac" ++ "...") ∧
    Text.units "ab" = [] ++ 97 :: 98 :: [] ∧ Text.units "ba" = [] ++ 98 :: 97 :: [] ∧
    fingerprint "ab" ≠ fingerprint "ba" := by
  have hab : Text.units "ab" = [] ++ 97 :: 98 :: [] := by decide +kernel
  have hac : Text.units "ac" = [] ++ 97 :: 99 :: [] := by decide +kernel
  have hba : Text.units "ba" = [] ++ 98 :: 97 :: [] := by decide +kernel
  have hlength : (Text.units "ab").length = (Text.units "ac").length := by rw [hab, hac]; rfl
  have honce : ∃! i : ℕ, (Text.units "ab")[i]? ≠ (Text.units "ac")[i]? := by
    rw [hab, hac]
    refine ⟨1, by decide, fun i hi => ?_⟩
    match i with
    | 0 => exact absurd rfl hi
    | 1 => rfl
    | i + 2 => exact absurd rfl hi
  obtain ⟨hother, -, hmore⟩ := fingerprint_notices_changes "ab" "ac"
  obtain ⟨-, hswap, -⟩ := fingerprint_notices_changes "ab" "ba"
  have hne := hother hlength honce
  exact ⟨hlength, honce, hne, fun heq => hne ((hmore "...").1 heq), hab, hba,
    hswap [] 97 98 [] (by decide) hab hba⟩

end QueryWeave
