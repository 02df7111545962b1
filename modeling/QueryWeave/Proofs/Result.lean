/-
**When a result is no error, and when it is one.**

A step that depends on the result of another one succeeds exactly when both do, and fails for the
reason of the first of them that fails.

Main results:

* `QueryWeave.Result.bind_eq_ok_iff`, `QueryWeave.Result.map_eq_ok_iff`,
  `QueryWeave.Result.mapError_eq_ok_iff` — success of one step after another;
* `QueryWeave.Result.bind_eq_error_iff`, `QueryWeave.Result.map_eq_error_iff`,
  `QueryWeave.Result.mapError_eq_error_iff` — its failure;
* `QueryWeave.Result.mapM_eq_ok_iff`, `QueryWeave.Result.exists_mapM_eq_ok_iff`,
  `QueryWeave.Result.mem_of_mapM_eq_ok` — success of one step for each entry of a list.
-/

import Mathlib.Data.List.Forall2

set_option relaxedAutoImplicit false
set_option autoImplicit false

namespace QueryWeave.Result

variable {ε ε' α β : Type}

theorem bind_eq_ok_iff {result : Except ε α} {f : α → Except ε β} {b : β} :
    result.bind f = .ok b ↔ ∃ a, result = .ok a ∧ f a = .ok b := by
  cases result <;> simp [Except.bind]

theorem map_eq_ok_iff {result : Except ε α} {f : α → β} {b : β} :
    result.map f = .ok b ↔ ∃ a, result = .ok a ∧ f a = b := by
  cases result <;> simp [Except.map]

theorem mapError_eq_ok_iff {result : Except ε α} {f : ε → ε'} {a : α} :
    result.mapError f = .ok a ↔ result = .ok a := by
  cases result with
  | error e => exact ⟨nofun, nofun⟩
  | ok a' =>
      constructor
      · intro h
        cases h
        rfl
      · intro h
        cases h
        rfl

theorem bind_eq_error_iff {result : Except ε α} {f : α → Except ε β} {e : ε} :
    result.bind f = .error e ↔ result = .error e ∨ ∃ a, result = .ok a ∧ f a = .error e := by
  cases result <;> simp [Except.bind]

theorem map_eq_error_iff {result : Except ε α} {f : α → β} {e : ε} :
    result.map f = .error e ↔ result = .error e := by
  cases result <;> simp [Except.map]

theorem mapError_eq_error_iff {result : Except ε α} {f : ε → ε'} {e' : ε'} :
    result.mapError f = .error e' ↔ ∃ e, result = .error e ∧ f e = e' := by
  cases result <;> simp [Except.mapError]

/-- A step for each entry of a list succeeds if all of them do. -/
theorem mapM_eq_ok_iff {f : α → Except ε β} {xs : List α} {ys : List β} :
    xs.mapM f = .ok ys ↔ List.Forall₂ (fun x y => f x = .ok y) xs ys := by
  induction xs generalizing ys with
  | nil =>
      rw [List.mapM_nil, List.forall₂_nil_left_iff]
      exact ⟨fun h => (Except.ok.inj h).symm, fun h => h ▸ rfl⟩
  | cons x xs ih =>
      have hbind : (x :: xs).mapM f = .ok ys ↔
          ∃ y, f x = .ok y ∧ ∃ rest, xs.mapM f = .ok rest ∧ y :: rest = ys := by
        rw [List.mapM_cons]
        refine bind_eq_ok_iff.trans (exists_congr fun y => and_congr_right fun _ => ?_)
        refine bind_eq_ok_iff.trans (exists_congr fun rest => and_congr_right fun _ => ?_)
        exact ⟨Except.ok.inj, congrArg Except.ok⟩
      rw [hbind, List.forall₂_cons_left_iff]
      constructor
      · rintro ⟨y, hy, rest, hrest, rfl⟩
        exact ⟨y, rest, hy, ih.1 hrest, rfl⟩
      · rintro ⟨y, rest, hy, hrest, rfl⟩
        exact ⟨y, hy, rest, ih.2 hrest, rfl⟩

theorem exists_mapM_eq_ok_iff {f : α → Except ε β} {xs : List α} :
    (∃ ys, xs.mapM f = .ok ys) ↔ ∀ x ∈ xs, ∃ y, f x = .ok y := by
  simp only [mapM_eq_ok_iff]
  induction xs with
  | nil => simp
  | cons x xs ih =>
      rw [List.forall_mem_cons, ← ih]
      constructor
      · rintro ⟨ys, h⟩
        obtain ⟨y, rest, hy, hrest, -⟩ := List.forall₂_cons_left_iff.1 h
        exact ⟨⟨y, hy⟩, rest, hrest⟩
      · rintro ⟨⟨y, hy⟩, rest, hrest⟩
        exact ⟨y :: rest, .cons hy hrest⟩

theorem mem_of_mapM_eq_ok {f : α → Except ε β} {xs : List α} {ys : List β}
    (h : xs.mapM f = .ok ys) {y : β} : y ∈ ys ↔ ∃ x ∈ xs, f x = .ok y := by
  rw [mapM_eq_ok_iff] at h
  induction h with
  | nil => simp
  | cons hy _ ih => simp [ih, hy, eq_comm]

end QueryWeave.Result
