/-
**Taking the marker away.**

The text of a fragment is written as an inline fragment, and its definition has the same text
without the three dots.  What is taken away is the first occurrence of the dots, wherever it comes
from, and nothing else; a text without three dots in a row stays as it is.

Main definitions:

* `QueryWeave.marker` — the three dots;
* `QueryWeave.MarkedBetween` — where the first of them is;
* `QueryWeave.Unmarked` — a text without them;
* `QueryWeave.EqualUpToMarker` — texts that are equal without their first markers.

Main results:

* `QueryWeave.MarkedBetween.dropMarker_eq`, `QueryWeave.dropMarker_eq_self` — **what is taken away,
  and when nothing is**;
* `QueryWeave.exists_markedBetween` — a text that has a marker has a first one;
* `QueryWeave.unmarked_iff` — so every text is left with one text;
* `QueryWeave.dropMarker_eq_dropMarker_iff` — when texts of one length agree without their markers.
-/

import QueryWeave.Template.Document

set_option relaxedAutoImplicit false
set_option autoImplicit false

namespace QueryWeave

/-- The three dots of an inline fragment. -/
def marker : List Char := ['.', '.', '.']

/-- The first marker of `cs` has `before` in front of it and `behind` behind it. -/
structure MarkedBetween (cs before behind : List Char) : Prop where
  eq_append : cs = before ++ marker ++ behind
  /-- With two dots behind it, `before` does not hold a marker yet. -/
  first : ¬ marker <:+: before ++ ['.', '.']

/-- What is left of `cs`: all but the first marker, or everything if there is none. -/
inductive Unmarked (cs : List Char) : List Char → Prop
  | cut {before behind : List Char} : MarkedBetween cs before behind →
      Unmarked cs (before ++ behind)
  | uncut : ¬ marker <:+: cs → Unmarked cs cs

/-! ### What is taken away -/

theorem dropMarker_cons {c : Char} {cs : List Char} (h : ¬ marker <+: c :: cs) :
    dropMarker (c :: cs) = c :: dropMarker cs := by
  rw [dropMarker]
  rintro rest rfl rfl
  exact h ⟨rest, rfl⟩

/-- A text without a marker stays as it is. -/
theorem dropMarker_eq_self {cs : List Char} (h : ¬ marker <:+: cs) : dropMarker cs = cs := by
  induction cs with
  | nil => rfl
  | cons c cs ih =>
      rw [List.infix_cons_iff, not_or] at h
      rw [dropMarker_cons h.1, ih h.2]

/-- From a text with a marker the first one is taken away. -/
theorem MarkedBetween.dropMarker_eq {cs before behind : List Char}
    (h : MarkedBetween cs before behind) : dropMarker cs = before ++ behind := by
  obtain ⟨rfl, hfirst⟩ := h
  induction before with
  | nil => rfl
  | cons c before ih =>
      rw [List.cons_append, List.infix_cons_iff, not_or] at hfirst
      obtain ⟨hbegins, hfirst⟩ := hfirst
      rw [List.cons_append, List.cons_append, dropMarker_cons, ih hfirst, List.cons_append]
      -- a marker at the very start would lie in `c :: before` and two of the dots behind it
      intro hstart
      refine hbegins (List.prefix_of_prefix_length_le hstart ⟨'.' :: behind, ?_⟩ ?_)
      · simp [marker]
      · simp [marker]

/-- A text that has a marker has a first one. -/
theorem exists_markedBetween {cs : List Char} (h : marker <:+: cs) :
    ∃ before behind, MarkedBetween cs before behind := by
  induction cs with
  | nil => simp [marker] at h
  | cons c cs ih =>
      by_cases hstart : marker <+: c :: cs
      · obtain ⟨behind, hbehind⟩ := hstart
        exact ⟨[], behind, hbehind.symm, by decide⟩
      · obtain ⟨before, behind, rfl, hfirst⟩ := ih ((List.infix_cons_iff.1 h).resolve_left hstart)
        refine ⟨c :: before, behind, rfl, fun hinfix => ?_⟩
        rw [List.cons_append, List.infix_cons_iff] at hinfix
        refine hinfix.elim (fun hbegins => hstart (hbegins.trans ⟨'.' :: behind, ?_⟩)) hfirst
        simp [marker]

/-- A text is left with one text only, with or without a marker. -/
theorem unmarked_iff {cs ds : List Char} : Unmarked cs ds ↔ dropMarker cs = ds := by
  constructor
  · intro h
    cases h with
    | cut hcut => exact hcut.dropMarker_eq
    | uncut hnone => exact dropMarker_eq_self hnone
  · rintro rfl
    by_cases hmarker : marker <:+: cs
    · obtain ⟨before, behind, hcut⟩ := exists_markedBetween hmarker
      rw [hcut.dropMarker_eq]
      exact .cut hcut
    · rw [dropMarker_eq_self hmarker]
      exact .uncut hmarker

theorem MarkedBetween.length_eq {cs before behind : List Char}
    (h : MarkedBetween cs before behind) : cs.length = (dropMarker cs).length + 3 := by
  rw [h.dropMarker_eq, h.eq_append]
  simp [marker]
  omega

/-! ### Texts that agree without their markers -/

/-- Two texts are equal, or each has a marker and without the first ones they are equal. -/
def EqualUpToMarker (cs ds : List Char) : Prop :=
  cs = ds ∨ ∃ before behind before' behind', MarkedBetween cs before behind ∧
    MarkedBetween ds before' behind' ∧ before ++ behind = before' ++ behind'

/-- Texts of one length agree without their markers only if both have a marker, or none has. -/
theorem dropMarker_eq_dropMarker_iff {cs ds : List Char} (hlength : cs.length = ds.length) :
    dropMarker cs = dropMarker ds ↔ EqualUpToMarker cs ds := by
  constructor
  · intro h
    by_cases hcs : marker <:+: cs
    · obtain ⟨before, behind, hcut⟩ := exists_markedBetween hcs
      by_cases hds : marker <:+: ds
      · obtain ⟨before', behind', hcut'⟩ := exists_markedBetween hds
        refine Or.inr ⟨before, behind, before', behind', hcut, hcut', ?_⟩
        rw [← hcut.dropMarker_eq, ← hcut'.dropMarker_eq, h]
      · have hcs' := hcut.length_eq
        rw [h, dropMarker_eq_self hds] at hcs'
        omega
    · by_cases hds : marker <:+: ds
      · obtain ⟨before', behind', hcut'⟩ := exists_markedBetween hds
        have hds' := hcut'.length_eq
        rw [← h, dropMarker_eq_self hcs] at hds'
        omega
      · rw [dropMarker_eq_self hcs, dropMarker_eq_self hds] at h
        exact Or.inl h
  · rintro (rfl | ⟨before, behind, before', behind', hcut, hcut', heq⟩)
    · rfl
    · rw [hcut.dropMarker_eq, hcut'.dropMarker_eq, heq]

end QueryWeave
