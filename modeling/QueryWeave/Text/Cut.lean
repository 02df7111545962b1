/-
**Cutting a text.**

A text is cut at a mark: at the first or the last one of some kind, or at every one.  Cutting it at
every mark gives pieces without the mark, and putting the mark between them gives the text again.

A text is also cut into lines behind each line feed; one carriage return in front of the line feed
goes with it.  There is no empty line behind a line feed that ends the text.

Main definitions:

* `QueryWeave.Text.cutFirst`, `QueryWeave.Text.cutLast` — the text in front of the first or the last
  mark, and the text behind it;
* `QueryWeave.Text.pieces` — the pieces between all marks;
* `QueryWeave.Text.lines` — the lines of a text;
* `QueryWeave.Text.joinLines` — lines put together with line feeds between them;
* `QueryWeave.Text.dropBytes` — a text without its first bytes.

Main results:

* `QueryWeave.Text.eq_append_of_cutFirst` — nothing but the mark itself is lost;
* `QueryWeave.Text.cutFirst_append` — where a text is cut;
* `QueryWeave.Text.pieces_append` — the first piece, and those behind it;
* `QueryWeave.Text.not_mem_of_mem_pieces` — no piece holds the mark;
* `QueryWeave.Text.pieces_intercalate` — **texts joined by a mark are the pieces**.
-/

set_option relaxedAutoImplicit false
set_option autoImplicit false

namespace QueryWeave.Text

/-! ### Cutting -/

section Cutting

-- what is cut is a text in characters or in bytes
variable {α : Type}

/-- The text in front of the last sign that satisfies `p`, and the text behind it. -/
def cutLast (p : α → Bool) : List α → Option (List α × List α)
  | [] => none
  | c :: cs =>
      match cutLast p cs with
      | some (before, behind) => some (c :: before, behind)
      | none => if p c then some ([], cs) else none

variable [DecidableEq α] {mark : α}

/-- The text in front of the first occurrence of `mark`, and the text behind it. -/
def cutFirst (mark : α) : List α → Option (List α × List α)
  | [] => none
  | c :: cs =>
      if c = mark then some ([], cs)
      else (cutFirst mark cs).map fun cut => (c :: cut.1, cut.2)

/-- The pieces of a text between the occurrences of `mark`; there is always one. -/
def pieces (mark : α) (cs : List α) : List (List α) :=
  match h : cutFirst mark cs with
  | none => [cs]
  | some (piece, rest) =>
      have : rest.length < cs.length := by
        revert h
        induction cs generalizing piece with
        | nil => simp [cutFirst]
        | cons c cs ih =>
            unfold cutFirst
            split
            · rintro ⟨⟩
              simp
            · intro h
              obtain ⟨⟨a, b⟩, hab, heq⟩ := Option.map_eq_some_iff.1 h
              obtain ⟨rfl, rfl⟩ : c :: a = piece ∧ b = rest := by simpa using heq
              have := ih a hab
              simp only [List.length_cons]
              omega
      piece :: pieces mark rest
termination_by cs.length

theorem eq_append_of_cutFirst {cs before behind : List α}
    (h : cutFirst mark cs = some (before, behind)) :
    cs = before ++ mark :: behind ∧ mark ∉ before := by
  induction cs generalizing before with
  | nil => simp [cutFirst] at h
  | cons c cs ih =>
      unfold cutFirst at h
      split at h
      · next hc =>
          obtain ⟨rfl, rfl⟩ : [] = before ∧ cs = behind := by simpa using h
          simp [hc]
      · next hc =>
          obtain ⟨⟨a, b⟩, hab, heq⟩ := Option.map_eq_some_iff.1 h
          obtain ⟨rfl, rfl⟩ : c :: a = before ∧ b = behind := by simpa using heq
          obtain ⟨rfl, ha⟩ := ih hab
          exact ⟨rfl, by simp [ha, Ne.symm hc]⟩

/-! ### Pieces -/

/-- A text is cut behind what does not hold the mark. -/
theorem cutFirst_append {before : List α} (h : mark ∉ before) (behind : List α) :
    cutFirst mark (before ++ mark :: behind) = some (before, behind) := by
  induction before with
  | nil => simp [cutFirst]
  | cons c before ih =>
      obtain ⟨hc, hbefore⟩ := List.ne_and_not_mem_of_not_mem_cons h
      rw [List.cons_append, cutFirst, if_neg hc.symm, ih hbefore]
      rfl

theorem cutFirst_eq_none_iff {cs : List α} : cutFirst mark cs = none ↔ mark ∉ cs := by
  induction cs with
  | nil => simp [cutFirst]
  | cons c cs ih =>
      rw [cutFirst, List.mem_cons, not_or]
      by_cases hc : c = mark
      · simp [hc]
      · rw [if_neg hc, Option.map_eq_none_iff, ih]
        exact ⟨fun h => ⟨Ne.symm hc, h⟩, And.right⟩

/-- A text without the mark is one piece. -/
theorem pieces_of_not_mem {cs : List α} (h : mark ∉ cs) : pieces mark cs = [cs] := by
  have hcut := cutFirst_eq_none_iff.2 h
  rw [pieces]
  split
  · rfl
  · next hsome => simp [hcut] at hsome

/-- The first piece, and those behind the first mark. -/
theorem pieces_append {before : List α} (h : mark ∉ before) (behind : List α) :
    pieces mark (before ++ mark :: behind) = before :: pieces mark behind := by
  have hcut := cutFirst_append h behind
  rw [pieces]
  split
  · next hnone => simp [hcut] at hnone
  · next piece rest hsome =>
      obtain ⟨rfl, rfl⟩ : before = piece ∧ behind = rest := by simpa [hcut] using hsome
      rfl

/-- No piece holds the mark. -/
theorem not_mem_of_mem_pieces {cs piece : List α} (h : piece ∈ pieces mark cs) :
    mark ∉ piece := by
  induction cs using pieces.induct mark with
  | case1 cs hcut =>
      have hmark := cutFirst_eq_none_iff.1 hcut
      rw [pieces_of_not_mem hmark, List.mem_singleton] at h
      rwa [h]
  | case2 cs first rest hcut _ ih =>
      obtain ⟨rfl, hmark⟩ := eq_append_of_cutFirst hcut
      rw [pieces_append hmark] at h
      rcases List.mem_cons.1 h with rfl | h
      · exact hmark
      · exact ih h

/-- **Texts that are joined by a mark are the pieces again**, unless there is no text at all. -/
theorem pieces_intercalate {texts : List (List α)} (hne : texts ≠ [])
    (h : ∀ text ∈ texts, mark ∉ text) : pieces mark ([mark].intercalate texts) = texts := by
  induction texts with
  | nil => exact absurd rfl hne
  | cons text texts ih =>
      have hmark := h text List.mem_cons_self
      cases texts with
      | nil => rw [List.intercalate_singleton, pieces_of_not_mem hmark]
      | cons text' texts =>
          have hrest := ih (List.cons_ne_nil _ _) fun t ht => h t (List.mem_cons_of_mem _ ht)
          rw [List.intercalate_cons_cons, List.append_assoc, List.singleton_append,
            pieces_append hmark, hrest]

end Cutting

/-! ### Lines -/

/-- The lines of a text, without their ends. -/
def lines : List Char → List (List Char)
  | [] => []
  | '\n' :: rest => [] :: lines rest
  | '\r' :: '\n' :: rest => [] :: lines rest
  | c :: rest =>
      match lines rest with
      | [] => [[c]]
      | line :: others => (c :: line) :: others

/-- Lines with a line feed between each two. -/
def joinLines (lines : List (List Char)) : List Char :=
  ['\n'].intercalate lines

/-- The number of bytes of a text in UTF-8. -/
def byteLength (cs : List Char) : Nat :=
  cs.foldr (fun c bytes => c.utf8Size + bytes) 0

@[simp] theorem byteLength_nil : byteLength [] = 0 := rfl

@[simp] theorem byteLength_cons (c : Char) (cs : List Char) :
    byteLength (c :: cs) = c.utf8Size + byteLength cs := rfl

@[simp] theorem byteLength_append (cs ds : List Char) :
    byteLength (cs ++ ds) = byteLength cs + byteLength ds := by
  induction cs with
  | nil => simp
  | cons c cs ih => rw [List.cons_append, byteLength_cons, byteLength_cons, ih, Nat.add_assoc]

/-- A text without the characters that make up its first `bytes` bytes. -/
def dropBytes : Nat → List Char → List Char
  | 0, cs => cs
  | _ + 1, [] => []
  | bytes + 1, c :: cs => dropBytes (bytes + 1 - c.utf8Size) cs

end QueryWeave.Text
