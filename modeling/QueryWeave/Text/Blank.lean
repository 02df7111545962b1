/-
**White space.**

Properties of characters that a standard defines by a table are kept as lists of closed ranges of
code points.  The blank characters are those with the Unicode property White_Space: the ASCII blanks
U+0009 to U+000D and U+0020, U+0085, U+00A0, U+1680, U+2000 to U+200A, U+2028, U+2029, U+202F,
U+205F and U+3000.  A zero-width space (U+200B) and a byte order mark (U+FEFF) are not among them.

Main definitions:

* `QueryWeave.Text.CodeRanges.contains` — membership of a character in one of the ranges;
* `QueryWeave.Text.isBlank` — the class of blank characters;
* `QueryWeave.Text.trimStart`, `QueryWeave.Text.trimEnd`, `QueryWeave.Text.trim` — a text without
  the blanks at its start, at its end, at both.

Main results:

* `QueryWeave.Text.trimStart_append`, `QueryWeave.Text.trimEnd_append` — blanks in front of a text
  and behind it are lost in trimming;
* `QueryWeave.Text.exists_eq_append_trim` — and nothing else is.
-/

set_option relaxedAutoImplicit false
set_option autoImplicit false

namespace QueryWeave.Text

/-! ### Sets of characters -/

/-- Closed ranges of code points, each with its first and its last member. -/
abbrev CodeRanges : Type := List (Nat × Nat)

/-- Whether the code point of `c` lies in one of the ranges. -/
def CodeRanges.contains (ranges : CodeRanges) (c : Char) : Bool :=
  ranges.any fun range => range.1 ≤ c.toNat && c.toNat ≤ range.2

theorem CodeRanges.contains_iff (ranges : CodeRanges) (c : Char) :
    ranges.contains c = true ↔ ∃ range ∈ ranges, range.1 ≤ c.toNat ∧ c.toNat ≤ range.2 := by
  simp [CodeRanges.contains]

/-! ### The class -/

/-- The ranges of code points with the property White_Space. -/
def blankRanges : CodeRanges :=
  [(0x9, 0xD), (0x20, 0x20), (0x85, 0x85), (0xA0, 0xA0), (0x1680, 0x1680), (0x2000, 0x200A),
    (0x2028, 0x2029), (0x202F, 0x202F), (0x205F, 0x205F), (0x3000, 0x3000)]

/-- Whether `c` is white space. -/
def isBlank (c : Char) : Bool :=
  blankRanges.contains c

/-! ### Trimming -/

/-- The text without the blanks at its start. -/
def trimStart (cs : List Char) : List Char :=
  cs.dropWhile isBlank

/-- The text without the blanks at its end. -/
def trimEnd (cs : List Char) : List Char :=
  (cs.reverse.dropWhile isBlank).reverse

/-- The text without the blanks at both of its ends. -/
def trim (cs : List Char) : List Char :=
  trimEnd (trimStart cs)

@[simp] theorem trimStart_nil : trimStart [] = [] := rfl

@[simp] theorem trimEnd_nil : trimEnd [] = [] := rfl

@[simp] theorem trim_nil : trim [] = [] := rfl

/-- Blanks in front of a text are lost in trimming its start. -/
theorem trimStart_append (blanks cs : List Char) (h : ∀ c ∈ blanks, isBlank c = true) :
    trimStart (blanks ++ cs) = trimStart cs := by
  unfold trimStart
  rw [List.dropWhile_append_of_pos h]

/-- Blanks behind a text are lost in trimming its end. -/
theorem trimEnd_append (cs blanks : List Char) (h : ∀ c ∈ blanks, isBlank c = true) :
    trimEnd (cs ++ blanks) = trimEnd cs := by
  unfold trimEnd
  rw [List.reverse_append, List.dropWhile_append_of_pos (by simpa using h)]

theorem exists_eq_append_trimStart (cs : List Char) :
    ∃ blanks, (∀ c ∈ blanks, isBlank c = true) ∧ cs = blanks ++ trimStart cs :=
  ⟨cs.takeWhile isBlank, fun c hc => List.all_eq_true.1 List.all_takeWhile c hc,
    (List.takeWhile_append_dropWhile).symm⟩

theorem exists_eq_trimEnd_append (cs : List Char) :
    ∃ blanks, (∀ c ∈ blanks, isBlank c = true) ∧ cs = trimEnd cs ++ blanks := by
  obtain ⟨blanks, hb, h⟩ := exists_eq_append_trimStart cs.reverse
  refine ⟨blanks.reverse, by simpa using hb, ?_⟩
  have := congrArg List.reverse h
  simpa [trimEnd, trimStart] using this

/-- A text is its trimmed form between two runs of blanks. -/
theorem exists_eq_append_trim (cs : List Char) :
    ∃ left right, (∀ c ∈ left, isBlank c = true) ∧ (∀ c ∈ right, isBlank c = true) ∧
      cs = left ++ trim cs ++ right := by
  obtain ⟨left, hl, hcs⟩ := exists_eq_append_trimStart cs
  obtain ⟨right, hr, hts⟩ := exists_eq_trimEnd_append (trimStart cs)
  refine ⟨left, right, hl, hr, ?_⟩
  rw [trim, List.append_assoc, ← hts]
  exact hcs

end QueryWeave.Text
