/-
**Texts with a line feed between them.**

No token goes on behind a line feed but a block string.  So a text in front of a line feed is cut
as it is cut alone, and what follows is cut behind it, if no block string that is left open in the
first text can be closed in the second one.  Whether the first text ends within a comment makes no
difference.

Main results:

* `QueryWeave.GraphQL.scanToken_lineFeed` — one token in front of a line feed;
* `QueryWeave.GraphQL.tokens?_lineFeed` — **a text in front of a line feed**.
-/

import QueryWeave.Proofs.GraphQL.Cutting

set_option relaxedAutoImplicit false
set_option autoImplicit false

namespace QueryWeave.GraphQL

/-! ### Strings -/

/-- A string that is not closed in front of a line feed is not closed behind it. -/
theorem splitString_lineFeed (cs ds : List Char) :
    splitString (cs ++ '\n' :: ds) =
      (splitString cs).map fun cut => (cut.1, cut.2 ++ '\n' :: ds) := by
  fun_induction splitString cs with
  | case1 => rfl
  | case2 => rfl
  | case3 => rfl
  | case4 => rfl
  | case5 c cs hfeed ih =>
      rw [List.cons_append, List.cons_append, splitString, ih]
      · cases splitString cs <;> rfl
      · exact hfeed
  | case6 c cs hquote hfeed hslashFeed hslash ih =>
      by_cases hc : c = '\\'
      · -- a backslash is the last character of the text, and does not help the line feed
        subst hc
        cases cs with
        | nil => rfl
        | cons c cs => exact (hslash c cs rfl rfl).elim
      · rw [List.cons_append, splitString, ih]
        · cases splitString cs <;> rfl
        · exact hquote
        · exact hfeed
        · exact fun _ h _ => hc h
        · exact fun _ _ h _ => hc h

/-- A text without a quote does not close a block string. -/
theorem splitBlock_eq_none {cs : List Char} (h : '"' ∉ cs) (escaped : Bool) :
    splitBlock escaped cs = none := by
  fun_induction splitBlock escaped cs with
  | case1 => rfl
  | case2 => exact absurd List.mem_cons_self h
  | case3 => exact absurd List.mem_cons_self h
  | case4 escaped c cs _ ih => rw [ih fun hmem => h (List.mem_cons_of_mem _ hmem), Option.map_none]

/-- A block string that is not closed in front of a line feed is not closed by a text without a
quote behind it. -/
theorem splitBlock_lineFeed {ds : List Char} (h : '"' ∉ ds) (escaped : Bool) (cs : List Char) :
    splitBlock escaped (cs ++ '\n' :: ds) =
      (splitBlock escaped cs).map fun cut => (cut.1, cut.2 ++ '\n' :: ds) := by
  fun_induction splitBlock escaped cs with
  | case1 escaped => exact splitBlock_eq_none (by simpa using h) escaped
  | case2 rest ih =>
      rw [List.cons_append, List.cons_append, List.cons_append, splitBlock, if_pos rfl, ih]
      cases splitBlock false rest <;> rfl
  | case3 escaped rest hescaped =>
      rw [List.cons_append, List.cons_append, List.cons_append, splitBlock, if_neg hescaped]
      rfl
  | case4 escaped c cs htriple ih =>
      rw [List.cons_append, splitBlock, ih]
      · cases splitBlock (c == '\\') cs <;> rfl
      · -- the line feed is no quote, so three quotes would all stand in front of it
        rintro ds' rfl happ
        rcases cs with - | ⟨c₁, - | ⟨c₂, cs⟩⟩
        · simp at happ
        · simp at happ
        · obtain ⟨rfl, rfl, -⟩ : c₁ = '"' ∧ c₂ = '"' ∧ cs ++ '\n' :: ds = ds' := by
            simpa using happ
          exact htriple cs rfl rfl

/-! ### One token -/

/-- What is taken of a text ends in front of a character that is not taken. -/
theorem span_append_cons {p : Char → Bool} {d : Char} (hd : p d = false) (cs ds : List Char) :
    (cs ++ d :: ds).takeWhile p = cs.takeWhile p ∧
      (cs ++ d :: ds).dropWhile p = cs.dropWhile p ++ d :: ds := by
  induction cs with
  | nil => simp [hd]
  | cons c cs ih =>
      by_cases hc : p c = true
      · simp [hc, ih]
      · simp [hc]

/-- The token with more text behind it. -/
def Scanned.before (s : Scanned) (cs : List Char) : Scanned :=
  { s with rest := s.rest ++ cs }

theorem scanString_lineFeed {ds : List Char} (h : '"' ∉ ds) (cs : List Char) :
    scanString (cs ++ '\n' :: ds) = (scanString cs).map fun s => s.before ('\n' :: ds) := by
  by_cases hblock : ∃ inner, cs = '"' :: '"' :: inner
  · obtain ⟨inner, rfl⟩ := hblock
    rw [List.cons_append, List.cons_append, scanString, scanString, splitBlock_lineFeed h]
    cases splitBlock false inner <;> rfl
  · rw [scanString, scanString, splitString_lineFeed]
    · cases splitString cs with
      | none => rfl
      | some cut =>
          dsimp only [Option.map_some, Option.bind_eq_bind, Option.bind_some]
          cases unescape? cut.1 <;> rfl
    · exact fun inner hcs => hblock ⟨inner, hcs⟩
    · -- two quotes at the front would both stand in front of the line feed
      intro inner happ
      rcases cs with - | ⟨c₁, - | ⟨c₂, cs⟩⟩
      · simp at happ
      · simp at happ
      · obtain ⟨rfl, rfl, -⟩ : c₁ = '"' ∧ c₂ = '"' ∧ cs ++ '\n' :: ds = inner := by
          simpa using happ
        exact hblock ⟨cs, rfl⟩

/-- A token is cut off in the same way in front of a line feed. -/
theorem scanToken_lineFeed {ds : List Char} (h : '"' ∉ ds) {cs : List Char} (hcs : cs ≠ []) :
    scanToken (cs ++ '\n' :: ds) = (scanToken cs).map fun s => s.before ('\n' :: ds) := by
  by_cases hdots : ∃ rest, cs = '.' :: '.' :: '.' :: rest
  · obtain ⟨rest, rfl⟩ := hdots
    rfl
  by_cases hquote : ∃ inner, cs = '"' :: inner
  · obtain ⟨inner, rfl⟩ := hquote
    exact scanString_lineFeed h inner
  obtain ⟨c, cs, rfl⟩ := List.exists_cons_of_ne_nil hcs
  have hdots' : ∀ rest, c = '.' → cs ++ '\n' :: ds = '.' :: '.' :: rest → False := by
    rintro rest rfl happ
    rcases cs with - | ⟨c₁, - | ⟨c₂, cs⟩⟩
    · simp at happ
    · simp at happ
    · obtain ⟨rfl, rfl, -⟩ : c₁ = '.' ∧ c₂ = '.' ∧ cs ++ '\n' :: ds = rest := by simpa using happ
      exact hdots ⟨cs, rfl⟩
  have hname : isNameChar '\n' = false := rfl
  rw [List.cons_append, scanToken, scanToken]
  · cases Token.punctuator? c with
    | some token => rfl
    | none =>
        dsimp only
        split
        · obtain ⟨htake, hdrop⟩ := span_append_cons hname cs ds
          rw [htake, hdrop]
          rfl
        · split
          · have hspan := @span_append_cons (fun d => !isNumberEnd d) '\n' rfl cs ds
            rw [hspan.1, hspan.2, Option.map_map]
            rfl
          · rfl
  · exact fun rest hc hrest => hdots ⟨rest, by rw [hc, hrest]⟩
  · exact fun hc => hquote ⟨cs, by rw [hc]⟩
  · exact hdots'
  · exact fun hc => hquote ⟨cs, by rw [hc]⟩

/-! ### A whole text -/

/-- **A text in front of a line feed** is cut as it is cut alone, and what follows is cut behind
it. -/
theorem tokens?_lineFeed {ds : List Char} (h : '"' ∉ ds) (opened : Nat) (cs : List Char) :
    (scanFrom opened (cs ++ '\n' :: ds)).tokens? =
      (scanFrom opened cs).tokens?.bind fun ts => (bracketsAfter opened ts).bind fun opened' =>
        (scanFrom opened' ds).tokens?.map (ts ++ ·) := by
  have hsnd := splitGap_append_snd cs ('\n' :: ds)
  rw [splitGap_behind_lineFeed] at hsnd
  by_cases hgap : (splitGap cs).2 = []
  · rw [if_pos hgap] at hsnd
    rw [tokens?_congr hsnd, tokens?_scanFrom opened cs, hgap]
    simp [scanToken]
  · rw [if_neg hgap] at hsnd
    rw [tokens?_scanFrom opened (cs ++ '\n' :: ds), tokens?_scanFrom opened cs, hsnd,
      scanToken_lineFeed h hgap]
    cases hs : scanToken (splitGap cs).2 with
    | none =>
        dsimp only [Option.map_none]
        rw [if_neg hgap, if_neg (by simp)]
        rfl
    | some s =>
        have hlt := length_rest_lt hs
        dsimp only [Option.map_some, Scanned.before]
        cases hopened : openBracketsAfter opened s.token with
        | none => rfl
        | some opened' =>
            simp only [Option.bind_some, tokens?_lineFeed h opened' s.rest, Option.map_bind,
              Option.bind_map, bracketsAfter_cons, hopened, Function.comp_def, Option.map_map,
              List.cons_append]
termination_by cs.length

end QueryWeave.GraphQL
