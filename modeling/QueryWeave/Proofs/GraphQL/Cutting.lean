/-
**Cutting a text with more text behind it.**

A text that can be cut to its end is cut in the same way in front of more text, if its last token is
a closing bracket: no other token can reach into what follows.  What follows is cut with the
brackets that are open there.  But the ignored text behind the last token can reach further: if it
ends within a comment, all that follows belongs to this comment up to the end of the line.

Main definitions:

* `QueryWeave.GraphQL.Scan.tokens?` — the tokens of a text that is cut to its end;
* `QueryWeave.GraphQL.Scan.inComment` — whether a text ends within a comment;
* `QueryWeave.GraphQL.behindComment` — what is left of the text that follows.

Main results:

* `QueryWeave.GraphQL.scanToken_append` — a token in front of more text;
* `QueryWeave.GraphQL.tokens?_append` — **a text in front of more text**.
-/

import QueryWeave.Proofs.GraphQL.Written

set_option relaxedAutoImplicit false
set_option autoImplicit false

namespace QueryWeave.GraphQL

/-! ### Ignored text -/

/-- Whether `c` ends a comment. -/
def isLineEnd (c : Char) : Bool :=
  c == '\n' || c == '\r'

/-- Whether ignored text ends within a comment, if it begins within one or not. -/
def endsInComment (inComment : Bool) (gap : List Char) : Bool :=
  gap.foldl (fun inComment c => if inComment then !isLineEnd c else c == '#') inComment

/-- What is left of a text behind another one that may end within a comment. -/
def behindComment (inComment : Bool) (cs : List Char) : List Char :=
  if inComment then cs.dropWhile fun c => !isLineEnd c else cs

theorem endsInComment_cons (inComment : Bool) (c : Char) (gap : List Char) :
    endsInComment inComment (c :: gap) =
      endsInComment (if inComment then !isLineEnd c else c == '#') gap := rfl

@[simp] theorem behindComment_false (cs : List Char) : behindComment false cs = cs := rfl

/-- Behind a comment comes what follows the end of its line. -/
theorem splitComment_snd (cs : List Char) :
    (splitComment cs).2 = (splitGap (behindComment true cs)).2 := by
  induction cs with
  | nil => rfl
  | cons c cs ih =>
      unfold splitComment
      by_cases hc : c = '\n' ∨ c = '\r'
      · have hend : isLineEnd c = true := by simpa [isLineEnd] using hc
        have hignored : isIgnored c = true := by
          rcases hc with rfl | rfl <;> rfl
        rw [if_pos hc, behindComment, if_pos rfl, List.dropWhile_cons_of_neg (by simp [hend])]
        rw [splitGap, if_pos hignored]
      · have hend : isLineEnd c = false := by simpa [isLineEnd] using hc
        rw [if_neg hc, behindComment, if_pos rfl, List.dropWhile_cons_of_pos (by simp [hend])]
        exact ih

mutual
/-- Ignored text goes on in what follows; otherwise it ends where it did. -/
theorem splitGap_append_snd (cs ds : List Char) :
    (splitGap (cs ++ ds)).2 =
      if (splitGap cs).2 = [] then (splitGap (behindComment (endsInComment false cs) ds)).2
      else (splitGap cs).2 ++ ds := by
  match cs with
  | [] => rfl
  | c :: cs =>
      rw [List.cons_append, splitGap, splitGap]
      by_cases hignored : isIgnored c = true
      · have hc : endsInComment false (c :: cs) = endsInComment false cs := by
          have hne : c ≠ '#' := by
            rintro rfl
            cases hignored
          rw [endsInComment_cons, if_neg Bool.false_ne_true, beq_false_of_ne hne]
        rw [if_pos hignored, if_pos hignored, hc]
        exact splitGap_append_snd cs ds
      · rw [if_neg hignored, if_neg hignored]
        by_cases hc : c = '#'
        · rw [if_pos hc, if_pos hc, hc]
          exact splitComment_append_snd cs ds
        · rw [if_neg hc, if_neg hc]
          simp
/-- The same within a comment. -/
theorem splitComment_append_snd (cs ds : List Char) :
    (splitComment (cs ++ ds)).2 =
      if (splitComment cs).2 = [] then (splitGap (behindComment (endsInComment true cs) ds)).2
      else (splitComment cs).2 ++ ds := by
  match cs with
  | [] => exact splitComment_snd ds
  | c :: cs =>
      rw [List.cons_append, splitComment, splitComment]
      by_cases hc : c = '\n' ∨ c = '\r'
      · have hend : endsInComment true (c :: cs) = endsInComment false cs := by
          have h : isLineEnd c = true := by simpa [isLineEnd] using hc
          simp [endsInComment_cons, h]
        rw [if_pos hc, if_pos hc, hend]
        exact splitGap_append_snd cs ds
      · have hend : endsInComment true (c :: cs) = endsInComment true cs := by
          have h : isLineEnd c = false := by simpa [isLineEnd] using hc
          simp [endsInComment_cons, h]
        rw [if_neg hc, if_neg hc, hend]
        exact splitComment_append_snd cs ds
end

/-- A line feed ends any comment. -/
theorem splitGap_behind_lineFeed (inComment : Bool) (ds : List Char) :
    (splitGap (behindComment inComment ('\n' :: ds))).2 = (splitGap ds).2 := by
  cases inComment <;> rfl

/-! ### One token -/

theorem splitString_append {cs content rest : List Char} (ds : List Char)
    (h : splitString cs = some (content, rest)) :
    splitString (cs ++ ds) = some (content, rest ++ ds) := by
  fun_induction splitString cs generalizing content with
  | case1 => cases h
  | case2 =>
      cases h
      rfl
  | case3 => cases h
  | case4 => cases h
  | case5 c cs hc ih =>
      obtain ⟨⟨a, b⟩, hab, heq⟩ := Option.map_eq_some_iff.1 h
      cases heq
      simp [splitString, ih hab]
  | case6 c cs hquote hfeed hslashFeed hslash ih =>
      obtain ⟨⟨a, b⟩, hab, heq⟩ := Option.map_eq_some_iff.1 h
      cases heq
      have hcs : cs ≠ [] := by
        rintro rfl
        cases hab
      have hc : c ≠ '\\' := by
        rintro rfl
        obtain ⟨c', cs', rfl⟩ := List.exists_cons_of_ne_nil hcs
        exact hslash c' cs' rfl rfl
      rw [List.cons_append, splitString, ih hab]
      · rfl
      · exact hquote
      · exact hfeed
      · exact fun _ h _ => hc h
      · exact fun _ _ h _ => hc h

theorem splitBlock_append {escaped : Bool} {cs content rest : List Char} (ds : List Char)
    (h : splitBlock escaped cs = some (content, rest)) :
    splitBlock escaped (cs ++ ds) = some (content, rest ++ ds) := by
  fun_induction splitBlock escaped cs generalizing content with
  | case1 => cases h
  | case2 rest ih =>
      obtain ⟨⟨a, b⟩, hab, heq⟩ := Option.map_eq_some_iff.1 h
      cases heq
      simp [splitBlock, ih hab]
  | case3 escaped rest hescaped =>
      cases h
      simp [splitBlock, hescaped]
  | case4 escaped c cs htriple ih =>
      obtain ⟨⟨a, b⟩, hab, heq⟩ := Option.map_eq_some_iff.1 h
      cases heq
      rw [List.cons_append, splitBlock, ih hab]
      · rfl
      · -- a quote and two more of them would all stand within `c :: cs`
        rintro ds' rfl happ
        match cs with
        | [] => cases hab
        | [_] => simp [splitBlock] at hab
        | c₁ :: c₂ :: cs =>
            obtain ⟨rfl, rfl, -⟩ : c₁ = '"' ∧ c₂ = '"' ∧ cs ++ ds = ds' := by simpa using happ
            exact htriple cs rfl rfl

/-- Behind an opening quote there is a string. -/
theorem token_of_scanString {cs : List Char} {s : Scanned} (h : scanString cs = some s) :
    ∃ value, s.token = .string value := by
  unfold scanString at h
  split at h
  · obtain ⟨_, -, h⟩ := Option.bind_eq_some_iff.1 h
    cases h
    exact ⟨_, rfl⟩
  · obtain ⟨_, -, h⟩ := Option.bind_eq_some_iff.1 h
    obtain ⟨_, -, h⟩ := Option.bind_eq_some_iff.1 h
    cases h
    exact ⟨_, rfl⟩

/-- A number is whole, or it has a floating point. -/
theorem token_of_numberToken? {cs : List Char} {t : Token} (h : numberToken? cs = some t) :
    (∃ value, t = .int value) ∨ ∃ value, t = .float value := by
  unfold numberToken? at h
  split at h
  · split at h
    · obtain ⟨_, -, rfl⟩ := Option.map_eq_some_iff.1 h
      exact Or.inr ⟨_, rfl⟩
    · cases h
  · split at h
    · split at h
      · split at h
        · cases h
          exact Or.inl ⟨_, rfl⟩
        · cases h
      · cases h
    · cases h

/-- Where a text stops being taken, it stops in front of more text too. -/
theorem span_append {p : Char → Bool} {cs : List Char} (ds : List Char)
    (h : cs.dropWhile p ≠ []) :
    (cs ++ ds).takeWhile p = cs.takeWhile p ∧ (cs ++ ds).dropWhile p = cs.dropWhile p ++ ds := by
  have hlength : (cs.takeWhile p).length ≠ cs.length := by
    have hsum := congrArg List.length (List.takeWhile_append_dropWhile (p := p) (l := cs))
    have hpos := List.length_pos_iff.2 h
    rw [List.length_append] at hsum
    omega
  rw [List.takeWhile_append, if_neg hlength, List.dropWhile_append,
    if_neg (by simpa using h)]
  exact ⟨rfl, rfl⟩

theorem scanString_append {cs : List Char} {s : Scanned} (ds : List Char)
    (h : scanString cs = some s) (hrest : s.rest ≠ []) :
    scanString (cs ++ ds) = some ⟨s.token, s.text, s.rest ++ ds⟩ := by
  unfold scanString at h
  split at h
  · next inner =>
      simp only [Option.bind_eq_bind, Option.bind_eq_some_iff, Option.pure_def,
        Option.some.injEq] at h
      obtain ⟨⟨content, rest⟩, hcut, rfl⟩ := h
      simp [scanString, splitBlock_append ds hcut]
  · next hblock =>
      simp only [Option.bind_eq_bind, Option.bind_eq_some_iff, Option.pure_def,
        Option.some.injEq] at h
      obtain ⟨⟨content, rest⟩, hcut, value, hvalue, rfl⟩ := h
      rw [scanString]
      · simp [splitString_append ds hcut, hvalue]
      · -- two quotes at the front would be an empty string at the end
        intro inner happ
        match cs with
        | [] => cases hcut
        | [c] =>
            obtain ⟨rfl, -⟩ : c = '"' ∧ ds = '"' :: inner := by simpa using happ
            cases hcut
            exact hrest rfl
        | c₁ :: c₂ :: cs =>
            obtain ⟨rfl, rfl, -⟩ : c₁ = '"' ∧ c₂ = '"' ∧ cs ++ ds = inner := by simpa using happ
            exact hblock cs rfl

/-- A token is cut off in the same way in front of more text if it does not end the text, or if it
is a closing bracket. -/
theorem scanToken_append {cs : List Char} {s : Scanned} (ds : List Char)
    (h : scanToken cs = some s) (hend : s.rest ≠ [] ∨ s.token.isClosing = true) :
    scanToken (cs ++ ds) = some ⟨s.token, s.text, s.rest ++ ds⟩ := by
  unfold scanToken at h
  split at h
  · cases h
  · cases h
    rfl
  · obtain ⟨value, hvalue⟩ := token_of_scanString h
    have hrest : s.rest ≠ [] := hend.resolve_right (by simp [hvalue, Token.isClosing])
    exact scanString_append ds h hrest
  · next c cs hdots hquote =>
      have hdot : c ≠ '.' := by
        rintro rfl
        cases h
      rw [List.cons_append, scanToken]
      · split at h
        · cases h
          rfl
        · split at h
          · next hname =>
              cases h
              have hrest := hend.resolve_right (by simp [Token.isClosing])
              obtain ⟨htake, hdrop⟩ := span_append ds hrest
              rw [if_pos hname, htake, hdrop]
          · next hname =>
              split at h
              · next hnumber =>
                  obtain ⟨t, htoken, rfl⟩ := Option.map_eq_some_iff.1 h
                  have hclosing : t.isClosing = false := by
                    rcases token_of_numberToken? htoken with ⟨_, rfl⟩ | ⟨_, rfl⟩ <;> rfl
                  have hrest := hend.resolve_right (by simp [hclosing])
                  obtain ⟨htake, hdrop⟩ := span_append ds hrest
                  rw [if_neg hname, if_pos hnumber, htake, hdrop]
                  dsimp only
                  rw [htoken]
                  rfl
              · cases h
      · exact fun _ h _ => hdot h
      · exact hquote

/-! ### A whole text -/

/-- The tokens of a text, if it is cut to its end. -/
def Scan.tokens? (s : Scan) : Option (List Token) :=
  if s.complete then some s.tokens else none

/-- Whether the text ends within a comment. -/
def Scan.inComment (s : Scan) : Bool :=
  endsInComment false s.gap

section ScanFrom

variable {opened opened' : Nat} {cs : List Char} {s : Scanned}

theorem scanFrom_of_none (h : scanToken (splitGap cs).2 = none) :
    scanFrom opened cs = ⟨[], (splitGap cs).1, (splitGap cs).2.isEmpty⟩ := by
  rw [scanFrom]
  split
  · rfl
  · next s hs =>
      rw [h] at hs
      cases hs

@[simp] theorem scanFrom_nil (opened : Nat) : scanFrom opened [] = ⟨[], [], true⟩ :=
  scanFrom_of_none rfl

theorem scanFrom_of_some (h : scanToken (splitGap cs).2 = some s) :
    scanFrom opened cs =
      match openBracketsAfter opened s.token with
      | none => ⟨[], (splitGap cs).1, false⟩
      | some opened' =>
          ⟨⟨(splitGap cs).1, s.text, s.token⟩ :: (scanFrom opened' s.rest).lexemes,
            (scanFrom opened' s.rest).gap, (scanFrom opened' s.rest).complete⟩ := by
  rw [scanFrom]
  split
  · next hs =>
      rw [h] at hs
      cases hs
  · next s' hs =>
      obtain rfl : s = s' := Option.some_inj.1 (h.symm.trans hs)
      rfl

end ScanFrom

/-- Cutting a text to its end is cutting off one token after another. -/
theorem tokens?_scanFrom (opened : Nat) (cs : List Char) :
    (scanFrom opened cs).tokens? =
      match scanToken (splitGap cs).2 with
      | none => if (splitGap cs).2 = [] then some [] else none
      | some s => (openBracketsAfter opened s.token).bind fun opened' =>
          (scanFrom opened' s.rest).tokens?.map (s.token :: ·) := by
  split
  · next hs =>
      rw [scanFrom_of_none hs]
      simp [Scan.tokens?, Scan.tokens]
  · next s hs =>
      rw [scanFrom_of_some hs]
      cases openBracketsAfter opened s.token with
      | none => rfl
      | some opened' =>
          simp only [Scan.tokens?, Scan.tokens, List.map_cons, Option.bind_some]
          split <;> rfl

/-- Ignored text at the front makes no difference. -/
theorem tokens?_congr {opened : Nat} {cs cs' : List Char}
    (h : (splitGap cs).2 = (splitGap cs').2) :
    (scanFrom opened cs).tokens? = (scanFrom opened cs').tokens? := by
  rw [tokens?_scanFrom, tokens?_scanFrom, h]

/-- A text that can be cut does not close too many brackets, nor open too many. -/
theorem exists_bracketsAfter {opened : Nat} {cs : List Char} {ts : List Token}
    (h : (scanFrom opened cs).tokens? = some ts) :
    ∃ opened', bracketsAfter opened ts = some opened' := by
  rw [tokens?_scanFrom] at h
  split at h
  · split at h
    · cases h
      exact ⟨opened, rfl⟩
    · cases h
  · next s hs =>
      have hlt := length_rest_lt hs
      obtain ⟨opened', hopened, h⟩ := Option.bind_eq_some_iff.1 h
      obtain ⟨ts, hts, rfl⟩ := Option.map_eq_some_iff.1 h
      obtain ⟨opened'', hrest⟩ := exists_bracketsAfter hts
      exact ⟨opened'', by rw [bracketsAfter_cons, hopened, Option.bind_some, hrest]⟩
termination_by cs.length

/-- **A text that ends with a closing bracket, in front of more text**: its tokens come first, and
then those of what is left of the text that follows. -/
theorem tokens?_append {opened : Nat} {cs : List Char} {ts : List Token} (ds : List Char)
    (h : (scanFrom opened cs).tokens? = some ts)
    (hend : ∀ t, ts.getLast? = some t → t.isClosing = true) :
    (scanFrom opened (cs ++ ds)).tokens? = (bracketsAfter opened ts).bind fun opened' =>
      (scanFrom opened' (behindComment (scanFrom opened cs).inComment ds)).tokens?.map
        (ts ++ ·) := by
  rw [tokens?_scanFrom] at h
  cases hs : scanToken (splitGap cs).2 with
  | none =>
      rw [hs] at h
      dsimp only at h
      split at h
      · next hgap =>
          cases h
          have hcs : (splitGap cs).1 = cs := by
            have := splitGap_append cs
            rwa [hgap, List.append_nil] at this
          have hbehind := (splitGap_append_snd cs ds).trans (if_pos hgap)
          rw [tokens?_congr hbehind, scanFrom_of_none hs, Scan.inComment, hcs]
          simp
      · cases h
  | some s =>
      rw [hs] at h
      obtain ⟨opened', hopened, h⟩ := Option.bind_eq_some_iff.1 h
      obtain ⟨ts', hts', rfl⟩ := Option.map_eq_some_iff.1 h
      have hlt := length_rest_lt hs
      have hgap : (splitGap cs).2 ≠ [] := by
        intro hnil
        rw [hnil] at hs
        cases hs
      have hlast : s.rest ≠ [] ∨ s.token.isClosing = true := by
        by_cases hrest : s.rest = []
        · have hnil : ts' = [] := by
            rw [hrest, scanFrom_nil] at hts'
            exact (Option.some_inj.1 hts').symm
          exact .inr (hend s.token (by rw [hnil]; rfl))
        · exact .inl hrest
      have hend' : ∀ t, ts'.getLast? = some t → t.isClosing = true := by
        intro t ht
        refine hend t ?_
        rw [List.getLast?_cons, ht]
        rfl
      have ih := tokens?_append ds hts' hend'
      rw [tokens?_scanFrom, splitGap_append_snd, if_neg hgap, scanToken_append ds hs hlast]
      dsimp only
      rw [hopened, Option.bind_some, ih, scanFrom_of_some hs, hopened, bracketsAfter_cons, hopened]
      rw [Option.bind_some, Option.map_bind]
      refine Option.bind_congr fun opened'' _ => ?_
      dsimp only [Function.comp_apply]
      rw [Option.map_map]
      rfl
termination_by cs.length

end QueryWeave.GraphQL
