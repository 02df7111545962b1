/-
**The front of a text.**

In front of the first token of a text there is ignored text, in which all comments have come to
their ends.  It can be left away or put there, and nothing changes but the places of the tokens.
Three dots in a row can only stand in one of its comments, and the comment may as well be without
them.  A name ends in front of any character that cannot be in a name.

Main definitions:

* `QueryWeave.GraphQL.IsGap` — ignored text that can stand in front of a token;
* `QueryWeave.GraphQL.isName` — texts that are names.

Main results:

* `QueryWeave.GraphQL.isGap_splitGap` — what is ignored in front of a token is such a text;
* `QueryWeave.GraphQL.IsGap.splitGap_append` — it makes no difference;
* `QueryWeave.GraphQL.IsGap.without_marker` — **dots can be taken out of its comments**;
* `QueryWeave.GraphQL.tokens?_name` — a name at the front of a text;
* `QueryWeave.GraphQL.tokens?_mono` — a text can be cut where fewer brackets are open.
-/

import QueryWeave.Proofs.Fragment.Marker
import QueryWeave.Proofs.GraphQL.Cutting

set_option relaxedAutoImplicit false
set_option autoImplicit false

namespace QueryWeave.GraphQL

/-! ### Ignored text in front of a token -/

/-- The text is ignored as a whole, and no comment in it goes on behind it. -/
structure IsGap (gap : List Char) : Prop where
  ignored : (splitGap gap).2 = []
  closed : endsInComment false gap = false

mutual
/-- What is ignored in front of a token is ignored by itself. -/
theorem isGap_splitGap {cs : List Char} (h : (splitGap cs).2 ≠ []) : IsGap (splitGap cs).1 := by
  match cs with
  | [] => exact absurd rfl h
  | c :: cs =>
      rw [splitGap] at h ⊢
      by_cases hignored : isIgnored c = true
      · rw [if_pos hignored] at h ⊢
        obtain ⟨hsnd, hclosed⟩ := isGap_splitGap h
        have hne : c ≠ '#' := by
          rintro rfl
          cases hignored
        refine ⟨?_, ?_⟩
        · rw [splitGap, if_pos hignored]
          exact hsnd
        · rw [endsInComment_cons, if_neg Bool.false_ne_true, beq_false_of_ne hne]
          exact hclosed
      · rw [if_neg hignored] at h ⊢
        by_cases hc : c = '#'
        · rw [if_pos hc] at h ⊢
          obtain ⟨hsnd, hclosed⟩ := isGap_splitComment h
          subst hc
          exact ⟨hsnd, hclosed⟩
        · rw [if_neg hc]
          exact ⟨rfl, rfl⟩
/-- The same within a comment. -/
theorem isGap_splitComment {cs : List Char} (h : (splitComment cs).2 ≠ []) :
    (splitComment (splitComment cs).1).2 = [] ∧
      endsInComment true (splitComment cs).1 = false := by
  match cs with
  | [] => exact absurd rfl h
  | c :: cs =>
      rw [splitComment] at h ⊢
      by_cases hc : c = '\n' ∨ c = '\r'
      · have hend : isLineEnd c = true := by simpa [isLineEnd] using hc
        rw [if_pos hc] at h ⊢
        obtain ⟨hsnd, hclosed⟩ := isGap_splitGap h
        refine ⟨?_, ?_⟩
        · rw [splitComment, if_pos hc]
          exact hsnd
        · rw [endsInComment_cons, if_pos rfl, hend]
          exact hclosed
      · have hend : isLineEnd c = false := by simpa [isLineEnd] using hc
        rw [if_neg hc] at h ⊢
        obtain ⟨hsnd, hclosed⟩ := isGap_splitComment h
        refine ⟨?_, ?_⟩
        · rw [splitComment, if_neg hc]
          exact hsnd
        · rw [endsInComment_cons, if_pos rfl, hend]
          exact hclosed
end

/-- Ignored text at the front makes no difference. -/
theorem IsGap.splitGap_append {gap : List Char} (h : IsGap gap) (cs : List Char) :
    (splitGap (gap ++ cs)).2 = (splitGap cs).2 := by
  rw [splitGap_append_snd, if_pos h.ignored, h.closed, behindComment_false]

theorem endsInComment_append (inComment : Bool) (cs ds : List Char) :
    endsInComment inComment (cs ++ ds) = endsInComment (endsInComment inComment cs) ds :=
  List.foldl_append

/-! ### Dots in comments -/

/-- In ignored text, a dot stands in a comment. -/
theorem IsGap.inComment_of_dot {before behind : List Char} (h : IsGap (before ++ '.' :: behind)) :
    (splitGap before).2 = [] ∧ endsInComment false before = true := by
  have hsnd := h.ignored
  rw [splitGap_append_snd] at hsnd
  by_cases hbefore : (splitGap before).2 = []
  · refine ⟨hbefore, Bool.of_not_eq_false fun hclosed => ?_⟩
    -- outside of a comment a dot is not ignored
    rw [if_pos hbefore, hclosed] at hsnd
    cases hsnd
  · rw [if_neg hbefore] at hsnd
    exact absurd (List.append_eq_nil_iff.1 hsnd).1 hbefore

/-- Ignored text does not end with a dot. -/
theorem IsGap.not_dot_suffix {gap : List Char} (h : IsGap gap) : ¬ ['.'] <:+ gap := by
  rintro ⟨before, rfl⟩
  have hclosed := h.closed
  rw [endsInComment_append, h.inComment_of_dot.2] at hclosed
  cases hclosed

/-- Behind ignored text without a marker, dots do not complete a marker that begins in it. -/
theorem IsGap.marker_first {gap : List Char} (h : IsGap gap) (hmarker : ¬ marker <:+: gap) :
    ¬ marker <:+: gap ++ ['.', '.'] := by
  have hdot := h.not_dot_suffix
  rintro ⟨before, behind, hsplit⟩
  rcases List.eq_nil_or_concat behind with rfl | ⟨behind, c, rfl⟩
  · have hsplit' : before ++ ['.'] ++ ['.', '.'] = gap ++ ['.', '.'] := by
      simpa [marker] using hsplit
    exact hdot ⟨before, List.append_cancel_right hsplit'⟩
  · rcases List.eq_nil_or_concat behind with rfl | ⟨behind, c', rfl⟩
    · have hsplit' : before ++ ['.', '.'] ++ ['.', c] = gap ++ ['.', '.'] := by
        simpa [marker] using hsplit
      have hgap := (List.append_inj' hsplit' rfl).1
      exact hdot ⟨before ++ ['.'], by simpa using hgap⟩
    · have hsplit' : before ++ marker ++ behind ++ [c', c] = gap ++ ['.', '.'] := by
        simpa using hsplit
      exact hmarker ⟨before, behind, (List.append_inj' hsplit' rfl).1⟩

/-- **Dots can be taken out of the comments** of ignored text. -/
theorem IsGap.without_marker {before behind : List Char}
    (h : IsGap (before ++ marker ++ behind)) : IsGap (before ++ behind) := by
  rw [List.append_assoc] at h
  obtain ⟨hbefore, hcomment⟩ := h.inComment_of_dot
  have hsnd := h.ignored
  have hclosed := h.closed
  rw [splitGap_append_snd, if_pos hbefore, hcomment] at hsnd
  rw [endsInComment_append, hcomment] at hclosed
  refine ⟨?_, ?_⟩
  · rw [splitGap_append_snd, if_pos hbefore, hcomment]
    exact hsnd
  · rw [endsInComment_append, hcomment]
    exact hclosed

/-! ### Names -/

/-- Whether a text is a name. -/
def isName : List Char → Bool
  | [] => false
  | c :: cs => isNameStart c && cs.all isNameChar

/-- A name has only characters that can be in a name. -/
theorem isNameChar_of_isName {cs : List Char} (h : isName cs = true) :
    ∀ c ∈ cs, isNameChar c = true := by
  cases cs with
  | nil => exact nofun
  | cons c cs =>
      simp only [isName, isNameStart, Bool.and_eq_true, Bool.or_eq_true, List.all_eq_true] at h
      refine List.forall_mem_cons.2 ⟨?_, h.2⟩
      rw [isNameChar, Char.isAlphanum, Bool.or_eq_true, Bool.or_eq_true]
      exact h.1.imp_left Or.inl

theorem isName_append {cs ds : List Char} (h : isName cs = true)
    (hds : ∀ d ∈ ds, isNameChar d = true) : isName (cs ++ ds) = true := by
  cases cs with
  | nil => cases h
  | cons c cs =>
      simp only [isName, Bool.and_eq_true, List.all_eq_true] at h
      simp only [List.cons_append, isName, Bool.and_eq_true, List.all_append, List.all_eq_true]
      exact ⟨h.1, h.2, hds⟩

theorem punctuator?_of_isNameStart {c : Char} (h : isNameStart c = true) :
    Token.punctuator? c = none := by
  unfold Token.punctuator?
  split <;> first | rfl | exact absurd h (by decide)

theorem scanToken_of_isNameStart {c : Char} (h : isNameStart c = true) (cs : List Char) :
    scanToken (c :: cs) = some ⟨.name (String.ofList (c :: cs.takeWhile isNameChar)),
      c :: cs.takeWhile isNameChar, cs.dropWhile isNameChar⟩ := by
  rw [scanToken]
  · rw [punctuator?_of_isNameStart h, if_pos h]
  · rintro rest rfl
    exact absurd h (by decide)
  · rintro rfl
    exact absurd h (by decide)

theorem splitGap_of_isNameStart {c : Char} (h : isNameStart c = true) (cs : List Char) :
    (splitGap (c :: cs)).2 = c :: cs := by
  have hignored : isIgnored c = false := by
    refine Bool.eq_false_iff.2 fun hc => ?_
    simp only [isIgnored, Bool.or_eq_true, beq_iff_eq] at hc
    rcases hc with ((((rfl | rfl) | rfl) | rfl) | rfl) | rfl <;> exact absurd h (by decide)
  have hne : c ≠ '#' := by
    rintro rfl
    exact absurd h (by decide)
  rw [splitGap, hignored, if_neg Bool.false_ne_true, if_neg hne]

/-- A name ends in front of a character that cannot be in a name. -/
theorem tokens?_name {name : List Char} (h : isName name = true) {d : Char}
    (hd : isNameChar d = false) (opened : Nat) (ds : List Char) :
    (scanFrom opened (name ++ d :: ds)).tokens? =
      (scanFrom opened (d :: ds)).tokens?.map (.name (String.ofList name) :: ·) := by
  cases name with
  | nil => cases h
  | cons c cs =>
      simp only [isName, Bool.and_eq_true, List.all_eq_true] at h
      obtain ⟨hc, hcs⟩ := h
      have hnot : ¬ isNameChar d = true := by simp [hd]
      have htake : (cs ++ d :: ds).takeWhile isNameChar = cs := by
        rw [List.takeWhile_append_of_pos hcs, List.takeWhile_cons_of_neg hnot, List.append_nil]
      have hdrop : (cs ++ d :: ds).dropWhile isNameChar = d :: ds := by
        rw [List.dropWhile_append_of_pos hcs, List.dropWhile_cons_of_neg hnot]
      rw [List.cons_append, tokens?_scanFrom, splitGap_of_isNameStart hc,
        scanToken_of_isNameStart hc, htake, hdrop]
      rfl

/-! ### Dots at the front -/

/-- The token of three dots is written in one way. -/
theorem eq_of_scanToken_ellipsis {cs : List Char} {s : Scanned} (h : scanToken cs = some s)
    (htoken : s.token = .ellipsis) : cs = marker ++ s.rest := by
  unfold scanToken at h
  split at h
  · cases h
  · cases h
    rfl
  · obtain ⟨value, hvalue⟩ := token_of_scanString h
    rw [htoken] at hvalue
    cases hvalue
  · next c cs hdots hquote =>
      split at h
      · next token hpunctuator =>
          cases h
          obtain rfl : token = .ellipsis := htoken
          unfold Token.punctuator? at hpunctuator
          split at hpunctuator <;> cases hpunctuator
      · split at h
        · cases h
          cases htoken
        · split at h
          · obtain ⟨t, ht, rfl⟩ := Option.map_eq_some_iff.1 h
            obtain rfl : t = .ellipsis := htoken
            rcases token_of_numberToken? ht with ⟨_, heq⟩ | ⟨_, heq⟩ <;> cases heq
          · cases h

/-- A text that begins with dots: the ignored text, the dots, and what follows. -/
theorem exists_of_tokens?_ellipsis {opened : Nat} {cs : List Char} {ts : List Token}
    (h : (scanFrom opened cs).tokens? = some (.ellipsis :: ts)) :
    ∃ rest, cs = (splitGap cs).1 ++ (marker ++ rest) ∧ IsGap (splitGap cs).1 ∧
      (scanFrom opened rest).tokens? = some ts := by
  rw [tokens?_scanFrom] at h
  split at h
  · split at h <;> cases h
  · next s hs =>
      obtain ⟨opened', hopened, h⟩ := Option.bind_eq_some_iff.1 h
      obtain ⟨ts', hts', heq⟩ := Option.map_eq_some_iff.1 h
      obtain ⟨htoken, rfl⟩ := List.cons.inj heq
      obtain rfl : opened = opened' := by
        rw [htoken] at hopened
        exact Option.some_inj.1 hopened
      have hcs := eq_of_scanToken_ellipsis hs htoken
      have hne : (splitGap cs).2 ≠ [] := by
        rw [hcs]
        exact List.cons_ne_nil _ _
      refine ⟨s.rest, ?_, isGap_splitGap hne, hts'⟩
      rw [← hcs, splitGap_append]

/-! ### Open brackets -/

theorem openBracketsAfter_mono {opened opened' : Nat} (h : opened ≤ opened') {t : Token}
    {after : Nat} (ht : openBracketsAfter opened' t = some after) :
    ∃ after' ≤ after, openBracketsAfter opened t = some after' := by
  unfold openBracketsAfter at ht ⊢
  split at ht
  · next hopening =>
      split at ht
      · cases ht
        exact ⟨opened + 1, by omega, by rw [if_pos hopening, if_pos (by omega)]⟩
      · cases ht
  · next hopening =>
      split at ht
      · next hclosing =>
          cases ht
          exact ⟨opened - 1, by omega, by rw [if_neg hopening, if_pos hclosing]⟩
      · next hclosing =>
          cases ht
          exact ⟨opened, h, by rw [if_neg hopening, if_neg hclosing]⟩

/-- A text can be cut where fewer brackets are open in front of it. -/
theorem tokens?_mono {opened opened' : Nat} (h : opened ≤ opened') {cs : List Char}
    {ts : List Token} (hts : (scanFrom opened' cs).tokens? = some ts) :
    (scanFrom opened cs).tokens? = some ts := by
  rw [tokens?_scanFrom] at hts ⊢
  cases hs : scanToken (splitGap cs).2 with
  | none =>
      rw [hs] at hts
      exact hts
  | some s =>
      rw [hs] at hts
      have hlt := length_rest_lt hs
      obtain ⟨after, hafter, hts⟩ := Option.bind_eq_some_iff.1 hts
      obtain ⟨ts, hrest, rfl⟩ := Option.map_eq_some_iff.1 hts
      obtain ⟨after', hle, hafter'⟩ := openBracketsAfter_mono h hafter
      dsimp only
      rw [hafter', Option.bind_some, tokens?_mono hle hrest, Option.map_some]
termination_by cs.length

end QueryWeave.GraphQL
