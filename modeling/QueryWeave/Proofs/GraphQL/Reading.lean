/-
**What is read from tokens.**

Whatever is read from the front of a list of tokens is written there: the tokens that were taken
are the written form of the result.  Reading looks at one token behind what it takes, and at no
other, so it takes the same in front of any tokens that begin with the same one.  Behind a closing
bracket it does not look at all; a definition, which ends with one, is read in the same way whatever
follows it.

Main definitions:

* `QueryWeave.GraphQL.Reader.Reads` — reading that takes what is written, with and without a look at
  the token behind it;
* `QueryWeave.GraphQL.Definition.Readable` — the written form of a definition is read as such.

Main results:

* `QueryWeave.GraphQL.Reader.value_reads`, `QueryWeave.GraphQL.Reader.selection_reads`,
  `QueryWeave.GraphQL.Reader.definition_reads` — the parts of a document;
* `QueryWeave.GraphQL.parseDefinitions_eq_ok_iff` — **the definitions that are read are those that
  are written, one behind the other**.
-/

import Mathlib.Data.List.Basic
import QueryWeave.Proofs.GraphQL.Grammar
import QueryWeave.Proofs.GraphQL.Written
import QueryWeave.Proofs.Result

set_option relaxedAutoImplicit false
set_option autoImplicit false

namespace QueryWeave.GraphQL

namespace Reader

variable {α β : Type}

/-! ### Reading what is written -/

/-- Behind tokens `taken` before, what is read from `ts` is written as these and the tokens that
are taken now, and the same is read in front of other tokens.  These must begin with the same one
if reading looks `ahead`; if it does not, it takes at least one token. -/
def Reads (ahead : Bool) (reader : Reader α) (write : α → List Token) (taken ts : List Token) :
    Prop :=
  ∀ a rest, reader ts = .ok (a, rest) → ∃ own, ts = own ++ rest ∧ write a = taken ++ own ∧
    (ahead = false → own ≠ []) ∧
    ∀ rest' : List Token, (ahead = true → rest'.head? = rest.head?) →
      reader (own ++ rest') = .ok (a, rest')

/-- In either way reading sees the same next token again. -/
theorem head?_append_eq {ahead : Bool} {own rest rest' : List Token}
    (hne : ahead = false → own ≠ []) (h : ahead = true → rest'.head? = rest.head?) :
    (own ++ rest').head? = (own ++ rest).head? := by
  cases ahead with
  | false =>
      rw [List.head?_append_of_ne_nil _ (hne rfl), List.head?_append_of_ne_nil _ (hne rfl)]
  | true => rw [List.head?_append, List.head?_append, h rfl]

variable {ahead : Bool}

/-- To look ahead does no harm. -/
theorem Reads.looking {reader : Reader α} {write : α → List Token} {taken ts : List Token}
    (h : Reads ahead reader write taken ts) : Reads true reader write taken ts := by
  intro a rest hread
  obtain ⟨own, hts, hwrite, -, hagain⟩ := h a rest hread
  exact ⟨own, hts, hwrite, nofun, fun rest' hrest' => hagain rest' fun _ => hrest' rfl⟩

/-- Tokens `taken` before may be written in front. -/
theorem Reads.behind {reader : Reader α} {write₁ write : α → List Token} {taken ts : List Token}
    (h : Reads ahead reader write₁ [] ts)
    (hwrite : ∀ a rest, reader ts = .ok (a, rest) → write a = taken ++ write₁ a) :
    Reads ahead reader write taken ts := by
  intro a rest hread
  obtain ⟨own, hts, hown, hne, hagain⟩ := h a rest hread
  exact ⟨own, hts, by rw [hwrite a rest hread, hown, List.nil_append], hne, hagain⟩

theorem reads_done {write : α → List Token} {taken : List Token} (ts : List Token) {a : α}
    (h : write a = taken) : Reads true (done a) write taken ts := by
  intro a' rest hread
  cases hread
  exact ⟨[], rfl, by rw [h, List.append_nil], nofun, fun _ _ => rfl⟩

theorem reads_stuck (write : α → List Token) (taken ts : List Token) :
    Reads ahead stuck write taken ts := nofun

section AndThen

variable {first : Reader α} {next : α → Reader β} {write₁ : α → List Token}
  {write : β → List Token} {taken ts : List Token}

/-- What looks ahead behind the first thing looks at the second. -/
theorem Reads.andThen (hfirst : Reads true first write₁ [] ts)
    (hnext : ∀ a rest, first ts = .ok (a, rest) →
      Reads ahead (next a) write (taken ++ write₁ a) rest) :
    Reads ahead (first.andThen next) write taken ts := by
  intro b rest hread
  obtain ⟨⟨a, ts'⟩, ha, hb⟩ := Result.bind_eq_ok_iff.1 hread
  obtain ⟨own, hts, hown, -, hagain⟩ := hfirst a ts' ha
  obtain ⟨own', hts', hown', hne, hagain'⟩ := hnext a ts' ha b rest hb
  refine ⟨own ++ own', ?_, ?_, fun h => List.append_ne_nil_of_right_ne_nil _ (hne h),
    fun rest' hrest' => ?_⟩
  · rw [hts, hts', List.append_assoc]
  · rw [hown', hown, List.nil_append, List.append_assoc]
  · have hhead : (own' ++ rest').head? = ts'.head? := by
      rw [hts']
      exact head?_append_eq hne hrest'
    rw [List.append_assoc, Reader.andThen, hagain _ fun _ => hhead]
    exact hagain' rest' hrest'

theorem Reads.andThen_done {f : α → β} (hfirst : Reads ahead first write₁ [] ts)
    (hwrite : ∀ a rest, first ts = .ok (a, rest) → write (f a) = taken ++ write₁ a) :
    Reads ahead (first.andThen fun a => done (f a)) write taken ts := by
  intro b rest hread
  obtain ⟨⟨a, ts'⟩, ha, hb⟩ := Result.bind_eq_ok_iff.1 hread
  obtain ⟨rfl, rfl⟩ : f a = b ∧ ts' = rest := by simpa [done] using hb
  obtain ⟨own, hts, hown, hne, hagain⟩ := hfirst a ts' ha
  refine ⟨own, hts, by rw [hwrite a ts' ha, hown, List.nil_append], hne, fun rest' hrest' => ?_⟩
  rw [Reader.andThen, hagain rest' hrest']
  rfl

end AndThen

section ByNext

variable {behind? : Token → Option (Reader α)} {behind other : Reader α}
  {write : α → List Token} {t : Token} {taken ts : List Token}

theorem byNext_reads
    (hbehind : ∀ t rest behind, ts = t :: rest → behind? t = some behind →
      Reads ahead behind write (taken ++ [t]) rest)
    (hother : Reads ahead other write taken ts) :
    Reads ahead (byNext behind? other) write taken ts := by
  intro a rest hread
  by_cases hnone : ∀ t, ts.head? = some t → behind? t = none
  · rw [byNext_of_none hnone] at hread
    obtain ⟨own, hts, hown, hne, hagain⟩ := hother a rest hread
    refine ⟨own, hts, hown, hne, fun rest' hrest' => ?_⟩
    have hhead : (own ++ rest').head? = ts.head? := by
      rw [hts]
      exact head?_append_eq hne hrest'
    rw [byNext_of_none (by rwa [hhead])]
    exact hagain rest' hrest'
  · simp only [not_forall] at hnone
    obtain ⟨t, ht, hsome⟩ := hnone
    obtain ⟨behind, hb⟩ := Option.ne_none_iff_exists'.1 hsome
    obtain ⟨ts', rfl⟩ := List.head?_eq_some_iff.1 ht
    rw [byNext_cons_of_some hb] at hread
    obtain ⟨own, hts', hown, -, hagain⟩ := hbehind t ts' behind rfl hb a rest hread
    refine ⟨t :: own, by rw [hts']; rfl, by rw [hown, List.append_assoc]; rfl,
      fun _ => List.cons_ne_nil _ _, fun rest' hrest' => ?_⟩
    rw [List.cons_append, byNext_cons_of_some hb]
    exact hagain rest' hrest'

theorem ifNext_reads
    (hbehind : ∀ rest, ts = t :: rest → Reads ahead behind write (taken ++ [t]) rest)
    (hother : Reads ahead other write taken ts) :
    Reads ahead (ifNext t behind other) write taken ts := by
  refine byNext_reads (fun t' rest behind' hts hb => ?_) hother
  obtain ⟨rfl, rfl⟩ : t' = t ∧ behind = behind' := by simpa using hb
  exact hbehind rest hts

/-- The token `t` closes what was taken before. -/
theorem ifNext_done_reads {a : α} (hwrite : write a = taken ++ [t])
    (hother : Reads ahead other write taken ts) :
    Reads ahead (ifNext t (done a) other) write taken ts := by
  by_cases hnext : ∃ rest, ts = t :: rest
  · obtain ⟨ts', rfl⟩ := hnext
    intro a' rest hread
    rw [ifNext_cons_self] at hread
    cases hread
    exact ⟨[t], rfl, hwrite, fun _ => List.cons_ne_nil _ _, fun rest' _ => ifNext_cons_self ..⟩
  · exact ifNext_reads (fun rest hts => absurd ⟨rest, hts⟩ hnext) hother

end ByNext

section OneOrMore

variable {closing : Token} {item : Reader α} {more : Reader (List α)} {write : α → List Token}
  {ts : List Token}

/-- What is read up to a closing token is written as the items, one behind the other, and that
token. -/
theorem oneOrMore_reads (hitem : Reads true item write [] ts)
    (hmore : ∀ a rest, item ts = .ok (a, rest) →
      Reads false more (fun as => as.flatMap write ++ [closing]) [] rest) :
    Reads false (oneOrMore closing item more) (fun as => as.flatMap write ++ [closing]) [] ts := by
  refine hitem.andThen fun a rest ha => ifNext_done_reads (by simp) ?_
  exact (hmore a rest ha).andThen_done fun as _ _ => by simp

theorem oneOrMore_ne_nil {as : List α} {rest : List Token}
    (h : oneOrMore closing item more ts = .ok (as, rest)) : as ≠ [] := by
  rintro rfl
  obtain ⟨⟨a, ts'⟩, -, h⟩ := Result.bind_eq_ok_iff.1 h
  dsimp only at h
  rcases ts' with - | ⟨t, ts'⟩
  · obtain ⟨_, -, h⟩ := Result.bind_eq_ok_iff.1 h
    cases h
  · by_cases ht : t = closing
    · rw [ht, ifNext_cons_self] at h
      cases h
    · rw [ifNext_cons_of_ne ht] at h
      obtain ⟨_, -, h⟩ := Result.bind_eq_ok_iff.1 h
      cases h

end OneOrMore

/-! ### Names and values -/

theorem name_reads (ts : List Token) : Reads true name (fun n => [.name n]) [] ts := by
  rw [name_eq]
  refine byNext_reads (fun t rest behind _ hb => ?_) (reads_stuck _ _ _)
  cases t with
  | name n =>
      cases hb
      exact reads_done rest rfl
  | _ => cases hb

theorem token_reads (t : Token) (ts : List Token) :
    Reads true (token t) (fun _ => [t]) [] ts := by
  rw [token_eq]
  exact ifNext_reads (fun rest _ => reads_done rest rfl) (reads_stuck _ _ _)

mutual
/-- Values are read as they are written. -/
theorem value_reads (constant : Bool) (ts : List Token) :
    Reads true (value constant) Value.tokens [] ts := by
  rw [value_eq]
  refine byNext_reads (fun t rest behind hts hb => ?_) (reads_stuck _ _ _)
  have hlt : rest.length < ts.length := by simp [hts]
  cases t with
  | name _ | int _ | float _ | string _ =>
      cases hb
      exact reads_done rest rfl
  | dollar =>
      obtain ⟨-, hb⟩ := by simpa using hb
      cases hb
      exact (name_reads rest).andThen_done fun n _ _ => rfl
  | openSquare =>
      cases hb
      exact (items_reads constant rest).andThen_done fun is _ _ => rfl
  | openBrace =>
      cases hb
      exact (fields_reads constant .closeBrace rest).andThen_done fun fs _ _ => rfl
  | _ => cases hb
termination_by (ts.length, 0)
/-- Items are read as they are written, with the bracket that closes them. -/
theorem items_reads (constant : Bool) (ts : List Token) :
    Reads true (items constant) (fun is => itemTokens is ++ [.closeSquare]) [] ts := by
  rw [items_eq]
  refine ifNext_reads (fun rest _ => reads_done rest rfl) ?_
  refine (value_reads constant ts).andThen fun i rest hi => ?_
  have hlt : rest.length < ts.length := Parse.length_lt_of_outcome hi
  exact (items_reads constant rest).andThen_done fun is _ _ => by simp [itemTokens]
termination_by (ts.length, 1)
/-- Names with values are read as they are written, with the token that closes them. -/
theorem fields_reads (constant : Bool) (closing : Token) (ts : List Token) :
    Reads true (fields constant closing) (fun fs => fieldTokens fs ++ [closing]) [] ts := by
  rw [fields_eq]
  refine ifNext_reads (fun rest _ => reads_done rest rfl) ?_
  refine (name_reads ts).andThen fun n ts₁ hn => ?_
  refine (token_reads .colon ts₁).andThen fun _ ts₂ hcolon => ?_
  have h₁ : ts₁.length < ts.length := Parse.length_lt_of_outcome hn
  have h₂ : ts₂.length < ts₁.length := Parse.length_lt_of_outcome hcolon
  refine (value_reads constant ts₂).andThen fun v ts₃ hv => ?_
  have h₃ : ts₃.length < ts₂.length := Parse.length_lt_of_outcome hv
  exact (fields_reads constant closing ts₃).andThen_done fun fs _ _ => by simp [fieldTokens]
termination_by (ts.length, 1)
end

/-! ### Arguments and directives -/

theorem fields_ne_nil {constant : Bool} {closing : Token} {ts rest : List Token}
    {fs : List Argument} (hts : ∀ rest, ts ≠ closing :: rest)
    (h : fields constant closing ts = .ok (fs, rest)) : fs ≠ [] := by
  rintro rfl
  obtain ⟨own, hown, hwrite, -⟩ := fields_reads constant closing ts [] rest h
  refine hts rest ?_
  rw [hown, ← List.nil_append own, ← hwrite]
  rfl

theorem arguments_reads (ts : List Token) : Reads true arguments argumentTokens [] ts := by
  rw [arguments_eq]
  refine ifNext_reads (fun rest _ => ?_) (reads_done ts rfl)
  by_cases hclose : ∃ rest', rest = .closeParen :: rest'
  · obtain ⟨rest', rfl⟩ := hclose
    intro as rest h
    rw [ifNext_cons_self] at h
    cases h
  · have hne : ∀ rest', rest ≠ .closeParen :: rest' := fun rest' h => hclose ⟨rest', h⟩
    refine ifNext_reads (fun rest' h => absurd h (hne rest')) ?_
    refine (fields_reads false .closeParen rest).behind fun as _ has => ?_
    simp [argumentTokens, fields_ne_nil hne has]

theorem directives_reads (ts : List Token) : Reads true directives directiveTokens [] ts := by
  rw [directives_eq]
  refine ifNext_reads (fun rest hts => ?_) (reads_done ts rfl)
  refine (name_reads rest).andThen fun n ts₁ hn => ?_
  refine (arguments_reads ts₁).andThen fun as ts₂ has => ?_
  have h₀ : rest.length < ts.length := by simp [hts]
  have h₁ : ts₁.length < rest.length := Parse.length_lt_of_outcome hn
  have h₂ : ts₂.length < ts₁.length + 1 := Parse.length_lt_of_outcome has
  exact (directives_reads ts₂).andThen_done fun ds _ _ => by simp [directiveTokens]
termination_by ts.length

/-! ### Selections -/

theorem selectionTokens_eq_flatMap (ss : List Selection) :
    selectionTokens ss = ss.flatMap Selection.tokens := by
  induction ss with
  | nil => rfl
  | cons s ss ih => rw [selectionTokens, ih, List.flatMap_cons]

/-- Selections in braces are not none. -/
theorem selections_ne_nil {ts rest : List Token} {ss : List Selection}
    (h : selections ts = .ok (ss, rest)) : ss ≠ [] := by
  rw [selections_eq] at h
  exact oneOrMore_ne_nil h

mutual
/-- Selections are read as they are written. -/
theorem selection_reads (ts : List Token) : Reads true selection Selection.tokens [] ts := by
  rw [selection_eq]
  refine byNext_reads (fun t rest behind hts hb => ?_) (reads_stuck _ _ _)
  have hlt : rest.length < ts.length := by simp [hts]
  cases t with
  | name first =>
      cases hb
      refine ifNext_reads (fun rest' hrest => ?_) (fieldTail_reads none first rest)
      refine (name_reads rest').andThen fun n ts₁ hn => ?_
      have h₀ : rest'.length < rest.length := by simp [hrest]
      have h₁ : ts₁.length < rest'.length := Parse.length_lt_of_outcome hn
      exact fieldTail_reads (some first) n ts₁
  | ellipsis =>
      cases hb
      refine byNext_reads (fun t' rest' behind' hrest hb' => ?_) (inlineTail_reads none rest)
      have h₀ : rest'.length < rest.length := by simp [hrest]
      cases t' with
      | name first =>
          cases hb'
          split
          · next hon =>
              refine (name_reads rest').andThen fun type ts₁ hn => ?_
              have h₁ : ts₁.length < rest'.length := Parse.length_lt_of_outcome hn
              rw [hon]
              exact inlineTail_reads (some type) ts₁
          · exact (directives_reads rest').andThen_done fun ds _ _ => rfl
      | _ => cases hb'
  | _ => cases hb
termination_by (ts.length, 0)
theorem fieldTail_reads (alias? : Option String) (n : String) (ts : List Token) :
    Reads true (fieldTail alias? n) Selection.tokens (aliasTokens alias? ++ [.name n]) ts := by
  rw [fieldTail_eq]
  refine (arguments_reads ts).andThen fun as ts₁ has => ?_
  refine (directives_reads ts₁).andThen fun ds ts₂ hds => ?_
  have h₁ : ts₁.length < ts.length + 1 := Parse.length_lt_of_outcome has
  have h₂ : ts₂.length < ts₁.length + 1 := Parse.length_lt_of_outcome hds
  refine ifNext_reads (fun rest hts => ?_) (reads_done ts₂ (by simp [Selection.tokens]))
  have h₃ : rest.length < ts₂.length := by simp [hts]
  refine (selections_reads rest).looking.andThen_done fun ss _ hss => ?_
  -- a field without selections is written without braces
  have hne : ss ≠ [] := selections_ne_nil hss
  simp [Selection.tokens, hne]
termination_by (ts.length, 2)
theorem inlineTail_reads (type? : Option String) (ts : List Token) :
    Reads true (inlineTail type?) Selection.tokens (.ellipsis :: typeConditionTokens type?) ts := by
  rw [inlineTail_eq]
  refine (directives_reads ts).andThen fun ds ts₁ hds => ?_
  have h₁ : ts₁.length < ts.length + 1 := Parse.length_lt_of_outcome hds
  refine ifNext_reads (fun rest hts => ?_) (reads_stuck _ _ _)
  have h₂ : rest.length < ts₁.length := by simp [hts]
  refine (selections_reads rest).looking.andThen_done fun ss _ _ => ?_
  simp [Selection.tokens]
termination_by (ts.length, 2)
theorem selections_reads (ts : List Token) :
    Reads false selections (fun ss => selectionTokens ss ++ [.closeBrace]) [] ts := by
  simp only [selectionTokens_eq_flatMap]
  rw [selections_eq]
  refine oneOrMore_reads (selection_reads ts) fun s rest hs => ?_
  have hlt : rest.length < ts.length := Parse.length_lt_of_outcome hs
  simpa only [selectionTokens_eq_flatMap] using selections_reads rest
termination_by (ts.length, 1)
end

theorem selectionSet_reads (ts : List Token) : Reads false selectionSet bracedTokens [] ts := by
  rw [selectionSet_eq]
  exact ifNext_reads (fun rest _ => (selections_reads rest).behind fun _ _ _ => rfl)
    (reads_stuck _ _ _)

/-! ### Definitions -/

theorem type_reads (ts : List Token) : Reads true type TypeRef.tokens [] ts := by
  rw [type_eq]
  refine byNext_reads (fun t rest behind hts hb => ?_) (reads_stuck _ _ _)
  have hlt : rest.length < ts.length := by simp [hts]
  cases t with
  | name n =>
      cases hb
      exact ifNext_reads (fun rest' _ => reads_done rest' rfl) (reads_done rest rfl)
  | openSquare =>
      cases hb
      refine (type_reads rest).andThen fun item ts₁ _ => ?_
      refine ifNext_reads (fun ts₂ _ => ?_) (reads_stuck _ _ _)
      refine ifNext_reads (fun ts₃ _ => reads_done ts₃ ?_) (reads_done ts₂ ?_)
      · simp [TypeRef.tokens, requiredTokens]
      · simp [TypeRef.tokens, requiredTokens]
  | _ => cases hb
termination_by ts.length

theorem defaultValue_reads (ts : List Token) : Reads true defaultValue defaultTokens [] ts := by
  rw [defaultValue_eq]
  refine ifNext_reads (fun rest _ => ?_) (reads_done ts rfl)
  exact (value_reads true rest).andThen_done fun v _ _ => rfl

theorem variableDef_reads (ts : List Token) :
    Reads true variableDef VariableDefinition.tokens [] ts := by
  rw [variableDef_eq]
  refine ifNext_reads (fun rest _ => ?_) (reads_stuck _ _ _)
  refine (name_reads rest).andThen fun n ts₁ _ => ?_
  refine (token_reads .colon ts₁).andThen fun _ ts₂ _ => ?_
  refine (type_reads ts₂).andThen fun t ts₃ _ => ?_
  exact (defaultValue_reads ts₃).andThen_done fun d _ _ => by simp [VariableDefinition.tokens]

theorem variableDefs_reads (ts : List Token) :
    Reads false variableDefs
      (fun vs => vs.flatMap VariableDefinition.tokens ++ [.closeParen]) [] ts := by
  rw [variableDefs_eq]
  refine oneOrMore_reads (variableDef_reads ts) fun v rest hv => ?_
  have hlt : rest.length < ts.length := Parse.length_lt_of_outcome hv
  exact variableDefs_reads rest
termination_by ts.length

theorem variableDefinitions_reads (ts : List Token) :
    Reads true variableDefinitions variableTokens [] ts := by
  rw [variableDefinitions_eq]
  refine ifNext_reads (fun rest _ => ?_) (reads_done ts rfl)
  refine (variableDefs_reads rest).looking.behind fun vs _ hvs => ?_
  rw [variableDefs_eq] at hvs
  simp [variableTokens, oneOrMore_ne_nil hvs]

theorem operationName_reads (ts : List Token) : Reads true operationName nameTokens [] ts := by
  rw [operationName_eq]
  refine byNext_reads (fun t rest behind _ hb => ?_) (reads_done ts rfl)
  cases t with
  | name n =>
      cases hb
      exact reads_done rest rfl
  | _ => cases hb

theorem operationTail_reads (kind : OperationKind) (ts : List Token) :
    Reads false (operationTail kind) Definition.tokens [.name kind.keyword] ts := by
  rw [operationTail_eq]
  refine (operationName_reads ts).andThen fun n ts₁ _ => ?_
  refine (variableDefinitions_reads ts₁).andThen fun vs ts₂ _ => ?_
  refine (directives_reads ts₂).andThen fun ds ts₃ _ => ?_
  exact (selectionSet_reads ts₃).andThen_done fun ss _ _ => by simp [Definition.tokens]

theorem fragmentTail_reads (ts : List Token) :
    Reads false fragmentTail Definition.tokens [.name "fragment"] ts := by
  rw [fragmentTail_eq]
  refine (name_reads ts).andThen fun n ts₁ _ => ?_
  refine (token_reads (.name "on") ts₁).andThen fun _ ts₂ _ => ?_
  refine (name_reads ts₂).andThen fun t ts₃ _ => ?_
  refine (directives_reads ts₃).andThen fun ds ts₄ _ => ?_
  exact (selectionSet_reads ts₄).andThen_done fun ss _ _ => by simp [Definition.tokens]

/-- **Definitions are read as they are written**, whatever comes behind them. -/
theorem definition_reads (ts : List Token) : Reads false definition Definition.tokens [] ts := by
  rw [definition_eq]
  refine byNext_reads (fun t rest behind _ hb => ?_) (reads_stuck _ _ _)
  cases t with
  | openBrace =>
      cases hb
      exact (selections_reads rest).andThen_done fun ss _ _ => rfl
  | name word =>
      dsimp only at hb
      split at hb
      · next kind hkind =>
          cases hb
          rw [← OperationKind.ofKeyword?_eq_some_iff.1 hkind]
          exact operationTail_reads kind rest
      · split at hb
        · next hword =>
            cases hb
            rw [hword]
            exact fragmentTail_reads rest
        · cases hb
  | _ => cases hb

end Reader

/-! ### Whole documents -/

/-- The definition is read from the tokens it is written in, whatever comes behind them. -/
def Definition.Readable (definition : Definition) : Prop :=
  ∀ rest, Reader.definition (definition.tokens ++ rest) = .ok (definition, rest)

theorem definition_eq_ok_iff {ts rest : List Token} {definition : Definition} :
    Reader.definition ts = .ok (definition, rest) ↔
      ts = definition.tokens ++ rest ∧ definition.Readable := by
  constructor
  · intro h
    obtain ⟨own, hts, hown, -, hagain⟩ := Reader.definition_reads ts definition rest h
    obtain rfl : definition.tokens = own := hown
    exact ⟨hts, fun rest' => hagain rest' nofun⟩
  · rintro ⟨rfl, hread⟩
    exact hread rest

/-- A definition is written in at least one token. -/
theorem Definition.tokens_ne_nil (definition : Definition) : definition.tokens ≠ [] := by
  cases definition <;> simp [Definition.tokens, bracedTokens]

theorem parseDefinitions_eq (ts : List Token) :
    parseDefinitions ts = (Reader.definition ts).bind fun read =>
      if read.2 = [] then .ok [read.1]
      else (parseDefinitions read.2).map fun definitions => read.1 :: definitions := by
  rw [parseDefinitions, Reader.definition]
  cases parseDefinition ts with
  | error stuck => rfl
  | ok reading =>
      dsimp only [Parse.outcome, Except.map, Except.bind]
      split
      · rfl
      · cases parseDefinitions reading.rest <;> rfl

/-- **The definitions that are read are those that are written**, one behind the other. -/
theorem parseDefinitions_eq_ok_iff {ts : List Token} {definitions : List Definition} :
    parseDefinitions ts = .ok definitions ↔
      definitions ≠ [] ∧ ts = definitions.flatMap Definition.tokens ∧
        ∀ definition ∈ definitions, definition.Readable := by
  induction definitions generalizing ts with
  | nil =>
      rw [parseDefinitions_eq, Result.bind_eq_ok_iff]
      refine ⟨?_, fun h => absurd rfl h.1⟩
      rintro ⟨⟨d, rest⟩, -, h⟩
      split at h
      · cases h
      · obtain ⟨ds, -, h⟩ := Result.map_eq_ok_iff.1 h
        cases h
  | cons d ds ih =>
      rw [parseDefinitions_eq, Result.bind_eq_ok_iff]
      constructor
      · rintro ⟨⟨d', rest⟩, hd, h⟩
        obtain ⟨rfl, hread⟩ := definition_eq_ok_iff.1 hd
        refine ⟨List.cons_ne_nil _ _, ?_⟩
        dsimp only at h
        split at h
        · next hrest =>
            cases h
            simp [hrest, hread]
        · obtain ⟨ds', hds, heq⟩ := Result.map_eq_ok_iff.1 h
          cases heq
          obtain ⟨-, rfl, hreads⟩ := ih.1 hds
          exact ⟨rfl, List.forall_mem_cons.2 ⟨hread, hreads⟩⟩
      · rintro ⟨-, rfl, hreads⟩
        obtain ⟨hread, hreads⟩ := List.forall_mem_cons.1 hreads
        refine ⟨(d, ds.flatMap Definition.tokens), hread _, ?_⟩
        dsimp only
        cases ds with
        | nil => rfl
        | cons d' ds =>
            have hrest : (d' :: ds).flatMap Definition.tokens ≠ [] := by
              simp [d'.tokens_ne_nil]
            rw [if_neg hrest, ih.2 ⟨List.cons_ne_nil _ _, rfl, hreads⟩]
            rfl

end QueryWeave.GraphQL
