/-
**The grammar of documents.**

What is read from tokens can be told without the bounds that make the recursion end.  Four ways of
reading are enough for it: to take nothing, to get stuck, to read one thing after another, and to
let the next token decide.  Each part of a document is given by one equation.

Main definitions:

* `QueryWeave.GraphQL.Reader` — what is read from tokens, and the tokens left over;
* `QueryWeave.GraphQL.Reader.done`, `QueryWeave.GraphQL.Reader.stuck`,
  `QueryWeave.GraphQL.Reader.andThen`, `QueryWeave.GraphQL.Reader.byNext` — the ways of reading;
* `QueryWeave.GraphQL.Reader.value`, `QueryWeave.GraphQL.Reader.selection`,
  `QueryWeave.GraphQL.Reader.definition` and others — the parts of a document.

Main results:

* `QueryWeave.GraphQL.Reader.value_eq`, `QueryWeave.GraphQL.Reader.selection_eq`,
  `QueryWeave.GraphQL.Reader.definition_eq` and others — **the grammar**.
-/

import QueryWeave.GraphQL.Parser

set_option relaxedAutoImplicit false
set_option autoImplicit false

namespace QueryWeave.GraphQL

/-! ### Ways of reading -/

/-- What reading gives: a result with the tokens left over, or the tokens from the first one on that
does not fit. -/
abbrev Reader (α : Type) : Type := List Token → Except (List Token) (α × List Token)

namespace Reader

variable {α β : Type}

/-- Takes nothing. -/
def done (a : α) : Reader α :=
  fun ts => .ok (a, ts)

/-- Gets stuck. -/
def stuck : Reader α :=
  fun ts => .error ts

/-- Reads something, and behind it what depends on that. -/
def andThen (first : Reader α) (next : α → Reader β) : Reader β :=
  fun ts => (first ts).bind fun read => next read.1 read.2

/-- Reads on behind the next token as that token says, or in another way in front of it. -/
def byNext (behind? : Token → Option (Reader α)) (other : Reader α) : Reader α
  | [] => other []
  | t :: ts =>
      match behind? t with
      | some behind => behind ts
      | none => other (t :: ts)

/-- Reads on behind the token `t` if that is the next one. -/
def ifNext (t : Token) (behind other : Reader α) : Reader α :=
  byNext (fun t' => if t' = t then some behind else none) other

/-- Items up to a closing token, at least one; `more` reads those behind the first. -/
def oneOrMore (closing : Token) (item : Reader α) (more : Reader (List α)) : Reader (List α) :=
  item.andThen fun a => ifNext closing (done [a]) (more.andThen fun as => done (a :: as))

theorem byNext_cons (behind? : Token → Option (Reader α)) (other : Reader α) (t : Token)
    (ts : List Token) :
    byNext behind? other (t :: ts) =
      match behind? t with
      | some behind => behind ts
      | none => other (t :: ts) := rfl

theorem byNext_cons_of_some {behind? : Token → Option (Reader α)} {t : Token}
    {behind : Reader α} (h : behind? t = some behind) (other : Reader α) (ts : List Token) :
    byNext behind? other (t :: ts) = behind ts := by
  rw [byNext_cons, h]

/-- Where the next token says nothing, or there is none, reading goes on in the other way. -/
theorem byNext_of_none {behind? : Token → Option (Reader α)} {ts : List Token}
    (h : ∀ t, ts.head? = some t → behind? t = none) (other : Reader α) :
    byNext behind? other ts = other ts := by
  match ts with
  | [] => rfl
  | t :: ts => rw [byNext_cons, h t rfl]

@[simp] theorem ifNext_cons_self (t : Token) (behind other : Reader α) (ts : List Token) :
    ifNext t behind other (t :: ts) = behind ts := by
  simp [ifNext, byNext]

@[simp] theorem ifNext_cons_of_ne {t t' : Token} (h : t' ≠ t) (behind other : Reader α)
    (ts : List Token) : ifNext t behind other (t' :: ts) = other (t' :: ts) := by
  simp [ifNext, byNext, h]

theorem ifNext_of_ne_cons {t : Token} {ts : List Token} (h : ∀ rest, ts ≠ t :: rest)
    (behind other : Reader α) : ifNext t behind other ts = other ts := by
  match ts with
  | [] => rfl
  | t' :: ts => exact ifNext_cons_of_ne (fun ht => h ts (by rw [ht])) behind other ts

end Reader

namespace Parse

variable {α β : Type} {m n : Nat}

theorem outcome_relax_eq {p : Parse α m} {reader : Reader α} {ts : List Token}
    (hp : p.outcome = reader ts) {h : m ≤ n} : (p.relax h).outcome = reader ts := by
  rw [outcome_relax, hp]

theorem outcome_mapValue_eq {p : Parse α n} {reader : Reader α} {ts : List Token}
    (hp : p.outcome = reader ts) (f : α → β) :
    (p.mapValue f).outcome = reader.andThen (fun a => .done (f a)) ts := by
  rw [outcome_mapValue, hp]
  rfl

theorem outcome_andThen_eq {p : Parse α n} {reader : Reader α} {ts : List Token}
    {f : α → (rest : List Token) → rest.length < n → Parse β n} {next : α → Reader β}
    (hp : p.outcome = reader ts) (hf : ∀ a rest hrest, (f a rest hrest).outcome = next a rest) :
    (p.andThen f).outcome = reader.andThen next ts := by
  rw [Reader.andThen, ← hp]
  cases p with
  | error stuck => rfl
  | ok reading => exact hf reading.value reading.rest reading.length_rest_lt

/-- What is left over is within the bound. -/
theorem length_lt_of_outcome {p : Parse α n} {a : α} {rest : List Token}
    (h : p.outcome = .ok (a, rest)) : rest.length < n := by
  cases p with
  | error stuck => cases h
  | ok reading =>
      obtain ⟨-, rfl⟩ : reading.value = a ∧ reading.rest = rest := by simpa using h
      exact reading.length_rest_lt

end Parse

namespace Reader

/-! ### Names and values

Each part of a document has a reader, which is the parser for it without the bound, and an equation
for that reader. -/

def name : Reader String := fun ts => (parseName ts).outcome
def token (t : Token) : Reader Unit := fun ts => (parseToken t ts).outcome
def value (constant : Bool) : Reader Value := fun ts => (parseValue constant ts).outcome
def items (constant : Bool) : Reader (List Value) := fun ts => (parseItems constant ts).outcome
def fields (constant : Bool) (closing : Token) : Reader (List Argument) :=
  fun ts => (parseFields constant closing ts).outcome

theorem name_eq :
    name = byNext
      (fun
        | .name n => some (done n)
        | _ => none)
      stuck := by
  funext ts
  match ts with
  | [] => rfl
  | t :: _ => cases t <;> rfl

theorem token_eq (t : Token) : token t = ifNext t (done ()) stuck := by
  funext ts
  match ts with
  | [] => rfl
  | t' :: ts =>
      by_cases ht : t' = t
      · simp [token, parseToken, done, ht]
      · simp [token, parseToken, stuck, ht]

theorem value_eq (constant : Bool) :
    value constant = byNext
      (fun
        | .name n => some (done (.name n))
        | .int i => some (done (.int i))
        | .float x => some (done (.float x))
        | .string s => some (done (.string s))
        | .dollar => if constant then none else some (name.andThen fun n => done (.var n))
        | .openSquare => some ((items constant).andThen fun is => done (.list is))
        | .openBrace => some ((fields constant .closeBrace).andThen fun fs => done (.object fs))
        | _ => none)
      stuck := by
  funext ts
  rw [value, parseValue.eq_def]
  match ts with
  | [] => rfl
  | t :: ts =>
      cases t with
      | dollar =>
          cases constant with
          | true => rfl
          | false =>
              dsimp only
              rw [if_neg Bool.false_ne_true]
              exact Parse.outcome_relax_eq (Parse.outcome_mapValue_eq rfl _)
      | openSquare | openBrace =>
          exact Parse.outcome_relax_eq (Parse.outcome_mapValue_eq rfl _)
      | _ => rfl

theorem items_eq (constant : Bool) :
    items constant = ifNext .closeSquare (done [])
      ((value constant).andThen fun i => (items constant).andThen fun is => done (i :: is)) := by
  funext ts
  rw [items, parseItems.eq_def]
  split
  · rw [ifNext_cons_self]
    rfl
  · next hne =>
      rw [ifNext_of_ne_cons hne]
      exact Parse.outcome_andThen_eq rfl fun _ _ _ =>
        Parse.outcome_relax_eq (Parse.outcome_mapValue_eq rfl _)

theorem fields_eq (constant : Bool) (closing : Token) :
    fields constant closing = ifNext closing (done [])
      (name.andThen fun n => (token .colon).andThen fun _ => (value constant).andThen fun v =>
        (fields constant closing).andThen fun fs => done ((n, v) :: fs)) := by
  funext ts
  rw [fields, parseFields.eq_def]
  match ts with
  | [] => rfl
  | t :: ts =>
      by_cases ht : t = closing
      · rw [ht, ifNext_cons_self]
        dsimp only
        rw [if_pos rfl]
        rfl
      · rw [ifNext_cons_of_ne ht]
        dsimp only
        rw [if_neg ht]
        refine Parse.outcome_andThen_eq rfl fun n ts₁ _ => ?_
        refine Parse.outcome_andThen_eq (Parse.outcome_relax_eq rfl) fun _ ts₂ _ => ?_
        refine Parse.outcome_andThen_eq (Parse.outcome_relax_eq rfl) fun v ts₃ _ => ?_
        exact Parse.outcome_relax_eq (Parse.outcome_mapValue_eq rfl _)

/-! ### Arguments and directives -/

def arguments : Reader (List Argument) := fun ts => (parseArguments ts).outcome
def directives : Reader (List Directive) := fun ts => (parseDirectives ts).outcome

theorem arguments_eq :
    arguments = ifNext .openParen
      (ifNext .closeParen (fun ts => .error (.closeParen :: ts)) (fields false .closeParen))
      (done []) := by
  funext ts
  rw [arguments, parseArguments.eq_def]
  split
  · rw [ifNext_cons_self, ifNext_cons_self]
    rfl
  · next rest hne =>
      rw [ifNext_cons_self, ifNext_of_ne_cons fun rest' h => hne rest' (by rw [h])]
      exact Parse.outcome_relax_eq rfl
  · next hne =>
      rw [ifNext_of_ne_cons hne]
      rfl

theorem directives_eq :
    directives = ifNext .atSign
      (name.andThen fun n => arguments.andThen fun as => directives.andThen fun ds =>
        done (⟨n, as⟩ :: ds))
      (done []) := by
  funext ts
  rw [directives, parseDirectives.eq_def]
  split
  · rw [ifNext_cons_self]
    refine Parse.outcome_relax_eq (Parse.outcome_andThen_eq rfl fun n ts₁ _ => ?_)
    refine Parse.outcome_andThen_eq (Parse.outcome_relax_eq rfl) fun as ts₂ _ => ?_
    exact Parse.outcome_relax_eq (Parse.outcome_mapValue_eq rfl _)
  · next hne =>
      rw [ifNext_of_ne_cons hne]
      rfl

/-! ### Selections -/

def selection : Reader Selection := fun ts => (parseSelection ts).outcome
def fieldTail (alias? : Option String) (name : String) : Reader Selection :=
  fun ts => (parseFieldTail alias? name ts).outcome
def inlineTail (type? : Option String) : Reader Selection :=
  fun ts => (parseInlineTail type? ts).outcome
def selections : Reader (List Selection) := fun ts => (parseSelections ts).outcome
def selectionSet : Reader (List Selection) := fun ts => (parseSelectionSet ts).outcome

theorem selection_eq :
    selection = byNext
      (fun
        | .name first => some
            (ifNext .colon (name.andThen fun n => fieldTail (some first) n) (fieldTail none first))
        | .ellipsis => some
            (byNext
              (fun
                | .name first => some
                    (if first = "on" then name.andThen fun type => inlineTail (some type)
                    else directives.andThen fun ds => done (.spread first ds))
                | _ => none)
              (inlineTail none))
        | _ => none)
      stuck := by
  funext ts
  rw [selection, parseSelection.eq_def]
  match ts with
  | [] => rfl
  | t :: ts =>
      cases t with
      | name first =>
          rw [byNext_cons]
          dsimp only
          match ts with
          | [] => exact Parse.outcome_relax_eq rfl
          | t :: ts =>
              by_cases ht : t = .colon
              · subst ht
                rw [ifNext_cons_self]
                refine Parse.outcome_relax_eq (Parse.outcome_andThen_eq rfl fun n ts' _ => ?_)
                exact Parse.outcome_relax_eq rfl
              · rw [ifNext_cons_of_ne ht]
                cases t with
                | colon => exact (ht rfl).elim
                | _ => exact Parse.outcome_relax_eq rfl
      | ellipsis =>
          rw [byNext_cons]
          dsimp only
          match ts with
          | [] => exact Parse.outcome_relax_eq rfl
          | t :: ts =>
              cases t with
              | name first =>
                  rw [byNext_cons]
                  dsimp only
                  split
                  · refine Parse.outcome_relax_eq (Parse.outcome_andThen_eq rfl fun n ts' _ => ?_)
                    exact Parse.outcome_relax_eq rfl
                  · exact Parse.outcome_relax_eq (Parse.outcome_mapValue_eq rfl _)
              | _ => exact Parse.outcome_relax_eq rfl
      | _ => rfl

theorem fieldTail_eq (alias? : Option String) (n : String) :
    fieldTail alias? n = arguments.andThen fun as => directives.andThen fun ds =>
      ifNext .openBrace (selections.andThen fun ss => done (.field alias? n as ds ss))
        (done (.field alias? n as ds [])) := by
  funext ts
  rw [fieldTail, parseFieldTail]
  refine Parse.outcome_andThen_eq rfl fun as ts₁ _ => ?_
  refine Parse.outcome_andThen_eq (Parse.outcome_relax_eq rfl) fun ds ts₂ _ => ?_
  split
  · rw [ifNext_cons_self]
    exact Parse.outcome_relax_eq (Parse.outcome_mapValue_eq rfl _)
  · next hne =>
      rw [ifNext_of_ne_cons fun rest h => by subst h; exact hne _ _ rfl HEq.rfl]
      rfl

theorem inlineTail_eq (type? : Option String) :
    inlineTail type? = directives.andThen fun ds =>
      ifNext .openBrace (selections.andThen fun ss => done (.inline type? ds ss)) stuck := by
  funext ts
  rw [inlineTail, parseInlineTail]
  refine Parse.outcome_andThen_eq rfl fun ds ts₁ _ => ?_
  split
  · rw [ifNext_cons_self]
    exact Parse.outcome_relax_eq (Parse.outcome_mapValue_eq rfl _)
  · next hne =>
      rw [ifNext_of_ne_cons fun rest h => by subst h; exact hne _ _ rfl HEq.rfl]
      rfl

theorem selections_eq : selections = oneOrMore .closeBrace selection selections := by
  funext ts
  rw [selections, parseSelections]
  refine Parse.outcome_andThen_eq rfl fun s ts₁ _ => ?_
  split
  · rw [ifNext_cons_self]
    rfl
  · next hne =>
      rw [ifNext_of_ne_cons fun rest h => by subst h; exact hne _ _ rfl HEq.rfl]
      exact Parse.outcome_relax_eq (Parse.outcome_mapValue_eq rfl _)

theorem selectionSet_eq : selectionSet = ifNext .openBrace selections stuck := by
  funext ts
  rw [selectionSet, parseSelectionSet.eq_def]
  split
  · rw [ifNext_cons_self]
    exact Parse.outcome_relax_eq rfl
  · next hne =>
      rw [ifNext_of_ne_cons hne]
      rfl

/-! ### Definitions -/

def type : Reader TypeRef := fun ts => (parseType ts).outcome
def defaultValue : Reader (Option Value) := fun ts => (parseDefault ts).outcome
def variableDef : Reader VariableDefinition := fun ts => (parseVariable ts).outcome
def variableDefs : Reader (List VariableDefinition) := fun ts => (parseVariables ts).outcome
def variableDefinitions : Reader (List VariableDefinition) :=
  fun ts => (parseVariableDefinitions ts).outcome
def operationName : Reader (Option String) := fun ts => (parseOptionalName ts).outcome
def operationTail (kind : OperationKind) : Reader Definition :=
  fun ts => (parseOperationTail kind ts).outcome
def fragmentTail : Reader Definition := fun ts => (parseFragmentTail ts).outcome
def definition : Reader Definition := fun ts => (parseDefinition ts).outcome

theorem type_eq :
    type = byNext
      (fun
        | .name n => some (ifNext .bang (done (.named n true)) (done (.named n false)))
        | .openSquare => some (type.andThen fun item =>
            ifNext .closeSquare
              (ifNext .bang (done (.list item true)) (done (.list item false))) stuck)
        | _ => none)
      stuck := by
  funext ts
  rw [type, parseType.eq_def]
  match ts with
  | [] => rfl
  | t :: ts =>
      cases t with
      | name n =>
          rw [byNext_cons]
          dsimp only
          match ts with
          | [] => rfl
          | t :: ts => cases t <;> rfl
      | openSquare =>
          rw [byNext_cons]
          refine Parse.outcome_relax_eq (Parse.outcome_andThen_eq rfl fun item ts₁ _ => ?_)
          match ts₁ with
          | [] => rfl
          | t :: ts₁ =>
              by_cases ht : t = .closeSquare
              · subst ht
                rw [ifNext_cons_self]
                match ts₁ with
                | [] => rfl
                | t :: ts₁ => cases t <;> rfl
              · rw [ifNext_cons_of_ne ht]
                cases t with
                | closeSquare => exact (ht rfl).elim
                | _ => rfl
      | _ => rfl

theorem defaultValue_eq :
    defaultValue =
      ifNext .equals ((value true).andThen fun v => done (some v)) (done none) := by
  funext ts
  rw [defaultValue, parseDefault.eq_def]
  split
  · rw [ifNext_cons_self]
    exact Parse.outcome_relax_eq (Parse.outcome_mapValue_eq rfl _)
  · next hne =>
      rw [ifNext_of_ne_cons hne]
      rfl

theorem variableDef_eq :
    variableDef = ifNext .dollar
      (name.andThen fun n => (token .colon).andThen fun _ => type.andThen fun t =>
        defaultValue.andThen fun d => done ⟨n, t, d⟩)
      stuck := by
  funext ts
  rw [variableDef, parseVariable.eq_def]
  split
  · rw [ifNext_cons_self]
    refine Parse.outcome_relax_eq (Parse.outcome_andThen_eq rfl fun n ts₁ _ => ?_)
    refine Parse.outcome_andThen_eq (Parse.outcome_relax_eq rfl) fun _ ts₂ _ => ?_
    refine Parse.outcome_andThen_eq (Parse.outcome_relax_eq rfl) fun t ts₃ _ => ?_
    exact Parse.outcome_relax_eq (Parse.outcome_mapValue_eq rfl _)
  · next hne =>
      rw [ifNext_of_ne_cons hne]
      rfl

theorem variableDefs_eq : variableDefs = oneOrMore .closeParen variableDef variableDefs := by
  funext ts
  rw [variableDefs, parseVariables]
  refine Parse.outcome_andThen_eq rfl fun v ts₁ _ => ?_
  split
  · rw [ifNext_cons_self]
    rfl
  · next hne =>
      rw [ifNext_of_ne_cons fun rest h => by subst h; exact hne _ _ rfl HEq.rfl]
      exact Parse.outcome_relax_eq (Parse.outcome_mapValue_eq rfl _)

theorem variableDefinitions_eq :
    variableDefinitions = ifNext .openParen variableDefs (done []) := by
  funext ts
  rw [variableDefinitions, parseVariableDefinitions.eq_def]
  split
  · rw [ifNext_cons_self]
    exact Parse.outcome_relax_eq rfl
  · next hne =>
      rw [ifNext_of_ne_cons hne]
      rfl

theorem operationName_eq :
    operationName = byNext
      (fun
        | .name n => some (done (some n))
        | _ => none)
      (done none) := by
  funext ts
  match ts with
  | [] => rfl
  | t :: _ => cases t <;> rfl

theorem operationTail_eq (kind : OperationKind) :
    operationTail kind = operationName.andThen fun n => variableDefinitions.andThen fun vs =>
      directives.andThen fun ds => selectionSet.andThen fun ss =>
        done (.operation kind n vs ds ss) := by
  funext ts
  refine Parse.outcome_andThen_eq rfl fun n ts₁ _ => ?_
  refine Parse.outcome_andThen_eq (Parse.outcome_relax_eq rfl) fun vs ts₂ _ => ?_
  refine Parse.outcome_andThen_eq (Parse.outcome_relax_eq rfl) fun ds ts₃ _ => ?_
  exact Parse.outcome_relax_eq (Parse.outcome_mapValue_eq rfl _)

theorem fragmentTail_eq :
    fragmentTail = name.andThen fun n => (token (.name "on")).andThen fun _ =>
      name.andThen fun t => directives.andThen fun ds => selectionSet.andThen fun ss =>
        done (.fragment n t ds ss) := by
  funext ts
  refine Parse.outcome_andThen_eq (Parse.outcome_relax_eq rfl) fun n ts₁ _ => ?_
  refine Parse.outcome_andThen_eq (Parse.outcome_relax_eq rfl) fun _ ts₂ _ => ?_
  refine Parse.outcome_andThen_eq (Parse.outcome_relax_eq rfl) fun t ts₃ _ => ?_
  refine Parse.outcome_andThen_eq (Parse.outcome_relax_eq rfl) fun ds ts₄ _ => ?_
  exact Parse.outcome_relax_eq (Parse.outcome_mapValue_eq rfl _)

theorem definition_eq :
    definition = byNext
      (fun
        | .openBrace => some (selections.andThen fun ss => done (.selectionSet ss))
        | .name word =>
            match OperationKind.ofKeyword? word with
            | some kind => some (operationTail kind)
            | none => if word = "fragment" then some fragmentTail else none
        | _ => none)
      stuck := by
  funext ts
  rw [definition, parseDefinition.eq_def]
  match ts with
  | [] => rfl
  | t :: ts =>
      cases t with
      | openBrace => exact Parse.outcome_relax_eq (Parse.outcome_mapValue_eq rfl _)
      | name word =>
          rw [byNext_cons]
          dsimp only
          cases OperationKind.ofKeyword? word with
          | some kind =>
              dsimp only
              exact Parse.outcome_relax_eq rfl
          | none =>
              dsimp only
              by_cases hword : word = "fragment"
              · rw [if_pos hword, if_pos hword]
                dsimp only
                exact Parse.outcome_relax_eq rfl
              · rw [if_neg hword, if_neg hword]
                rfl
      | _ => rfl

end Reader

end QueryWeave.GraphQL
