/-
**Reading documents.**

A document is read from its tokens by recursive descent with one token of lookahead.  Each function
reads from the front of a list of tokens and either gives a result with the tokens left over, or
fails with the tokens from the first one on that does not fit.  A result is bounded: fewer tokens
are left than the given number, which is what makes the recursion end.

Main definitions:

* `QueryWeave.GraphQL.Reading`, `QueryWeave.GraphQL.Parse` — results of reading;
* `QueryWeave.GraphQL.parseValue`, `QueryWeave.GraphQL.parseSelectionSet`,
  `QueryWeave.GraphQL.parseDefinition` — the parts of a document;
* `QueryWeave.GraphQL.parseDefinitions` — all definitions of a document;
* `QueryWeave.GraphQL.Document.parse` — reading a text.
-/

import QueryWeave.GraphQL.Document
import QueryWeave.GraphQL.Lexer

set_option relaxedAutoImplicit false
set_option autoImplicit false

namespace QueryWeave.GraphQL

/-! ### Results of reading -/

/-- Something that was read, and the tokens left over, which are fewer than `bound`. -/
structure Reading (α : Type) (bound : Nat) where
  value : α
  rest : List Token
  length_rest_lt : rest.length < bound

/-- The outcome of reading: a result, or the tokens from the first one on that does not fit. -/
abbrev Parse (α : Type) (bound : Nat) : Type := Except (List Token) (Reading α bound)

namespace Parse

variable {α β : Type} {m n : Nat}

/-- The outcome without the bound. -/
def outcome (p : Parse α n) : Except (List Token) (α × List Token) :=
  p.map fun reading => (reading.value, reading.rest)

/-- Applies `f` to the value that was read. -/
def mapValue (f : α → β) (p : Parse α n) : Parse β n :=
  match p with
  | .error stuck => .error stuck
  | .ok ⟨a, rest, h⟩ => .ok ⟨f a, rest, h⟩

/-- The same outcome under a greater bound. -/
def relax (p : Parse α m) (h : m ≤ n) : Parse α n :=
  match p with
  | .error stuck => .error stuck
  | .ok ⟨a, rest, hrest⟩ => .ok ⟨a, rest, Nat.lt_of_lt_of_le hrest h⟩

/-- Goes on reading behind what was read. -/
def andThen (p : Parse α n) (f : α → (rest : List Token) → rest.length < n → Parse β n) :
    Parse β n :=
  match p with
  | .error stuck => .error stuck
  | .ok ⟨a, rest, h⟩ => f a rest h

@[simp] theorem outcome_error (stuck : List Token) :
    outcome (.error stuck : Parse α n) = .error stuck := rfl

@[simp] theorem outcome_ok (reading : Reading α n) :
    outcome (.ok reading : Parse α n) = .ok (reading.value, reading.rest) := rfl

@[simp] theorem outcome_relax (p : Parse α m) (h : m ≤ n) : (p.relax h).outcome = p.outcome := by
  cases p <;> rfl

@[simp] theorem outcome_mapValue (f : α → β) (p : Parse α n) :
    (p.mapValue f).outcome = p.outcome.map fun read => (f read.1, read.2) := by
  cases p <;> rfl

end Parse

/-! ### Names and values -/

/-- A name, whatever it is. -/
def parseName : (ts : List Token) → Parse String ts.length
  | .name n :: rest => .ok ⟨n, rest, by simp⟩
  | ts => .error ts

/-- One given token. -/
def parseToken (t : Token) : (ts : List Token) → Parse Unit ts.length
  | [] => .error []
  | t' :: rest => if t' = t then .ok ⟨(), rest, by simp⟩ else .error (t' :: rest)

mutual
/-- A value; a constant one has no variables in it. -/
def parseValue (constant : Bool) (ts : List Token) : Parse Value ts.length :=
  match ts with
  | .name n :: rest => .ok ⟨.name n, rest, by simp⟩
  | .int i :: rest => .ok ⟨.int i, rest, by simp⟩
  | .float x :: rest => .ok ⟨.float x, rest, by simp⟩
  | .string s :: rest => .ok ⟨.string s, rest, by simp⟩
  | .dollar :: rest =>
      if constant then .error (.dollar :: rest)
      else ((parseName rest).mapValue .var).relax (by simp)
  | .openSquare :: rest => ((parseItems constant rest).mapValue .list).relax (by simp)
  | .openBrace :: rest =>
      ((parseFields constant .closeBrace rest).mapValue .object).relax (by simp)
  | ts => .error ts
termination_by (ts.length, 0)
/-- The items of a list, and the bracket that closes it. -/
def parseItems (constant : Bool) (ts : List Token) : Parse (List Value) ts.length :=
  match ts with
  | .closeSquare :: rest => .ok ⟨[], rest, by simp⟩
  | ts =>
      (parseValue constant ts).andThen fun item rest _ =>
        ((parseItems constant rest).mapValue (item :: ·)).relax (by omega)
termination_by (ts.length, 1)
/-- Names with values up to a closing token, and that token. -/
def parseFields (constant : Bool) (closing : Token) (ts : List Token) :
    Parse (List Argument) ts.length :=
  match ts with
  | [] => .error []
  | t :: behind =>
      if t = closing then .ok ⟨[], behind, by simp⟩
      else
        (parseName (t :: behind)).andThen fun name ts' _ =>
          ((parseToken .colon ts').relax (by omega)).andThen fun _ ts'' _ =>
            ((parseValue constant ts'').relax (by omega)).andThen fun value rest _ =>
              ((parseFields constant closing rest).mapValue ((name, value) :: ·)).relax (by omega)
termination_by (ts.length, 1)
end

/-! ### Arguments and directives -/

/-- Arguments in parentheses, at least one, or nothing. -/
def parseArguments (ts : List Token) : Parse (List Argument) (ts.length + 1) :=
  match ts with
  | .openParen :: .closeParen :: rest => .error (.closeParen :: rest)
  | .openParen :: rest =>
      (parseFields false .closeParen rest).relax (by simp only [List.length_cons]; omega)
  | ts => .ok ⟨[], ts, by simp⟩

/-- Directives, as many as there are. -/
def parseDirectives (ts : List Token) : Parse (List Directive) (ts.length + 1) :=
  match ts with
  | .atSign :: behind =>
      Parse.relax (m := behind.length)
        ((parseName behind).andThen fun name ts' _ =>
          ((parseArguments ts').relax (by omega)).andThen fun arguments rest _ =>
            ((parseDirectives rest).mapValue (⟨name, arguments⟩ :: ·)).relax (by omega))
        (by simp only [List.length_cons]; omega)
  | ts => .ok ⟨[], ts, by simp⟩
termination_by ts.length

/-! ### Selections -/

mutual
/-- A field, the spread of a fragment, or an inline fragment. -/
def parseSelection (ts : List Token) : Parse Selection ts.length :=
  match ts with
  | .name first :: .colon :: behind =>
      Parse.relax (m := behind.length)
        ((parseName behind).andThen fun name ts' _ =>
          (parseFieldTail (some first) name ts').relax (by omega))
        (by simp only [List.length_cons]; omega)
  | .name name :: behind => (parseFieldTail none name behind).relax (by simp)
  | .ellipsis :: .name first :: behind =>
      if first = "on" then
        Parse.relax (m := behind.length)
          ((parseName behind).andThen fun type ts' _ =>
            (parseInlineTail (some type) ts').relax (by omega))
          (by simp only [List.length_cons]; omega)
      else ((parseDirectives behind).mapValue (.spread first)).relax (by simp)
  | .ellipsis :: behind => (parseInlineTail none behind).relax (by simp)
  | ts => .error ts
termination_by (ts.length, 0)
/-- What follows the name of a field. -/
def parseFieldTail (alias? : Option String) (name : String) (ts : List Token) :
    Parse Selection (ts.length + 1) :=
  (parseArguments ts).andThen fun arguments ts' _ =>
    ((parseDirectives ts').relax (by omega)).andThen fun directives ts'' _ =>
      match ts'' with
      | .openBrace :: behind =>
          have : behind.length < ts.length := by simp_all only [List.length_cons]; omega
          ((parseSelections behind).mapValue (.field alias? name arguments directives)).relax
            (by omega)
      | ts'' => .ok ⟨.field alias? name arguments directives [], ts'', by omega⟩
termination_by (ts.length, 2)
/-- What follows the type condition of an inline fragment. -/
def parseInlineTail (type? : Option String) (ts : List Token) : Parse Selection (ts.length + 1) :=
  (parseDirectives ts).andThen fun directives ts' _ =>
    match ts' with
    | .openBrace :: behind =>
        have : behind.length < ts.length := by simp_all only [List.length_cons]; omega
        ((parseSelections behind).mapValue (.inline type? directives)).relax (by omega)
    | ts' => .error ts'
termination_by (ts.length, 2)
/-- Selections, at least one, and the brace that closes them. -/
def parseSelections (ts : List Token) : Parse (List Selection) ts.length :=
  (parseSelection ts).andThen fun selection ts' _ =>
    match ts' with
    | .closeBrace :: rest => .ok ⟨[selection], rest, by simp_all only [List.length_cons]; omega⟩
    | ts' => ((parseSelections ts').mapValue (selection :: ·)).relax (by omega)
termination_by (ts.length, 1)
end

/-- Selections in braces. -/
def parseSelectionSet : (ts : List Token) → Parse (List Selection) ts.length
  | .openBrace :: behind => (parseSelections behind).relax (by simp)
  | ts => .error ts

/-! ### Definitions -/

/-- The type of a variable. -/
def parseType (ts : List Token) : Parse TypeRef ts.length :=
  match ts with
  | .name n :: .bang :: rest => .ok ⟨.named n true, rest, by simp only [List.length_cons]; omega⟩
  | .name n :: rest => .ok ⟨.named n false, rest, by simp⟩
  | .openSquare :: behind =>
      Parse.relax (m := behind.length)
        ((parseType behind).andThen fun item ts' _ =>
          match ts' with
          | .closeSquare :: .bang :: rest =>
              .ok ⟨.list item true, rest, by simp_all only [List.length_cons]; omega⟩
          | .closeSquare :: rest =>
              .ok ⟨.list item false, rest, by simp_all only [List.length_cons]; omega⟩
          | ts' => .error ts')
        (by simp)
  | ts => .error ts
termination_by ts.length

/-- A default behind an equals sign, or nothing. -/
def parseDefault (ts : List Token) : Parse (Option Value) (ts.length + 1) :=
  match ts with
  | .equals :: behind =>
      ((parseValue true behind).mapValue some).relax (by simp only [List.length_cons]; omega)
  | ts => .ok ⟨none, ts, by simp⟩

/-- One variable. -/
def parseVariable (ts : List Token) : Parse VariableDefinition ts.length :=
  match ts with
  | .dollar :: behind =>
      Parse.relax (m := behind.length)
        ((parseName behind).andThen fun name ts₁ _ =>
          ((parseToken .colon ts₁).relax (by omega)).andThen fun _ ts₂ _ =>
            ((parseType ts₂).relax (by omega)).andThen fun type ts₃ _ =>
              ((parseDefault ts₃).mapValue (⟨name, type, ·⟩)).relax (by omega))
        (by simp)
  | ts => .error ts

/-- Variables, at least one, and the parenthesis that closes them. -/
def parseVariables (ts : List Token) : Parse (List VariableDefinition) ts.length :=
  (parseVariable ts).andThen fun var ts' _ =>
    match ts' with
    | .closeParen :: rest => .ok ⟨[var], rest, by simp_all only [List.length_cons]; omega⟩
    | ts' => ((parseVariables ts').mapValue (var :: ·)).relax (by omega)
termination_by ts.length

/-- Variables in parentheses, or nothing. -/
def parseVariableDefinitions (ts : List Token) :
    Parse (List VariableDefinition) (ts.length + 1) :=
  match ts with
  | .openParen :: behind => (parseVariables behind).relax (by simp only [List.length_cons]; omega)
  | ts => .ok ⟨[], ts, by simp⟩

/-- The name of an operation, or nothing. -/
def parseOptionalName (ts : List Token) : Parse (Option String) (ts.length + 1) :=
  match ts with
  | .name n :: rest => .ok ⟨some n, rest, by simp only [List.length_cons]; omega⟩
  | ts => .ok ⟨none, ts, by simp⟩

/-- What follows the keyword of an operation. -/
def parseOperationTail (kind : OperationKind) (ts : List Token) :
    Parse Definition (ts.length + 1) :=
  (parseOptionalName ts).andThen fun name? ts₁ _ =>
    ((parseVariableDefinitions ts₁).relax (by omega)).andThen fun variableDefs ts₂ _ =>
      ((parseDirectives ts₂).relax (by omega)).andThen fun directives ts₃ _ =>
        ((parseSelectionSet ts₃).mapValue (.operation kind name? variableDefs directives)).relax
          (by omega)

/-- What follows the keyword of a fragment. -/
def parseFragmentTail (ts : List Token) : Parse Definition (ts.length + 1) :=
  ((parseName ts).relax (Nat.le_succ _)).andThen fun name ts₁ _ =>
    ((parseToken (.name "on") ts₁).relax (by omega)).andThen fun _ ts₂ _ =>
      ((parseName ts₂).relax (by omega)).andThen fun type ts₃ _ =>
        ((parseDirectives ts₃).relax (by omega)).andThen fun directives ts₄ _ =>
          ((parseSelectionSet ts₄).mapValue (.fragment name type directives)).relax (by omega)

/-- One definition. -/
def parseDefinition (ts : List Token) : Parse Definition ts.length :=
  match ts with
  | .openBrace :: behind => ((parseSelections behind).mapValue .selectionSet).relax (by simp)
  | .name word :: behind =>
      match OperationKind.ofKeyword? word with
      | some kind => (parseOperationTail kind behind).relax (by simp)
      | none =>
          if word = "fragment" then (parseFragmentTail behind).relax (by simp)
          else .error (.name word :: behind)
  | ts => .error ts

/-- Definitions up to the last token, at least one. -/
def parseDefinitions (ts : List Token) : Except (List Token) (List Definition) :=
  match parseDefinition ts with
  | .error stuck => .error stuck
  | .ok ⟨definition, rest, _⟩ =>
      if rest = [] then .ok [definition]
      else
        match parseDefinitions rest with
        | .error stuck => .error stuck
        | .ok definitions => .ok (definition :: definitions)
termination_by ts.length

/-! ### Documents -/

/-- The place of the first token that no document can go on with. -/
structure SyntaxError where
  position : Position
  deriving DecidableEq, Repr

/-- How a syntax error is told to the user. -/
def SyntaxError.message (e : SyntaxError) : String :=
  s!"query parse error: Parse error at {e.position.line}:{e.position.column}"

/-- The document of a text that has been cut into tokens.  If cutting ended early and the tokens up
to there fit, the place where it ended is to blame. -/
def Document.ofScan (scan : Scan) : Except SyntaxError Document :=
  match parseDefinitions scan.tokens with
  | .error stuck => .error ⟨scan.position (scan.lexemes.length - stuck.length)⟩
  | .ok definitions =>
      if scan.complete then .ok ⟨definitions⟩
      else .error ⟨scan.position scan.lexemes.length⟩

/-- Reads a document. -/
def Document.parse (text : String) : Except SyntaxError Document :=
  ofScan (scan text.toList)

end QueryWeave.GraphQL
