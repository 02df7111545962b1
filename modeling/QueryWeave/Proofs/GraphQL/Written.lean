/-
**How documents are written in tokens.**

What is read from tokens can be written in tokens again, in one way only: fields and arguments,
types and values hold all that their tokens say.  Written so, brackets come in pairs; behind a
definition there are as many open as in front of it.

Main definitions:

* `QueryWeave.GraphQL.Value.tokens`, `QueryWeave.GraphQL.Selection.tokens`,
  `QueryWeave.GraphQL.Definition.tokens` and others — the written forms;
* `QueryWeave.GraphQL.bracketsAfter` — the number of open brackets behind tokens;
* `QueryWeave.GraphQL.Balanced` — tokens that leave that number as it is.

Main results:

* `QueryWeave.GraphQL.Definition.balanced_tokens` — **definitions are balanced**.
-/

import QueryWeave.GraphQL.Document
import QueryWeave.GraphQL.Lexer

set_option relaxedAutoImplicit false
set_option autoImplicit false

namespace QueryWeave.GraphQL

/-! ### Values -/

mutual
/-- The tokens of a value. -/
def Value.tokens : Value → List Token
  | .var name => [.dollar, .name name]
  | .int value => [.int value]
  | .float value => [.float value]
  | .string value => [.string value]
  | .name name => [.name name]
  | .list items => .openSquare :: (itemTokens items ++ [.closeSquare])
  | .object fields => .openBrace :: (fieldTokens fields ++ [.closeBrace])
/-- The tokens of the items of a list. -/
def itemTokens : List Value → List Token
  | [] => []
  | item :: items => item.tokens ++ itemTokens items
/-- The tokens of names with values. -/
def fieldTokens : List (String × Value) → List Token
  | [] => []
  | (name, value) :: fields => .name name :: .colon :: (value.tokens ++ fieldTokens fields)
end

/-- The tokens of arguments in parentheses; none if there are none. -/
def argumentTokens (arguments : List Argument) : List Token :=
  if arguments.isEmpty then [] else .openParen :: (fieldTokens arguments ++ [.closeParen])

/-- The tokens of directives. -/
def directiveTokens (directives : List Directive) : List Token :=
  directives.flatMap fun d => .atSign :: .name d.name :: argumentTokens d.arguments

/-! ### Selections -/

/-- The tokens of the alias of a field. -/
def aliasTokens : Option String → List Token
  | none => []
  | some first => [.name first, .colon]

/-- The tokens of the type condition of an inline fragment. -/
def typeConditionTokens : Option String → List Token
  | none => []
  | some type => [.name "on", .name type]

mutual
/-- The tokens of a selection. -/
def Selection.tokens : Selection → List Token
  | .field alias? name arguments directives selections =>
      aliasTokens alias? ++ .name name :: (argumentTokens arguments ++
        (directiveTokens directives ++
          if selections.isEmpty then []
          else .openBrace :: (selectionTokens selections ++ [.closeBrace])))
  | .spread name directives => .ellipsis :: .name name :: directiveTokens directives
  | .inline type? directives selections =>
      .ellipsis :: (typeConditionTokens type? ++ (directiveTokens directives ++
        .openBrace :: (selectionTokens selections ++ [.closeBrace])))
/-- The tokens of several selections. -/
def selectionTokens : List Selection → List Token
  | [] => []
  | selection :: selections => selection.tokens ++ selectionTokens selections
end

/-- The tokens of selections in braces. -/
def bracedTokens (selections : List Selection) : List Token :=
  .openBrace :: (selectionTokens selections ++ [.closeBrace])

/-! ### Definitions -/

/-- The mark of a required type. -/
def requiredTokens (required : Bool) : List Token :=
  if required then [.bang] else []

/-- The tokens of a type. -/
def TypeRef.tokens : TypeRef → List Token
  | .named name required => .name name :: requiredTokens required
  | .list item required => .openSquare :: (item.tokens ++ .closeSquare :: requiredTokens required)

/-- The tokens of a default. -/
def defaultTokens : Option Value → List Token
  | none => []
  | some value => .equals :: value.tokens

/-- The tokens of a variable. -/
def VariableDefinition.tokens (v : VariableDefinition) : List Token :=
  .dollar :: .name v.name :: .colon :: (v.type.tokens ++ defaultTokens v.default?)

/-- The tokens of variables in parentheses; none if there are none. -/
def variableTokens (variableDefs : List VariableDefinition) : List Token :=
  if variableDefs.isEmpty then []
  else .openParen :: (variableDefs.flatMap VariableDefinition.tokens ++ [.closeParen])

/-- The tokens of the name of an operation. -/
def nameTokens : Option String → List Token
  | none => []
  | some name => [.name name]

/-- The tokens of a definition. -/
def Definition.tokens : Definition → List Token
  | .selectionSet selections => bracedTokens selections
  | .operation kind name? variableDefs directives selections =>
      .name kind.keyword :: (nameTokens name? ++ (variableTokens variableDefs ++
        (directiveTokens directives ++ bracedTokens selections)))
  | .fragment name type directives selections =>
      .name "fragment" :: .name name :: .name "on" :: .name type ::
        (directiveTokens directives ++ bracedTokens selections)

/-! ### Brackets -/

/-- The number of open brackets behind tokens in front of which `opened` are open, if no bracket
is one too many. -/
def bracketsAfter (opened : Nat) (ts : List Token) : Option Nat :=
  ts.foldlM openBracketsAfter opened

@[simp] theorem bracketsAfter_nil (opened : Nat) : bracketsAfter opened [] = some opened := rfl

@[simp] theorem bracketsAfter_cons (opened : Nat) (t : Token) (ts : List Token) :
    bracketsAfter opened (t :: ts) =
      (openBracketsAfter opened t).bind fun opened' => bracketsAfter opened' ts := rfl

theorem bracketsAfter_append (opened : Nat) (ts ts' : List Token) :
    bracketsAfter opened (ts ++ ts') =
      (bracketsAfter opened ts).bind fun opened' => bracketsAfter opened' ts' :=
  List.foldlM_append

/-- Behind the tokens the same number of brackets is open as in front of them. -/
def Balanced (ts : List Token) : Prop :=
  ∀ opened opened', bracketsAfter opened ts = some opened' → opened' = opened

theorem balanced_nil : Balanced [] := by
  intro opened opened' h
  exact (Option.some_inj.1 h).symm

theorem Balanced.append {ts ts' : List Token} (h : Balanced ts) (h' : Balanced ts') :
    Balanced (ts ++ ts') := by
  intro opened opened'' hts
  rw [bracketsAfter_append] at hts
  obtain ⟨opened', hfirst, hrest⟩ := Option.bind_eq_some_iff.1 hts
  rw [h' _ _ hrest, h _ _ hfirst]

/-- A token that is no bracket changes nothing. -/
theorem Balanced.cons {t : Token} {ts : List Token} (hopening : t.isOpening = false)
    (hclosing : t.isClosing = false) (h : Balanced ts) : Balanced (t :: ts) := by
  intro opened opened' hts
  rw [bracketsAfter_cons, openBracketsAfter, hopening, hclosing] at hts
  exact h _ _ hts

/-- A pair of brackets around balanced tokens is balanced. -/
theorem Balanced.enclosed {opening closing : Token} {ts : List Token}
    (hopening : opening.isOpening = true) (hclosing : closing.isClosing = true)
    (hnot : closing.isOpening = false) (h : Balanced ts) :
    Balanced (opening :: (ts ++ [closing])) := by
  intro opened opened' hts
  rw [bracketsAfter_cons] at hts
  obtain ⟨opened₁, hopened, hts⟩ := Option.bind_eq_some_iff.1 hts
  rw [bracketsAfter_append] at hts
  obtain ⟨opened₂, hinner, hts⟩ := Option.bind_eq_some_iff.1 hts
  have hfirst : opened₁ = opened + 1 := by
    rw [openBracketsAfter, if_pos hopening] at hopened
    split at hopened
    · exact (Option.some_inj.1 hopened).symm
    · cases hopened
  have hlast : opened' = opened₂ - 1 := by
    simpa [openBracketsAfter, hnot, hclosing, eq_comm] using hts
  have hsame := h _ _ hinner
  omega

theorem balanced_flatMap {α : Type} {write : α → List Token} {xs : List α}
    (h : ∀ x ∈ xs, Balanced (write x)) : Balanced (xs.flatMap write) := by
  induction xs with
  | nil => exact balanced_nil
  | cons x xs ih =>
      rw [List.flatMap_cons]
      exact (h x List.mem_cons_self).append (ih fun y hy => h y (List.mem_cons_of_mem _ hy))

mutual
theorem Value.balanced_tokens : ∀ value : Value, Balanced value.tokens
  | .var _ => .cons rfl rfl (.cons rfl rfl balanced_nil)
  | .int _ | .float _ | .string _ | .name _ => .cons rfl rfl balanced_nil
  | .list items => .enclosed rfl rfl rfl (balanced_itemTokens items)
  | .object fields => .enclosed rfl rfl rfl (balanced_fieldTokens fields)
theorem balanced_itemTokens : ∀ items : List Value, Balanced (itemTokens items)
  | [] => balanced_nil
  | item :: items => item.balanced_tokens.append (balanced_itemTokens items)
theorem balanced_fieldTokens : ∀ fields : List (String × Value), Balanced (fieldTokens fields)
  | [] => balanced_nil
  | (_, value) :: fields =>
      .cons rfl rfl (.cons rfl rfl (value.balanced_tokens.append (balanced_fieldTokens fields)))
end

theorem balanced_argumentTokens (arguments : List Argument) :
    Balanced (argumentTokens arguments) := by
  unfold argumentTokens
  split
  · exact balanced_nil
  · exact .enclosed rfl rfl rfl (balanced_fieldTokens arguments)

theorem balanced_directiveTokens (directives : List Directive) :
    Balanced (directiveTokens directives) :=
  balanced_flatMap fun d _ => .cons rfl rfl (.cons rfl rfl (balanced_argumentTokens d.arguments))

mutual
theorem Selection.balanced_tokens : ∀ selection : Selection, Balanced selection.tokens
  | .field alias? _ arguments directives selections => by
      have halias : Balanced (aliasTokens alias?) := by
        cases alias? with
        | none => exact balanced_nil
        | some first => exact .cons rfl rfl (.cons rfl rfl balanced_nil)
      refine halias.append (.cons rfl rfl ?_)
      refine (balanced_argumentTokens arguments).append ?_
      refine (balanced_directiveTokens directives).append ?_
      split
      · exact balanced_nil
      · exact .enclosed rfl rfl rfl (balanced_selectionTokens selections)
  | .spread _ directives => .cons rfl rfl (.cons rfl rfl (balanced_directiveTokens directives))
  | .inline type? directives selections => by
      have htype : Balanced (typeConditionTokens type?) := by
        cases type? with
        | none => exact balanced_nil
        | some type => exact .cons rfl rfl (.cons rfl rfl balanced_nil)
      refine .cons rfl rfl (htype.append ((balanced_directiveTokens directives).append ?_))
      exact .enclosed rfl rfl rfl (balanced_selectionTokens selections)
theorem balanced_selectionTokens :
    ∀ selections : List Selection, Balanced (selectionTokens selections)
  | [] => balanced_nil
  | selection :: selections =>
      selection.balanced_tokens.append (balanced_selectionTokens selections)
end

theorem balanced_bracedTokens (selections : List Selection) :
    Balanced (bracedTokens selections) :=
  .enclosed rfl rfl rfl (balanced_selectionTokens selections)

theorem balanced_requiredTokens (required : Bool) : Balanced (requiredTokens required) := by
  cases required with
  | false => exact balanced_nil
  | true => exact .cons rfl rfl balanced_nil

theorem TypeRef.balanced_tokens (type : TypeRef) : Balanced type.tokens := by
  induction type with
  | named name required => exact .cons rfl rfl (balanced_requiredTokens required)
  | list item required ih =>
      have hlist : Balanced (.openSquare :: (item.tokens ++ [.closeSquare])) :=
        .enclosed rfl rfl rfl ih
      simpa [TypeRef.tokens] using hlist.append (balanced_requiredTokens required)

theorem VariableDefinition.balanced_tokens (v : VariableDefinition) : Balanced v.tokens := by
  have hdefault : Balanced (defaultTokens v.default?) := by
    cases v.default? with
    | none => exact balanced_nil
    | some value => exact .cons rfl rfl value.balanced_tokens
  exact .cons rfl rfl (.cons rfl rfl (.cons rfl rfl (v.type.balanced_tokens.append hdefault)))

theorem balanced_variableTokens (variableDefs : List VariableDefinition) :
    Balanced (variableTokens variableDefs) := by
  unfold variableTokens
  split
  · exact balanced_nil
  · exact .enclosed rfl rfl rfl (balanced_flatMap fun v _ => v.balanced_tokens)

/-- **Definitions are balanced.** -/
theorem Definition.balanced_tokens (definition : Definition) : Balanced definition.tokens := by
  cases definition with
  | selectionSet selections => exact balanced_bracedTokens selections
  | operation kind name? variableDefs directives selections =>
      have hname : Balanced (nameTokens name?) := by
        cases name? with
        | none => exact balanced_nil
        | some name => exact .cons rfl rfl balanced_nil
      refine .cons rfl rfl (hname.append ((balanced_variableTokens variableDefs).append ?_))
      exact (balanced_directiveTokens directives).append (balanced_bracedTokens selections)
  | fragment name type directives selections =>
      refine .cons rfl rfl (.cons rfl rfl (.cons rfl rfl (.cons rfl rfl ?_)))
      exact (balanced_directiveTokens directives).append (balanced_bracedTokens selections)

end QueryWeave.GraphQL
