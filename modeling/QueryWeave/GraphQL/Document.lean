/-
**Documents of GraphQL.**

A document is a list of definitions: operations and fragments, each with a set of selections.  What
the types keep is what the tokens say, in the order of the tokens; places in the text, commas and
comments are not part of it.

Main definitions:

* `QueryWeave.GraphQL.Value`, `QueryWeave.GraphQL.Argument`, `QueryWeave.GraphQL.Directive` — values
  and where they are passed;
* `QueryWeave.GraphQL.TypeRef`, `QueryWeave.GraphQL.VariableDefinition` — the variables of an
  operation;
* `QueryWeave.GraphQL.Selection` — fields and fragments that are selected;
* `QueryWeave.GraphQL.Definition`, `QueryWeave.GraphQL.Document` — whole documents.
-/

import QueryWeave.Decimal

set_option relaxedAutoImplicit false
set_option autoImplicit false

namespace QueryWeave.GraphQL

/-- A value in an argument or a default.  Booleans, null and members of enumerations are names. -/
inductive Value where
  | var (name : String)
  | int (value : Int)
  | float (value : Decimal.Number)
  | string (value : String)
  | name (name : String)
  | list (items : List Value)
  | object (fields : List (String × Value))

instance : Inhabited Value := ⟨.list []⟩

/-- A name with the value passed under it. -/
abbrev Argument : Type := String × Value

/-- A directive with its arguments. -/
structure Directive where
  name : String
  arguments : List Argument

/-- The type of a variable; a required one is not null. -/
inductive TypeRef where
  | named (name : String) (required : Bool)
  | list (item : TypeRef) (required : Bool)

/-- A variable of an operation, with the default that stands for it. -/
structure VariableDefinition where
  name : String
  type : TypeRef
  default? : Option Value

/-- What is selected: a field, a fragment by its name, or an inline fragment.  A field without
selections of its own has the empty list. -/
inductive Selection where
  | field (alias? : Option String) (name : String) (arguments : List Argument)
      (directives : List Directive) (selections : List Selection)
  | spread (name : String) (directives : List Directive)
  | inline (typeCondition? : Option String) (directives : List Directive)
      (selections : List Selection)

instance : Inhabited Selection := ⟨.spread "" []⟩

/-- The kinds of operations. -/
inductive OperationKind where
  | query
  | mutation
  | subscription
  deriving DecidableEq, Repr

/-- The keyword of an operation. -/
def OperationKind.keyword : OperationKind → String
  | .query => "query"
  | .mutation => "mutation"
  | .subscription => "subscription"

/-- The operation with a given keyword. -/
def OperationKind.ofKeyword? (word : String) : Option OperationKind :=
  if word = "query" then some .query
  else if word = "mutation" then some .mutation
  else if word = "subscription" then some .subscription
  else none

theorem OperationKind.ofKeyword?_eq_some_iff {word : String} {kind : OperationKind} :
    ofKeyword? word = some kind ↔ kind.keyword = word := by
  cases kind <;> grind [OperationKind.ofKeyword?, OperationKind.keyword]

/-- A definition: a bare set of selections, an operation, or a fragment. -/
inductive Definition where
  | selectionSet (selections : List Selection)
  | operation (kind : OperationKind) (name? : Option String)
      (variableDefs : List VariableDefinition) (directives : List Directive)
      (selections : List Selection)
  | fragment (name : String) (typeCondition : String) (directives : List Directive)
      (selections : List Selection)

/-- A whole document. -/
structure Document where
  definitions : List Definition

end QueryWeave.GraphQL
