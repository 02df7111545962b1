/-
**Writing documents.**

A document is written with one selection to a line, two spaces further in for each level, and an
empty line between definitions.  The fields of an object come in order of their names, of a repeated
name the last one.  A string with a line feed is written as a block string if all its characters may
stand in one; any other string is written in one line with escapes.

Main definitions:

* `QueryWeave.GraphQL.stringText` — a string, in one of its two forms;
* `QueryWeave.GraphQL.Value.text`, `QueryWeave.GraphQL.Selection.text`,
  `QueryWeave.GraphQL.Definition.text` — the parts of a document;
* `QueryWeave.GraphQL.Document.text` — a whole document.
-/

import QueryWeave.Decimal
import QueryWeave.GraphQL.Document
import QueryWeave.GraphQL.Token
import QueryWeave.KeyOrder

set_option relaxedAutoImplicit false
set_option autoImplicit false

namespace QueryWeave.GraphQL

/-- The number of spaces by which a level is set in. -/
def levelWidth : Nat := 2

/-- White space of the given width. -/
def margin (width : Nat) : List Char :=
  List.replicate width ' '

/-! ### Strings -/

/-- Whether a character can stand for itself in a string. -/
def isPlainStringChar (c : Char) : Bool :=
  0x20 ≤ c.toNat && c.toNat ≤ 0xFFFF

/-- Whether a string is written in block form. -/
def takesBlockForm (cs : List Char) : Bool :=
  cs.any (· == '\n') &&
    cs.all fun c => c == '\n' || c == '\r' || c == '\t' || isPlainStringChar c

/-- The code point of a character in decimal, with at least four digits. -/
def decimalEscape (c : Char) : List Char :=
  let digits := Nat.toDigits 10 c.toNat
  '\\' :: 'u' :: (List.replicate (4 - digits.length) '0' ++ digits)

/-- A character within quotes. -/
def escapedChar (c : Char) : List Char :=
  if c = '\r' then ['\\', 'r']
  else if c = '\n' then ['\\', 'n']
  else if c = '\t' then ['\\', 't']
  else if c = '"' then ['\\', '"']
  else if c = '\\' then ['\\', '\\']
  else if isPlainStringChar c then [c]
  else decimalEscape c

/-- A text with a backslash in front of every triple quote. -/
def escapeTripleQuotes : List Char → List Char
  | '"' :: '"' :: '"' :: rest => '\\' :: '"' :: '"' :: '"' :: escapeTripleQuotes rest
  | c :: rest => c :: escapeTripleQuotes rest
  | [] => []

/-- A line of a block string; a blank line is left empty. -/
def blockLine (width : Nat) (line : List Char) : List Char :=
  (if isBlankLine line then [] else margin width ++ escapeTripleQuotes line) ++ ['\n']

/-- A string in block form, below an element set in by `width`. -/
def blockText (width : Nat) (cs : List Char) : List Char :=
  ['"', '"', '"', '\n'] ++ (Text.lines cs).flatMap (blockLine (width + levelWidth)) ++
    margin width ++ ['"', '"', '"']

/-- A string in the form that suits it. -/
def stringText (width : Nat) (value : String) : String :=
  String.ofList
    (if takesBlockForm value.toList then blockText width value.toList
    else '"' :: value.toList.flatMap escapedChar ++ ['"'])

/-! ### Values -/

mutual
/-- A value within an element set in by `width`. -/
def Value.text (width : Nat) : Value → String
  | .var name => "$" ++ name
  | .int value => toString value
  | .float value => value.text .double
  | .string value => stringText width value
  | .name name => name
  | .list items => "[" ++ ", ".intercalate (itemTexts width items) ++ "]"
  | .object fields =>
      "\x7b" ++ ", ".intercalate ((KeyOrder.ofList Prod.fst (fieldTexts width fields)).map
        fun field => field.1 ++ ": " ++ field.2) ++ "\x7d"
/-- The texts of the items of a list. -/
def itemTexts (width : Nat) : List Value → List String
  | [] => []
  | item :: items => item.text width :: itemTexts width items
/-- The names of the fields of an object, with the texts of their values. -/
def fieldTexts (width : Nat) : List (String × Value) → List (String × String)
  | [] => []
  | (name, value) :: fields => (name, value.text width) :: fieldTexts width fields
end

/-- Arguments in parentheses; nothing if there are none. -/
def argumentsText (width : Nat) (arguments : List Argument) : String :=
  if arguments.isEmpty then ""
  else
    "(" ++ ", ".intercalate (arguments.map fun a => a.1 ++ ": " ++ a.2.text width) ++ ")"

/-- Directives, each behind a space. -/
def directivesText (width : Nat) (directives : List Directive) : String :=
  String.join (directives.map fun d => " @" ++ d.name ++ argumentsText width d.arguments)

/-! ### Selections -/

/-- Lines in braces behind a space, closed at the given width. -/
def bracedText (width : Nat) (lines : String) : String :=
  " \x7b\n" ++ lines ++ String.ofList (margin width) ++ "\x7d"

mutual
/-- A selection on lines of its own, set in by `width`. -/
def Selection.text (width : Nat) : Selection → String
  | .field alias? name arguments directives selections =>
      String.ofList (margin width) ++ (alias?.map (· ++ ": ")).getD "" ++ name ++
        argumentsText width arguments ++ directivesText width directives ++
        (if selections.isEmpty then ""
          else bracedText width (selectionTexts (width + levelWidth) selections)) ++ "\n"
  | .spread name directives =>
      String.ofList (margin width) ++ "..." ++ name ++ directivesText width directives ++ "\n"
  | .inline type? directives selections =>
      String.ofList (margin width) ++ "..." ++ (type?.map (" on " ++ ·)).getD "" ++
        directivesText width directives ++
        bracedText width (selectionTexts (width + levelWidth) selections) ++ "\n"
/-- Several selections, one below the other. -/
def selectionTexts (width : Nat) : List Selection → String
  | [] => ""
  | selection :: selections => selection.text width ++ selectionTexts width selections
end

/-! ### Definitions -/

/-- The type of a variable. -/
def TypeRef.text : TypeRef → String
  | .named name required => name ++ if required then "!" else ""
  | .list item required => "[" ++ item.text ++ "]" ++ if required then "!" else ""

/-- A variable with its type and its default. -/
def VariableDefinition.text (v : VariableDefinition) : String :=
  "$" ++ v.name ++ ": " ++ v.type.text ++ (v.default?.map (" = " ++ ·.text 0)).getD ""

/-- Variables in parentheses; nothing if there are none. -/
def variablesText (separator : String) (variableDefs : List VariableDefinition) : String :=
  if variableDefs.isEmpty then ""
  else "(" ++ separator.intercalate (variableDefs.map VariableDefinition.text) ++ ")"

/-- What stands between the keyword of an operation and its directives.  A subscription shows its
variables only if it has a name, and with nothing between them. -/
def operationHead (kind : OperationKind) (name? : Option String)
    (variableDefs : List VariableDefinition) : String :=
  match kind, name? with
  | .subscription, some name => " " ++ name ++ variablesText "" variableDefs
  | .subscription, none => ""
  | _, some name => " " ++ name ++ variablesText ", " variableDefs
  | _, none => variablesText ", " variableDefs

/-- A definition with the line feed that ends it. -/
def Definition.text : Definition → String
  | .selectionSet selections =>
      "\x7b\n" ++ selectionTexts levelWidth selections ++ "\x7d\n"
  | .operation kind name? variableDefs directives selections =>
      kind.keyword ++ operationHead kind name? variableDefs ++ directivesText 0 directives ++
        bracedText 0 (selectionTexts levelWidth selections) ++ "\n"
  | .fragment name type directives selections =>
      "fragment " ++ name ++ " on " ++ type ++ directivesText 0 directives ++
        bracedText 0 (selectionTexts levelWidth selections) ++ "\n"

/-- A document: its definitions with an empty line between each two. -/
def Document.text (d : Document) : String :=
  "\n".intercalate (d.definitions.map Definition.text)

end QueryWeave.GraphQL
