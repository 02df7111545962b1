/-
**Tokens of GraphQL.**

A token is a punctuator, a name, or a literal that has already been given its value: a whole number
of 64 bits, a floating-point number, or a string without its quotes and escapes.  Whether a string
was written with one quote or with three makes no difference from here on.

The text of a number or of a string stands for a value, or for none: a whole number has to fit into
64 bits, an exponent needs digits, and a string may only hold the escapes that GraphQL knows.

A block string is cut into lines.  The least indentation of the lines behind the first is taken off
these lines, blank lines at both ends are dropped, and an escaped triple quote loses its backslash.

Main definitions:

* `QueryWeave.GraphQL.Token` — the tokens;
* `QueryWeave.GraphQL.Token.punctuator?` — the tokens of one character;
* `QueryWeave.GraphQL.numberToken?` — the token for the text of a number;
* `QueryWeave.GraphQL.unescape?` — the value of a string between single quotes;
* `QueryWeave.GraphQL.blockValue` — the value of a string between triple quotes.
-/

import QueryWeave.Decimal
import QueryWeave.Text.Blank
import QueryWeave.Text.Cut

set_option relaxedAutoImplicit false
set_option autoImplicit false

namespace QueryWeave.GraphQL

/-! ### Tokens -/

/-- The smallest units with a meaning in a document. -/
inductive Token where
  | bang
  | dollar
  | colon
  | equals
  | atSign
  | pipe
  | ampersand
  | openParen
  | closeParen
  | openSquare
  | closeSquare
  | openBrace
  | closeBrace
  | ellipsis
  | name (text : String)
  | int (value : Int)
  | float (value : Decimal.Number)
  | string (value : String)
  deriving DecidableEq, Repr

namespace Token

/-- The token that is written as the single character `c`. -/
def punctuator? (c : Char) : Option Token :=
  match c with
  | '!' => some bang
  | '$' => some dollar
  | ':' => some colon
  | '=' => some equals
  | '@' => some atSign
  | '|' => some pipe
  | '&' => some ampersand
  | '(' => some openParen
  | ')' => some closeParen
  | '[' => some openSquare
  | ']' => some closeSquare
  | '{' => some openBrace
  | '}' => some closeBrace
  | _ => none

/-- Whether a token opens a bracket. -/
def isOpening : Token → Bool
  | openParen | openSquare | openBrace => true
  | _ => false

/-- Whether a token closes a bracket. -/
def isClosing : Token → Bool
  | closeParen | closeSquare | closeBrace => true
  | _ => false

end Token

/-! ### Numbers -/

/-- Whether a text is a whole number: an optional minus, then `0` or digits not starting with it. -/
def isWholeNumber (cs : List Char) : Bool :=
  match cs with
  | '-' :: digits => isNatural digits
  | digits => isNatural digits
where
  /-- Whether a text is `0` or digits that do not start with it. -/
  isNatural : List Char → Bool
    | ['0'] => true
    | [] => false
    | c :: digits => c != '0' && c.isDigit && digits.all Char.isDigit

/-- Whether a text is a fraction: one or more digits. -/
def isFraction (cs : List Char) : Bool :=
  !cs.isEmpty && cs.all Char.isDigit

/-- Whether a text can follow the mark of an exponent: a sign or a digit from 1 to 8, then
digits. -/
def isExponent : List Char → Bool
  | [] => false
  | c :: digits => (c == '+' || c == '-' || ('1' ≤ c && c ≤ '8')) && digits.all Char.isDigit

/-- Whether a text is a floating-point literal. -/
def isFloat (cs : List Char) : Bool :=
  let withoutExponent (cs : List Char) : Bool :=
    match Text.cutLast (· == '.') cs with
    | some (whole, fraction) => isWholeNumber whole && isFraction fraction
    | none => isWholeNumber cs
  match Text.cutLast (fun c => c == 'e' || c == 'E') cs with
  | some (before, exponent) => withoutExponent before && isExponent exponent
  | none => withoutExponent cs

/-- Whether a character tells a floating-point number from a whole one. -/
def isFloatMark (c : Char) : Bool :=
  c == '.' || c == 'e' || c == 'E'

/-- Whether a whole number fits into a signed word of 64 bits. -/
def fitsWord (value : Int) : Bool :=
  -9223372036854775808 ≤ value && value ≤ 9223372036854775807

/-- The token for the text of a number. -/
def numberToken? (cs : List Char) : Option Token :=
  if cs.any isFloatMark then
    if isFloat cs then (Decimal.Number.read .double (String.ofList cs)).map .float else none
  else if isWholeNumber cs then
    match Decimal.readInteger? cs with
    | some value => if fitsWord value then some (.int value) else none
    | none => none
  else none

/-! ### Strings -/

/-- The value of a hexadecimal digit. -/
def hexDigit? (c : Char) : Option Nat :=
  if c.isDigit then some (c.toNat - 48)
  else if 'a' ≤ c ∧ c ≤ 'f' then some (c.toNat - 87)
  else if 'A' ≤ c ∧ c ≤ 'F' then some (c.toNat - 55)
  else none

/-- The value of hexadecimal digits. -/
def hexValue? (cs : List Char) : Option Nat :=
  cs.foldlM (fun value c => (hexDigit? c).map (16 * value + ·)) 0

/-- The character with the code point written as `cs`: hexadecimal digits, perhaps behind a plus.
A surrogate is no character. -/
def codePoint? (cs : List Char) : Option Char := do
  let value ← hexValue? (if cs.head? = some '+' then cs.tail else cs)
  if value.isValidChar then some (Char.ofNat value) else none

/-- The character that a backslash makes of `c`. -/
def escape? (c : Char) : Option Char :=
  match c with
  | '"' => some '"'
  | '\\' => some '\\'
  | '/' => some '/'
  | 'b' => some '\x10'
  | 'f' => some '\x0C'
  | 'n' => some '\n'
  | 'r' => some '\r'
  | 't' => some '\t'
  | _ => none

/-- The value of the text between two quotes.  After `\u` four characters give the code point. -/
def unescape? : List Char → Option (List Char)
  | [] => some []
  | '\\' :: 'u' :: a :: b :: c :: d :: rest => do
      let char ← codePoint? [a, b, c, d]
      return char :: (← unescape? rest)
  | '\\' :: e :: rest => do
      let char ← escape? e
      return char :: (← unescape? rest)
  | ['\\'] => none
  | c :: rest => do return c :: (← unescape? rest)

/-- A text with the backslash taken away from every escaped triple quote. -/
def unescapeTripleQuotes : List Char → List Char
  | '\\' :: '"' :: '"' :: '"' :: rest => '"' :: '"' :: '"' :: unescapeTripleQuotes rest
  | c :: rest => c :: unescapeTripleQuotes rest
  | [] => []

/-- Whether a line holds nothing but white space. -/
def isBlankLine (line : List Char) : Bool :=
  line.all Text.isBlank

/-- The indentation of a line in bytes. -/
def indentation (line : List Char) : Nat :=
  Text.byteLength (line.takeWhile Text.isBlank)

/-- The least indentation of the lines that are not blank. -/
def commonIndentation (lines : List (List Char)) : Option Nat :=
  ((lines.filter fun line => !isBlankLine line).map indentation).min?

/-- A line without the common indentation, if it is as long as that. -/
def unindent (common : Option Nat) (line : List Char) : List Char :=
  match common with
  | none => line
  | some bytes => if bytes ≤ Text.byteLength line then Text.dropBytes bytes line else line

/-- Lines without the blank ones at both ends. -/
def dropBlankEnds (lines : List (List Char)) : List (List Char) :=
  ((lines.dropWhile isBlankLine).reverse.dropWhile isBlankLine).reverse

/-- The value of the text between two triple quotes. -/
def blockValue (cs : List Char) : List Char :=
  match Text.lines cs with
  | [] => []
  | first :: others =>
      -- the first line begins behind the quotes and has no indentation to lose
      let unindented := first :: others.map (unindent (commonIndentation others))
      Text.joinLines ((dropBlankEnds unindented).map unescapeTripleQuotes)

end QueryWeave.GraphQL
