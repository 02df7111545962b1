/-
**Cutting a document into tokens.**

Between tokens white space, commas, byte order marks and comments are ignored.  Cutting goes on
until the end of the text or until a place where no token begins; the tokens up to there are kept,
each with the ignored text in front of it and its own text, from which its line and column can be
told.  No more than fifty brackets may be open at a time.

Main definitions:

* `QueryWeave.GraphQL.splitGap` — the ignored text in front of a token;
* `QueryWeave.GraphQL.scanToken` — the token at the front of a text;
* `QueryWeave.GraphQL.Scan`, `QueryWeave.GraphQL.scan` — a whole text cut into tokens;
* `QueryWeave.GraphQL.Position`, `QueryWeave.GraphQL.Scan.position` — where a token stands.

Main results:

* `QueryWeave.GraphQL.splitGap_append`, `QueryWeave.GraphQL.append_of_scanToken` — nothing is lost
  in cutting.
-/

import QueryWeave.GraphQL.Token

set_option relaxedAutoImplicit false
set_option autoImplicit false

namespace QueryWeave.GraphQL

/-! ### Ignored text -/

/-- Whether `c` is ignored between tokens. -/
def isIgnored (c : Char) : Bool :=
  c == ' ' || c == ',' || c == '\n' || c == '\r' || c == '\t' || c == '\uFEFF'

mutual
/-- The ignored text at the front of a text, and what comes behind it. -/
def splitGap : List Char → List Char × List Char
  | [] => ([], [])
  | c :: cs =>
      if isIgnored c then
        let (gap, rest) := splitGap cs
        (c :: gap, rest)
      else if c = '#' then
        let (gap, rest) := splitComment cs
        (c :: gap, rest)
      else ([], c :: cs)
/-- The same within a comment, which a line feed or a carriage return ends. -/
def splitComment : List Char → List Char × List Char
  | [] => ([], [])
  | c :: cs =>
      if c = '\n' ∨ c = '\r' then
        let (gap, rest) := splitGap cs
        (c :: gap, rest)
      else
        let (gap, rest) := splitComment cs
        (c :: gap, rest)
end

mutual
/-- The ignored text and the rest make up the whole. -/
theorem splitGap_append (cs : List Char) : (splitGap cs).1 ++ (splitGap cs).2 = cs := by
  cases cs with
  | nil => rfl
  | cons c cs =>
      unfold splitGap
      split
      · simpa using splitGap_append cs
      · split
        · simpa using splitComment_append cs
        · rfl
theorem splitComment_append (cs : List Char) :
    (splitComment cs).1 ++ (splitComment cs).2 = cs := by
  cases cs with
  | nil => rfl
  | cons c cs =>
      unfold splitComment
      split
      · simpa using splitGap_append cs
      · simpa using splitComment_append cs
end

/-! ### One token -/

/-- A token cut off the front of a text: the token, the text it was made from, and the rest. -/
structure Scanned where
  token : Token
  text : List Char
  rest : List Char

/-- Whether a name can begin with `c`. -/
def isNameStart (c : Char) : Bool :=
  c.isAlpha || c == '_'

/-- Whether a name can go on with `c`. -/
def isNameChar (c : Char) : Bool :=
  c.isAlphanum || c == '_'

/-- Whether a number cannot go on with `c`. -/
def isNumberEnd (c : Char) : Bool :=
  c == ' ' || c == '\n' || c == '\r' || c == '\t' || c == ',' || c == '#' ||
    (Token.punctuator? c).isSome

/-- The text up to the quote that ends a string, and the text behind that quote.  A quote after a
backslash does not end it, and a line feed must not come before the end. -/
def splitString : List Char → Option (List Char × List Char)
  | [] => none
  | '"' :: rest => some ([], rest)
  | '\n' :: _ => none
  -- a backslash does not help a line feed
  | '\\' :: '\n' :: _ => none
  | '\\' :: c :: rest => (splitString rest).map fun cut => ('\\' :: c :: cut.1, cut.2)
  | c :: rest => (splitString rest).map fun cut => (c :: cut.1, cut.2)

/-- The text up to the triple quote that ends a block string, and the text behind it.  A triple
quote right after a backslash does not end it; `escaped` tells whether such a backslash came just
before. -/
def splitBlock (escaped : Bool) : List Char → Option (List Char × List Char)
  | [] => none
  | '"' :: '"' :: '"' :: rest =>
      if escaped then (splitBlock false rest).map fun cut => ('"' :: '"' :: '"' :: cut.1, cut.2)
      else some ([], rest)
  | c :: rest => (splitBlock (c == '\\') rest).map fun cut => (c :: cut.1, cut.2)

theorem append_of_splitString {cs content rest : List Char}
    (h : splitString cs = some (content, rest)) : content ++ '"' :: rest = cs := by
  fun_induction splitString cs generalizing content with
  | case1 => simp at h
  | case2 => simp_all
  | case3 => simp at h
  | case4 => simp at h
  | case5 c cs _ ih =>
      obtain ⟨⟨a, b⟩, hab, heq⟩ := Option.map_eq_some_iff.1 h
      obtain ⟨rfl, rfl⟩ : '\\' :: c :: a = content ∧ b = rest := by simpa using heq
      simp [ih hab]
  | case6 c cs _ _ _ _ ih =>
      obtain ⟨⟨a, b⟩, hab, heq⟩ := Option.map_eq_some_iff.1 h
      obtain ⟨rfl, rfl⟩ : c :: a = content ∧ b = rest := by simpa using heq
      simp [ih hab]

theorem append_of_splitBlock {escaped : Bool} {cs content rest : List Char}
    (h : splitBlock escaped cs = some (content, rest)) :
    content ++ '"' :: '"' :: '"' :: rest = cs := by
  fun_induction splitBlock escaped cs generalizing content with
  | case1 => simp at h
  | case2 cs ih =>
      obtain ⟨⟨a, b⟩, hab, heq⟩ := Option.map_eq_some_iff.1 h
      obtain ⟨rfl, rfl⟩ : '"' :: '"' :: '"' :: a = content ∧ b = rest := by simpa using heq
      simp [ih hab]
  | case3 => simp_all
  | case4 _ c cs _ ih =>
      obtain ⟨⟨a, b⟩, hab, heq⟩ := Option.map_eq_some_iff.1 h
      obtain ⟨rfl, rfl⟩ : c :: a = content ∧ b = rest := by simpa using heq
      simp [ih hab]

/-- The string token behind an opening quote; `cs` is the text behind that quote. -/
def scanString (cs : List Char) : Option Scanned :=
  match cs with
  -- two more quotes make it a block string
  | '"' :: '"' :: inner => do
      let (content, rest) ← splitBlock false inner
      return ⟨.string (String.ofList (blockValue content)),
        '"' :: '"' :: '"' :: content ++ ['"', '"', '"'], rest⟩
  | _ => do
      let (content, rest) ← splitString cs
      let value ← unescape? content
      return ⟨.string (String.ofList value), '"' :: content ++ ['"'], rest⟩

/-- The token at the front of a text that begins with nothing ignored. -/
def scanToken : List Char → Option Scanned
  | [] => none
  | '.' :: '.' :: '.' :: rest => some ⟨.ellipsis, ['.', '.', '.'], rest⟩
  | '"' :: cs => scanString cs
  | c :: cs =>
      match Token.punctuator? c with
      | some token => some ⟨token, [c], cs⟩
      | none =>
          if isNameStart c then
            let text := c :: cs.takeWhile isNameChar
            some ⟨.name (String.ofList text), text, cs.dropWhile isNameChar⟩
          else if c = '-' ∨ c.isDigit then
            let text := c :: cs.takeWhile fun d => !isNumberEnd d
            (numberToken? text).map fun token =>
              ⟨token, text, cs.dropWhile fun d => !isNumberEnd d⟩
          else none

/-- The text of a token and the rest make up the whole, and the text is not empty. -/
theorem append_of_scanToken {cs : List Char} {s : Scanned} (h : scanToken cs = some s) :
    s.text ++ s.rest = cs ∧ s.text ≠ [] := by
  unfold scanToken at h
  split at h
  · simp at h
  · simp only [Option.some.injEq] at h
    subst h
    simp
  · unfold scanString at h
    split at h
    · simp only [Option.bind_eq_bind, Option.bind_eq_some_iff, Option.pure_def,
        Option.some.injEq] at h
      obtain ⟨⟨content, rest⟩, hcut, rfl⟩ := h
      simp [← append_of_splitBlock hcut]
    · simp only [Option.bind_eq_bind, Option.bind_eq_some_iff, Option.pure_def,
        Option.some.injEq] at h
      obtain ⟨⟨content, rest⟩, hcut, value, -, rfl⟩ := h
      simp [← append_of_splitString hcut]
  · split at h
    · simp only [Option.some.injEq] at h
      subst h
      simp
    · split at h
      · simp only [Option.some.injEq] at h
        subst h
        simp
      · split at h
        · obtain ⟨token, -, rfl⟩ := Option.map_eq_some_iff.1 h
          simp
        · simp at h

/-- Behind a token there is less text than in front of the gap before it. -/
theorem length_rest_lt {cs : List Char} {s : Scanned}
    (h : scanToken (splitGap cs).2 = some s) : s.rest.length < cs.length := by
  have hgap := congrArg List.length (splitGap_append cs)
  obtain ⟨htoken, htext⟩ := append_of_scanToken h
  have htoken := congrArg List.length htoken
  have htext := List.length_pos_iff.2 htext
  simp only [List.length_append] at hgap htoken
  omega

/-! ### A whole text -/

/-- A token with the text it was made from and the ignored text in front of it. -/
structure Lexeme where
  gap : List Char
  text : List Char
  token : Token

/-- A text cut into tokens: the tokens, the ignored text behind the last of them, and whether the
text ends there. -/
structure Scan where
  lexemes : List Lexeme
  gap : List Char
  complete : Bool

/-- The greatest number of brackets that may be open at a time. -/
def maxOpenBrackets : Nat := 50

/-- The number of open brackets behind a token, if it is allowed. -/
def openBracketsAfter (opened : Nat) (token : Token) : Option Nat :=
  if token.isOpening then if opened < maxOpenBrackets then some (opened + 1) else none
  else if token.isClosing then some (opened - 1)
  else some opened

/-- Cuts a text in front of which `opened` brackets are open. -/
def scanFrom (opened : Nat) (cs : List Char) : Scan :=
  let cut := splitGap cs
  match hs : scanToken cut.2 with
  | none => ⟨[], cut.1, cut.2.isEmpty⟩
  | some s =>
      have : s.rest.length < cs.length := length_rest_lt hs
      match openBracketsAfter opened s.token with
      -- one bracket too many ends the tokens just as a place without a token does
      | none => ⟨[], cut.1, false⟩
      | some opened' =>
          let scan := scanFrom opened' s.rest
          ⟨⟨cut.1, s.text, s.token⟩ :: scan.lexemes, scan.gap, scan.complete⟩
termination_by cs.length

/-- Cuts a whole text. -/
def scan (cs : List Char) : Scan :=
  scanFrom 0 cs

/-- The tokens of a text. -/
def Scan.tokens (s : Scan) : List Token :=
  s.lexemes.map Lexeme.token

/-! ### Positions -/

/-- A place in a text; lines and columns count from one. -/
structure Position where
  line : Nat
  column : Nat
  deriving DecidableEq, Repr

namespace Position

/-- The start of a text. -/
def start : Position := ⟨1, 1⟩

/-- The start of the next line. -/
def nextLine (p : Position) : Position := ⟨p.line + 1, 1⟩

/-- The place `columns` to the right. -/
def right (p : Position) (columns : Nat) : Position := ⟨p.line, p.column + columns⟩

mutual
/-- The place behind ignored text.  A tabulator is eight columns wide, carriage returns and byte
order marks have no width, and a comment that the text ends in has none either. -/
def overGap (p : Position) : List Char → Position
  | [] => p
  | c :: cs =>
      if c = '#' then overComment p cs
      else if c = '\n' then overGap p.nextLine cs
      else if c = '\t' then overGap (p.right 8) cs
      else if c = ' ' ∨ c = ',' then overGap (p.right 1) cs
      else overGap p cs
/-- The same within a comment that began at `p`; its end counts as a new line. -/
def overComment (p : Position) : List Char → Position
  | [] => p
  | c :: cs => if c = '\n' ∨ c = '\r' then overGap p.nextLine cs else overComment p cs
end

/-- The place behind the text of a token. -/
def overText (p : Position) (cs : List Char) : Position :=
  cs.foldl (fun q c => if c = '\n' then q.nextLine else q.right 1) p

end Position

/-- The place of the token number `index`, or behind all tokens, when cutting began at `p`. -/
def Scan.positionFrom (p : Position) (gap : List Char) : List Lexeme → Nat → Position
  | [], _ => p.overGap gap
  | lexeme :: _, 0 => p.overGap lexeme.gap
  | lexeme :: lexemes, index + 1 =>
      positionFrom ((p.overGap lexeme.gap).overText lexeme.text) gap lexemes index

/-- The place of the token number `index`; behind the last token, where cutting ended. -/
def Scan.position (s : Scan) (index : Nat) : Position :=
  Scan.positionFrom .start s.gap s.lexemes index

end QueryWeave.GraphQL
