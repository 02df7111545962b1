/-
**Texts in UTF-8.**

Reading bytes as UTF-8 either gives a text or finds the first place where the bytes are no text.  A
fault is described by the offset where the bad character starts and by the number of bytes from
there that could still have started a character; that number is missing when the bytes end inside a
character that was sound so far.

The names of files are bytes that need not be UTF-8.  They are read to their end: what is no text
falls into stray pieces, each as long as it could still have started a character, and a piece that
is stray is shown as one replacement character.

Main definitions:

* `QueryWeave.Text.Utf8Fault`, `QueryWeave.Text.Utf8Fault.message` — where and how bytes fail;
* `QueryWeave.Text.decodeUtf8` — the text of some bytes;
* `QueryWeave.RawText` — bytes that need not be a text, and `QueryWeave.Text.bytes` — those of a
  text;
* `QueryWeave.RawText.pieces` — their characters and stray pieces;
* `QueryWeave.RawText.text` — the text that they are shown as.
-/

set_option relaxedAutoImplicit false
set_option autoImplicit false

namespace QueryWeave

namespace Text

/-! ### Reading a text -/

/-- The first place where bytes are not UTF-8.  `width` is the number of bytes, one to three, that
could have started a character; it is missing when the bytes end too early. -/
structure Utf8Fault where
  offset : Nat
  width : Option Nat
  deriving DecidableEq, Repr

/-- How a fault is told to the user. -/
def Utf8Fault.message (fault : Utf8Fault) : String :=
  match fault.width with
  | some width => s!"invalid utf-8 sequence of {width} bytes from index {fault.offset}"
  | none => s!"incomplete utf-8 byte sequence from index {fault.offset}"

/-- A character of which only the first bytes have been read: how many they are, the bits they
give, how many bytes are still to come, and the range in which the next of them has to lie. -/
structure PartialChar where
  seen : Nat
  bits : Nat
  missing : Nat
  low : Nat
  high : Nat

/-- What the first byte `b ≥ 0x80` of a character announces.  The ranges for the second byte leave
out the overlong forms, the surrogates and everything above U+10FFFF. -/
def PartialChar.ofLead (b : Nat) : Option PartialChar :=
  if 0xC2 ≤ b ∧ b ≤ 0xDF then some ⟨1, b % 0x20, 1, 0x80, 0xBF⟩
  else if b = 0xE0 then some ⟨1, b % 0x10, 2, 0xA0, 0xBF⟩
  else if b = 0xED then some ⟨1, b % 0x10, 2, 0x80, 0x9F⟩
  else if 0xE1 ≤ b ∧ b ≤ 0xEF then some ⟨1, b % 0x10, 2, 0x80, 0xBF⟩
  else if b = 0xF0 then some ⟨1, b % 0x08, 3, 0x90, 0xBF⟩
  else if 0xF1 ≤ b ∧ b ≤ 0xF3 then some ⟨1, b % 0x08, 3, 0x80, 0xBF⟩
  else if b = 0xF4 then some ⟨1, b % 0x08, 3, 0x80, 0x8F⟩
  else none

/-- The partial character after one more byte `b`; the bytes from the third on are 0x80 to 0xBF. -/
def PartialChar.push (p : PartialChar) (b : Nat) : PartialChar :=
  ⟨p.seen + 1, p.bits * 0x40 + b % 0x40, p.missing - 1, 0x80, 0xBF⟩

/-- The characters of `bytes`, the first of which stands at `offset` unless a character begun there
is still open. -/
def decodeUtf8From (offset : Nat) : Option PartialChar → List UInt8 → Except Utf8Fault (List Char)
  | none, [] => .ok []
  | some _, [] => .error ⟨offset, none⟩
  | none, b :: bytes =>
      if b.toNat < 0x80 then
        (Char.ofNat b.toNat :: ·) <$> decodeUtf8From (offset + 1) none bytes
      else
        match PartialChar.ofLead b.toNat with
        | some p => decodeUtf8From offset (some p) bytes
        | none => .error ⟨offset, some 1⟩
  | some p, b :: bytes =>
      if p.low ≤ b.toNat ∧ b.toNat ≤ p.high then
        let p' := p.push b.toNat
        if p'.missing = 0 then
          (Char.ofNat p'.bits :: ·) <$> decodeUtf8From (offset + p'.seen) none bytes
        else decodeUtf8From offset (some p') bytes
      else .error ⟨offset, some p.seen⟩

/-- The text that `bytes` encode. -/
def decodeUtf8 (bytes : List UInt8) : Except Utf8Fault String :=
  String.ofList <$> decodeUtf8From 0 none bytes

/-! ### Raw texts -/

/-- What stands in bytes that are read as UTF-8: a character, or stray bytes that make up none. -/
inductive Utf8Piece where
  | char (c : Char)
  | stray (bytes : List UInt8)
  deriving DecidableEq, Repr

/-- A character that has begun, with its bytes so far. -/
abbrev OpenChar : Type := PartialChar × List UInt8

/-- What a byte is where no character is open: a piece, or the beginning of a character. -/
def openPiece (b : UInt8) : List Utf8Piece × Option OpenChar :=
  if b.toNat < 0x80 then ([.char (Char.ofNat b.toNat)], none)
  else
    match PartialChar.ofLead b.toNat with
    | some p => ([], some (p, [b]))
    | none => ([.stray [b]], none)

/-- The pieces of `bytes`, which may go on with an open character.  A byte that cannot be its next
one ends it and is read anew. -/
def piecesFrom : Option OpenChar → List UInt8 → List Utf8Piece
  | none, [] => []
  | some (_, begun), [] => [.stray begun]
  | none, b :: bytes => (openPiece b).1 ++ piecesFrom (openPiece b).2 bytes
  | some (p, begun), b :: bytes =>
      if p.low ≤ b.toNat ∧ b.toNat ≤ p.high then
        let p' := p.push b.toNat
        if p'.missing = 0 then .char (Char.ofNat p'.bits) :: piecesFrom none bytes
        else piecesFrom (some (p', begun ++ [b])) bytes
      else .stray begun :: ((openPiece b).1 ++ piecesFrom (openPiece b).2 bytes)

/-- The character that a piece is shown as. -/
def Utf8Piece.shown : Utf8Piece → Char
  | .char c => c
  | .stray _ => '\ufffd'

end Text

/-- A text as a file system keeps it: bytes that need not be UTF-8. -/
abbrev RawText : Type := List UInt8

/-- The bytes of a text in UTF-8. -/
def Text.bytes (s : String) : RawText :=
  s.toUTF8.data.toList

namespace RawText

/-- The characters and the stray pieces of a raw text. -/
def pieces (raw : RawText) : List Text.Utf8Piece :=
  Text.piecesFrom none raw

/-- The text that a raw text is shown as. -/
def text (raw : RawText) : String :=
  String.ofList (raw.pieces.map Text.Utf8Piece.shown)

end RawText

end QueryWeave
