/-
**Floating-point numbers and their decimals.**

A number in a binary format is a significand of limited length times a power of two, or an infinity,
or no number at all.  Any ratio of natural numbers is brought into a format by rounding it to the
nearest number there, and to the one with the even significand of two that are equally near.

The text of a number is a sign, digits with a decimal point among them, and an exponent; only the
digits have to be there, and they may stand on either side of the point.  Infinity and not-a-number
have names.  The number that is read is the one of the format nearest to the decimal.

A number is written with as few decimal digits as it takes to tell it from its neighbours.  Around
the number lies the interval of all reals that are rounded to it; its ends belong to it when the
significand is even.  For one digit, two digits and so on the two decimals next to the number are
tried: the first length with a decimal in the interval wins, of two such decimals the nearer one,
and of two that are equally near the upper one.  There is never an exponent in the text, and no
decimal point behind a whole number.

Main definitions:

* `QueryWeave.Decimal.BinaryFormat`, with `single` and `double` — the formats of 32 and of 64 bits;
* `QueryWeave.Decimal.Number` — the numbers;
* `QueryWeave.Decimal.BinaryFormat.round` — a ratio rounded into a format;
* `QueryWeave.Decimal.DecimalText` — the parts of a decimal;
* `QueryWeave.Decimal.Number.read` — the number for a text;
* `QueryWeave.Decimal.Interval.shortest` — the shortest decimal of a number;
* `QueryWeave.Decimal.Number.text` — the text of a number.
-/

set_option relaxedAutoImplicit false
set_option autoImplicit false

namespace QueryWeave.Decimal

/-! ### Binary formats -/

/-- A format is given by the length of its significands in bits and by the least and the greatest
exponent that the unit in the last place of a significand can have. -/
structure BinaryFormat where
  precision : Nat
  minExponent : Int
  maxExponent : Int

/-- The format of 32 bits. -/
def BinaryFormat.single : BinaryFormat := ⟨24, -149, 104⟩

/-- The format of 64 bits. -/
def BinaryFormat.double : BinaryFormat := ⟨53, -1074, 971⟩

/-- A floating-point number; the finite ones are `± significand * 2 ^ exponent`. -/
inductive Number where
  | finite (negative : Bool) (significand : Nat) (exponent : Int)
  | infinite (negative : Bool)
  | nan
  deriving DecidableEq, Repr

/-- The ratio `n / d * 2 ^ q` as a ratio of natural numbers. -/
def timesPowTwo (n d : Nat) (q : Int) : Nat × Nat :=
  if 0 ≤ q then (n * Nat.pow 2 q.toNat, d) else (n, d * Nat.pow 2 (-q).toNat)

/-- The integer nearest to `n / d`, the even one of two that are equally near. -/
def roundDivEven (n d : Nat) : Nat :=
  if 2 * (n % d) < d then n / d
  else if d < 2 * (n % d) then n / d + 1
  else if n / d % 2 = 0 then n / d
  else n / d + 1

namespace BinaryFormat

/-- The exponent under which the positive ratio `n / d` has a significand of full length, or the
least exponent of the format if it is smaller than that. -/
def exponentFor (format : BinaryFormat) (n d : Nat) : Int :=
  let candidate := max format.minExponent ((n.log2 : Int) - d.log2 - format.precision)
  let (n', d') := timesPowTwo n d (-candidate)
  if n' / d' < Nat.pow 2 format.precision then candidate else candidate + 1

/-- The number `± significand * 2 ^ exponent`; a significand one unit too large for the format is
even then, and numbers beyond the greatest exponent are infinite. -/
def pack (format : BinaryFormat) (negative : Bool) (significand : Nat) (exponent : Int) : Number :=
  let (m, e) :=
    if significand = Nat.pow 2 format.precision then
      (Nat.pow 2 (format.precision - 1), exponent + 1)
    else (significand, exponent)
  if format.maxExponent < e then .infinite negative else .finite negative m e

/-- The number of the format that is nearest to `± n / d`. -/
def round (format : BinaryFormat) (negative : Bool) (n d : Nat) : Number :=
  if n = 0 then .finite negative 0 format.minExponent
  else
    let exponent := format.exponentFor n d
    let (n', d') := timesPowTwo n d (-exponent)
    format.pack negative (roundDivEven n' d') exponent

end BinaryFormat

/-! ### Reading -/

/-- The value of a list of decimal digits. -/
def digitsValue (digits : List Char) : Nat :=
  digits.foldl (fun value digit => 10 * value + (digit.toNat - 48)) 0

/-- A decimal number `digits * 10 ^ exponent`, the digits given as characters. -/
structure DecimalText where
  digits : List Char
  exponent : Int

/-- Takes a sign off the front of a text. -/
def takeSign : List Char → Bool × List Char
  | '-' :: rest => (true, rest)
  | '+' :: rest => (false, rest)
  | rest => (false, rest)

/-- The value of a signed whole number. -/
def readInteger? (cs : List Char) : Option Int :=
  let (negative, digits) := takeSign cs
  if digits = [] ∨ !digits.all Char.isDigit then none
  else some (if negative then -(digitsValue digits : Int) else digitsValue digits)

/-- The exponent that follows the digits: nothing, or a mark and a signed whole number. -/
def readExponent? : List Char → Option Int
  | [] => some 0
  | c :: rest => if c = 'e' ∨ c = 'E' then readInteger? rest else none

/-- Reads an unsigned decimal with an optional point and exponent. -/
def DecimalText.ofChars? (cs : List Char) : Option DecimalText :=
  let whole := cs.takeWhile Char.isDigit
  let behind := cs.dropWhile Char.isDigit
  let (fraction, rest) :=
    match behind with
    | '.' :: behindPoint => (behindPoint.takeWhile Char.isDigit, behindPoint.dropWhile Char.isDigit)
    | _ => ([], behind)
  if whole ++ fraction = [] then none
  else
    (readExponent? rest).map fun exponent => ⟨whole ++ fraction, exponent - fraction.length⟩

/-- The number of the format nearest to `± d`.  A decimal of more than 400 digits in front of the
point is infinite in all formats here, and one with more than 400 zeros behind the point is zero. -/
def DecimalText.round (format : BinaryFormat) (negative : Bool) (d : DecimalText) : Number :=
  let digits := d.digits.dropWhile (· == '0')
  let magnitude : Int := digits.length + d.exponent
  if digits = [] ∨ magnitude < -400 then .finite negative 0 format.minExponent
  else if 400 < magnitude then .infinite negative
  else if 0 ≤ d.exponent then
    format.round negative (digitsValue digits * Nat.pow 10 d.exponent.toNat) 1
  else format.round negative (digitsValue digits) (Nat.pow 10 (-d.exponent).toNat)

/-- The number of the given format that a text stands for. -/
def Number.read (format : BinaryFormat) (text : String) : Option Number :=
  let (negative, cs) := takeSign text.toList
  let name := (cs.map Char.toLower)
  if name = "inf".toList ∨ name = "infinity".toList then some (.infinite negative)
  else if name = "nan".toList then some .nan
  else (DecimalText.ofChars? cs).map (DecimalText.round format negative)

/-! ### The interval of a number -/

/-- A positive ratio `center / unit` with the ends `low / unit` and `high / unit` of the interval of
reals that are rounded to it; `closed` tells whether the ends belong to the interval. -/
structure Interval where
  low : Nat
  center : Nat
  high : Nat
  unit : Nat
  closed : Bool

/-- The interval around `m * 2 ^ e`.  Its ends lie halfway to the neighbours; below a power of two
the neighbour is only half as far away. -/
def BinaryFormat.interval (format : BinaryFormat) (m : Nat) (e : Int) : Interval :=
  let below := if m = Nat.pow 2 (format.precision - 1) ∧ format.minExponent < e then 1 else 2
  -- a quarter of the last binary place makes all three numbers whole
  let (scale, unit) := timesPowTwo 1 1 (e - 2)
  ⟨(4 * m - below) * scale, 4 * m * scale, (4 * m + 2) * scale, unit, m % 2 = 0⟩

/-! ### Decimals -/

/-- The ratio `n / d` over `10 ^ k`, as a ratio of natural numbers. -/
def overPowTen (n d : Nat) (k : Int) : Nat × Nat :=
  if 0 ≤ k then (n, d * Nat.pow 10 k.toNat) else (n * Nat.pow 10 (-k).toNat, d)

/-- The number of decimal digits of `n`. -/
def digitCount (n : Nat) : Nat :=
  (Nat.toDigits 10 n).length

/-- The exponent of the greatest power of ten that is at most the positive ratio `n / d`. -/
def decimalExponent (n d : Nat) : Int :=
  let estimate : Int := (digitCount n : Int) - digitCount d
  let (n', d') := overPowTen n d estimate
  if d' ≤ n' then estimate else estimate - 1

namespace Interval

/-- Whether the decimal `c * 10 ^ k` lies in the interval. -/
def contains (i : Interval) (c : Nat) (k : Int) : Bool :=
  let (low, unit) := overPowTen i.low i.unit k
  let (high, _) := overPowTen i.high i.unit k
  if i.closed then low ≤ c * unit && c * unit ≤ high else low < c * unit && c * unit < high

/-- The decimal of the form `c * 10 ^ k` that stands for the number, if one of the two next to the
number lies in the interval. -/
def decimalAt (i : Interval) (k : Int) : Option Nat :=
  let (n, d) := overPowTen i.center i.unit k
  let c := n / d
  match i.contains c k, i.contains (c + 1) k with
  | true, true => if 2 * (n % d) < d then some c else some (c + 1)
  | true, false => some c
  | false, true => some (c + 1)
  | false, false => none

/-- Tries decimals with ever more digits, beginning with the multiples of `10 ^ k`. -/
def refine (i : Interval) (k : Int) : Nat → Nat × Int
  | 0 => (i.center, 0)
  | tries + 1 =>
      match i.decimalAt k with
      | some c => (c, k)
      | none => i.refine (k - 1) tries

/-- The shortest decimal `c * 10 ^ k` for the number.  As many digits as the unit of the interval
has binary and decimal ones are always enough. -/
def shortest (i : Interval) : Nat × Int :=
  i.refine (decimalExponent i.center i.unit) (i.unit.log2 + digitCount i.center)

end Interval

/-! ### Writing -/

/-- The digits of `c` without the zeros at their end, and how many these were; `fuel` bounds
them. -/
def stripZeros (c : Nat) : Nat → Nat × Nat
  | 0 => (c, 0)
  | fuel + 1 =>
      if c % 10 = 0 then
        let (c', zeros) := stripZeros (c / 10) fuel
        (c', zeros + 1)
      else (c, 0)

/-- The positive decimal `c * 10 ^ k` without an exponent, and without zeros at the end of a
fraction. -/
def positional (c : Nat) (k : Int) : List Char :=
  let (c', zeros) := stripZeros c (digitCount c)
  let exponent := k + zeros
  let digits := Nat.toDigits 10 c'
  if 0 ≤ exponent then digits ++ List.replicate exponent.toNat '0'
  else
    let places := (-exponent).toNat
    if places < digits.length then
      digits.take (digits.length - places) ++ '.' :: digits.drop (digits.length - places)
    else ['0', '.'] ++ List.replicate (places - digits.length) '0' ++ digits

/-- The digits of the magnitude `m * 2 ^ e`. -/
def BinaryFormat.magnitudeText (format : BinaryFormat) (m : Nat) (e : Int) : List Char :=
  if m = 0 then ['0']
  else
    let (c, k) := (format.interval m e).shortest
    positional c k

/-- The text of a number of the given format.  The sign of zero is kept. -/
def Number.text (format : BinaryFormat) : Number → String
  | .finite negative m e =>
      String.ofList ((if negative then ['-'] else []) ++ format.magnitudeText m e)
  | .infinite negative => if negative then "-inf" else "inf"
  | .nan => "NaN"

end QueryWeave.Decimal
