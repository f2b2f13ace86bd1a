import PropertyFilter.Double.Nearest

/-!
# Decimal numbers

Numbers written with digits, an optional fraction and an optional exponent, and the doubles
that they denote.

## Main definitions

* `Decimal` — a sign, a natural number and a power of ten
* `Decimal.parse?` — the number that a text writes
* `Decimal.isPlain` — whether a text is made like a number, which words are not
* `Decimal.toDouble?` — the nearest double
-/

namespace PropertyFilter

/-- The number `± significand · 10 ^ scale`. -/
structure Decimal where
  /-- Whether a minus sign is written. -/
  negative : Bool
  /-- The digits before and after the point, read as one number. -/
  significand : Nat
  /-- The power of ten that the last digit counts. -/
  scale : Int
deriving DecidableEq, Repr

namespace Decimal

/-- Takes an optional sign off a text; whether it is a minus comes first. -/
def takeSign : List Char → Bool × List Char
  | '-' :: cs => (true, cs)
  | '+' :: cs => (false, cs)
  | cs => (false, cs)

/-- The number that a non-empty text of digits writes. -/
def natural? (cs : List Char) : Option Nat :=
  if !cs.isEmpty && cs.all Char.isDigit then some (Nat.ofDigitChars 10 cs 0) else none

/-- The integer that a text of digits with an optional sign writes. -/
def integer? (cs : List Char) : Option Int :=
  let (negative, digits) := takeSign cs
  (natural? digits).map fun n => if negative then -(n : Int) else n

/-- The power of ten after the digits: nothing, or a mark and an integer. -/
def exponent? : List Char → Option Int
  | [] => some 0
  | c :: cs => if c = 'e' || c = 'E' then integer? cs else none

/-- The number that a text writes: an optional sign, digits with an optional point among
them, before them or after them, and an optional exponent. -/
def parse? (cs : List Char) : Option Decimal :=
  let (negative, cs) := takeSign cs
  let whole := cs.takeWhile Char.isDigit
  let rest := cs.dropWhile Char.isDigit
  let (fraction, rest) :=
    match rest with
    | '.' :: rest => (rest.takeWhile Char.isDigit, rest.dropWhile Char.isDigit)
    | rest => ([], rest)
  if (whole ++ fraction).isEmpty then none
  else
    (exponent? rest).map fun e =>
      ⟨negative, Nat.ofDigitChars 10 (whole ++ fraction) 0, e - fraction.length⟩

/-- The characters that decimal numbers are made of. -/
def isPlainChar (c : Char) : Bool :=
  c.isDigit || c = '+' || c = '-' || c = '.' || c = 'e' || c = 'E'

/-- Whether a text has a digit, and nothing but characters that decimal numbers are made of. -/
def isPlain (cs : List Char) : Bool := cs.any Char.isDigit && cs.all isPlainChar

/-- The power of ten above the number: `10 ^ (order - 1) ≤ significand · 10 ^ scale < 10 ^ order`
for a number other than zero. -/
def order (d : Decimal) : Int := (Nat.toDigits 10 d.significand).length + d.scale

/-- The double nearest to a decimal number; none when that lies beyond the largest double.
Numbers with too many digits before the point are out of range and numbers with too many
zeros after it round to zero, so neither needs its power of ten written out. -/
def toDouble? (d : Decimal) : Option Double :=
  if d.significand = 0 then some (.zero d.negative)
  else if d.order > 310 then none
  else if d.order < -330 then some (.zero d.negative)
  else
    Double.nearest? d.negative (d.significand * Nat.pow 10 d.scale.toNat)
      (Nat.pow 10 (-d.scale).toNat)

end Decimal

end PropertyFilter
