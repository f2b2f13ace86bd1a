import PropertyFilter.Double

/-!
# The shortest digits of a double

Every double is the nearest one to a whole interval of numbers. Among the decimal numbers of
that interval the ones with fewest digits are looked for, and of those the nearest to the
double is its decimal form; halfway between two, the larger.

## Main definitions

* `Double.Interval`, `Double.interval` — the numbers that round to a double
* `Double.decimalOrder` — the power of ten just above a double
* `Double.shortest` — the digits, and the place of the decimal point
-/

namespace PropertyFilter.Double

/-- Numbers from `low · 2 ^ unit` to `high · 2 ^ unit`. -/
structure Interval where
  /-- The lower end. -/
  low : Nat
  /-- The upper end. -/
  high : Nat
  /-- The power of two that the ends count. -/
  unit : Int
  /-- Whether the ends belong to the interval. -/
  closed : Bool

/-- The numbers that round to `m · 2 ^ e`. Below a power of two the doubles lie twice as close
together; the ends go to the double with the even significand. -/
def interval (m : Nat) (e : Int) : Interval :=
  let below := if m = Nat.pow 2 52 ∧ -1074 < e then 1 else 2
  ⟨4 * m - below, 4 * m + 2, e - 2, m % 2 == 0⟩

/-- Compares `a · 10 ^ s` with `b · 2 ^ t`. -/
def compareScaled (a : Nat) (s : Int) (b : Nat) (t : Int) : Ordering :=
  compare (a * Nat.pow 10 s.toNat * Nat.pow 2 (-t).toNat)
    (b * Nat.pow 2 t.toNat * Nat.pow 10 (-s).toNat)

/-- Whether `a · 10 ^ s` lies in an interval. -/
def Interval.contains (i : Interval) (a : Nat) (s : Int) : Bool :=
  let fromLow := compareScaled a s i.low i.unit
  let fromHigh := compareScaled a s i.high i.unit
  (fromLow == .gt || (i.closed && fromLow == .eq)) &&
    (fromHigh == .lt || (i.closed && fromHigh == .eq))

/-- The whole number of times that `10 ^ s` goes into `m · 2 ^ e`. -/
def floorAt (m : Nat) (e s : Int) : Nat :=
  m * Nat.pow 2 e.toNat * Nat.pow 10 (-s).toNat / (Nat.pow 2 (-e).toNat * Nat.pow 10 s.toNat)

/-- The least power of ten above `m · 2 ^ e`, for a positive number: the number of digits before
the point, or the negated number of zeros after it. -/
def decimalOrder (m : Nat) (e : Int) : Int :=
  let whole := floorAt m e 0
  if whole ≠ 0 then (Nat.toDigits 10 whole).length
  else
    -- The number is below one; its order is read off its inverse, rounded up.
    let inverse := (Nat.pow 2 (-e).toNat + m - 1) / m
    1 - ((Nat.toDigits 10 (inverse - 1)).length : Int)

/-- The multiple of `10 ^ s` that stands for `m · 2 ^ e`, if one lies in its interval. -/
def candidate? (m : Nat) (e s : Int) : Option Nat :=
  let i := interval m e
  let f := floorAt m e s
  match i.contains f s, i.contains (f + 1) s with
  | true, true =>
    -- The middle between the two is `(2 f + 1) · 10 ^ s / 2`.
    if compareScaled (2 * f + 1) s m (e + 1) == .gt then some f else some (f + 1)
  | true, false => some f
  | false, true => some (f + 1)
  | false, false => none

/-- Decimal digits `d₁ d₂ …` and a place for the point: the number `0.d₁d₂… · 10 ^ point`. -/
structure Digits where
  /-- The digits, without zeros at the end. -/
  digits : List Char
  /-- How many of them, or of the zeros around them, stand before the point. -/
  point : Int
deriving DecidableEq

/-- The digits of `n · 10 ^ s`. -/
def Digits.ofScaled (n : Nat) (s : Int) : Digits :=
  let all := Nat.toDigits 10 n
  ⟨(all.reverse.dropWhile (· == '0')).reverse, all.length + s⟩

/-- The digits of the absolute value of a double. Seventeen digits are always enough. -/
def shortest (x : Double) : Digits :=
  if x.significand = 0 then ⟨['0'], 1⟩
  else
    let order := decimalOrder x.significand x.exponent
    let grid := fun (count : Nat) => order - 1 - count
    let found := (List.range 17).findSome? fun count =>
      (candidate? x.significand x.exponent (grid count)).map fun n => Digits.ofScaled n (grid count)
    found.getD (Digits.ofScaled (floorAt x.significand x.exponent (grid 16)) (grid 16))

end PropertyFilter.Double
