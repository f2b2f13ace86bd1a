import PropertyFilter.Double.Nearest

/-!
# Doubles and integers of 64 bits

The order of the doubles, the parts of a double before and behind the point, and the conversions
between doubles and integers of 64 bits. Neither conversion fails: an integer with too many bits
is rounded, and a double loses what is behind the point and becomes the least or the greatest
integer if it lies beyond them.

## Main definitions

* `Double.units` — a double in units of a power of two
* `Double.truncate`, `Double.fraction` — a double before and behind the point
* `Double.ofInt64`, `Double.toInt64` — the conversions
* `Double.WithinInt64` — a double lies among the integers of 64 bits
-/

namespace PropertyFilter.Double

/-- A double in units of `2 ^ e`, where `e` is not above its own exponent. -/
def units (x : Double) (e : Int) : Int :=
  let n : Int := (x.significand * Nat.pow 2 (x.exponent - e).toNat : Nat)
  if x.negative then -n else n

/-- Two doubles are compared in units of the smaller of their powers of two. Both zeros are equal
in this order. -/
instance : LE Double where
  le x y := x.units (min x.exponent y.exponent) ≤ y.units (min x.exponent y.exponent)

instance : LT Double where
  lt x y := x.units (min x.exponent y.exponent) < y.units (min x.exponent y.exponent)

instance (x y : Double) : Decidable (x ≤ y) :=
  inferInstanceAs (Decidable (x.units _ ≤ y.units _))

instance (x y : Double) : Decidable (x < y) :=
  inferInstanceAs (Decidable (x.units _ < y.units _))

/-- The integer that is left of a double without the digits behind the point. -/
def truncate (x : Double) : Int :=
  let n : Int := (x.significand * Nat.pow 2 x.exponent.toNat / Nat.pow 2 (-x.exponent).toNat : Nat)
  if x.negative then -n else n

/-- What is behind the point of a double, in units of its own power of two. -/
def fraction (x : Double) : Nat := x.significand % Nat.pow 2 (-x.exponent).toNat

/-- The double nearest to an integer of 64 bits, none of which is beyond the largest double. -/
def ofInt64 (n : Int64) : Double :=
  (nearest? (n.toInt < 0) n.toInt.natAbs 1).getD (zero false)

/-- The integer of 64 bits that a double becomes. What is behind the point is dropped, and from
the ends of the integers on it is the end. -/
def toInt64 (x : Double) : Int64 := .ofIntClamp x.truncate

/-- Whether a double lies among the integers of 64 bits. Their ends are compared as doubles: the
least is one, and the greatest is rounded up to a power of two, which is itself excluded. -/
def WithinInt64 (x : Double) : Prop := ofInt64 Int64.minValue ≤ x ∧ x < ofInt64 Int64.maxValue

instance (x : Double) : Decidable x.WithinInt64 := inferInstanceAs (Decidable (_ ∧ _))

end PropertyFilter.Double
