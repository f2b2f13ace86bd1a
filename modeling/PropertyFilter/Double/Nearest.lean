import PropertyFilter.Double

/-!
# Rounding to the nearest double

The double nearest to a fraction of two natural numbers. Of two doubles at the same distance
the one with an even significand is taken; a fraction so large that rounding leaves the
format has none.

## Main definitions

* `Double.roundHalfEven` — the integer nearest to a fraction, a half going to the even side
* `Double.binaryOrder` — the power of two just below a fraction
* `Double.nearest?` — the nearest double
-/

namespace PropertyFilter.Double

/-- The integer nearest to `a / b`; halfway between two integers, the even one. -/
def roundHalfEven (a b : Nat) : Nat :=
  if 2 * (a % b) > b ∨ (2 * (a % b) = b ∧ a / b % 2 = 1) then a / b + 1 else a / b

/-- The largest power of two that is at most `num / den`, for positive numbers. -/
def binaryOrder (num den : Nat) : Int :=
  let guess : Int := (num.log2 : Int) - den.log2
  if num * Nat.pow 2 (-guess).toNat < den * Nat.pow 2 guess.toNat then guess - 1 else guess

/-- The double nearest to `± num / den`; none when that lies beyond the largest double. -/
def nearest? (negative : Bool) (num den : Nat) : Option Double :=
  if num = 0 then some (zero negative)
  else
    let e := max (-1074) (binaryOrder num den - 52)
    let m := roundHalfEven (num * Nat.pow 2 (-e).toNat) (den * Nat.pow 2 e.toNat)
    if m = Nat.pow 2 53 then ofParts? negative (Nat.pow 2 52) (e + 1) else ofParts? negative m e

end PropertyFilter.Double
