/-!
# Finite doubles

The finite numbers of the 64-bit binary format, as exact data: a sign, a significand and a
power of two. Both zeros are kept apart by their sign. No arithmetic of the machine is used,
so every statement about these numbers is one about integers.

## Main definitions

* `Double` — a sign, a significand and an exponent in canonical form
* `Double.ofParts?` — the double with the given parts, if there is one
-/

namespace PropertyFilter

/-- Significand and exponent of a double: 53 bits, of which the highest is set unless the
exponent is the smallest one. -/
def Double.Canonical (significand : Nat) (exponent : Int) : Prop :=
  significand < Nat.pow 2 53 ∧ -1074 ≤ exponent ∧ exponent ≤ 971 ∧
    (Nat.pow 2 52 ≤ significand ∨ exponent = -1074)

instance (m : Nat) (e : Int) : Decidable (Double.Canonical m e) := by
  unfold Double.Canonical
  infer_instance

/-- A finite double: the number `± significand · 2 ^ exponent`. -/
structure Double where
  /-- Whether the number carries a minus sign. -/
  negative : Bool
  /-- The absolute value in units of `2 ^ exponent`. -/
  significand : Nat
  /-- The power of two that the significand counts. -/
  exponent : Int
  /-- Each number has one form. -/
  canonical : Double.Canonical significand exponent

namespace Double

deriving instance DecidableEq for Double

/-- Zero, with a sign. -/
def zero (negative : Bool) : Double := ⟨negative, 0, -1074, by decide⟩

instance : Inhabited Double := ⟨zero false⟩

/-- The double with the given parts, if they are in canonical form. -/
def ofParts? (negative : Bool) (significand : Nat) (exponent : Int) : Option Double :=
  if h : Canonical significand exponent then some ⟨negative, significand, exponent, h⟩ else none

end Double

end PropertyFilter
