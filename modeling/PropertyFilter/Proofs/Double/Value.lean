import Mathlib.Algebra.Order.Field.Power
import Mathlib.Algebra.Ring.Parity
import Mathlib.Data.Rat.Cast.Order
import Mathlib.Tactic.FieldSimp
import Mathlib.Tactic.Linarith
import Mathlib.Tactic.Positivity
import Mathlib.Tactic.Ring
import PropertyFilter.Double

/-!
# The number that a double is

Every double is an exact rational number, and the doubles from a given exponent on lie on the
grid of the multiples of one power of two.

## Main definitions

* `signed` — a number with its sign
* `Double.magnitude`, `Double.value` — a double as a rational number, without and with its sign

## Main results

* `exists_value_eq_mul`, `magnitude_lt` — where the doubles lie with respect to a grid
* `eq_of_value_eq` — a double is given by its sign and the number that it is
* `exists_value_eq_intCast` — the integers of 53 bits are doubles
-/

namespace PropertyFilter

/-- A power with an integer exponent as a fraction of powers with natural exponents. -/
theorem zpow_eq_div {a : ℚ} (ha : a ≠ 0) (e : ℤ) : a ^ e = a ^ e.toNat / a ^ (-e).toNat := by
  rw [← zpow_natCast a e.toNat, ← zpow_natCast a (-e).toNat, ← zpow_sub₀ ha]
  congr 1
  omega

/-- A number with its sign. -/
def signed (negative : Bool) (r : ℚ) : ℚ := if negative then -r else r

section Signed

variable {negative : Bool} {r s : ℚ}

@[simp] theorem signed_zero : signed negative 0 = 0 := by
  cases negative <;> simp [signed]

@[simp] theorem signed_eq_zero : signed negative r = 0 ↔ r = 0 := by
  cases negative <;> simp [signed]

@[simp] theorem abs_signed : |signed negative r| = |r| := by
  cases negative <;> simp [signed]

theorem signed_abs (r : ℚ) : signed (decide (r < 0)) |r| = r := by
  unfold signed
  split_ifs with hneg
  · rw [abs_of_neg (by simpa using hneg), neg_neg]
  · rw [abs_of_nonneg (by simpa using hneg)]

theorem signed_add : signed negative (r + s) = signed negative r + signed negative s := by
  cases negative
  · rfl
  · exact neg_add r s

theorem signed_mul : signed negative (r * s) = signed negative r * s := by
  cases negative <;> simp [signed]

theorem signed_div : signed negative (r / s) = signed negative r / s := by
  rw [div_eq_mul_inv, signed_mul, ← div_eq_mul_inv]

end Signed

namespace Double

variable {x : Double}

/-- The absolute value of a double. -/
def magnitude (x : Double) : ℚ := x.significand * 2 ^ x.exponent

/-- The number that a double is. -/
def value (x : Double) : ℚ := signed x.negative x.magnitude

@[simp] theorem value_zero (negative : Bool) : (zero negative).value = 0 := by
  simp [value, magnitude, zero]

theorem magnitude_nonneg (x : Double) : 0 ≤ x.magnitude := by
  unfold magnitude
  positivity

@[simp] theorem abs_value (x : Double) : |x.value| = x.magnitude := by
  rw [value, abs_signed, abs_of_nonneg x.magnitude_nonneg]

theorem magnitude_eq_div (x : Double) :
    x.magnitude = x.significand * 2 ^ x.exponent.toNat / 2 ^ (-x.exponent).toNat := by
  rw [magnitude, zpow_eq_div two_ne_zero, mul_div_assoc]

/-! ### Doubles and grids -/

/-- A double in units of a smaller power of two has the significand with its bits moved up by the
difference of the exponents. -/
theorem magnitude_eq_mul {e : ℤ} (h : e ≤ x.exponent) :
    x.magnitude = ((x.significand * 2 ^ (x.exponent - e).toNat : ℕ) : ℤ) * 2 ^ e := by
  rw [magnitude, show x.exponent = (x.exponent - e).toNat + e by omega,
    zpow_add₀ two_ne_zero, zpow_natCast]
  push_cast
  rw [mul_assoc, show ((x.exponent - e).toNat + e - e).toNat = (x.exponent - e).toNat by omega]

/-- From an exponent on, doubles are multiples of one power of two. An odd multiple has an odd
significand. -/
theorem exists_value_eq_mul {e : ℤ} (h : e ≤ x.exponent) :
    ∃ k : ℤ, x.value = k * 2 ^ e ∧ (Odd k → Odd x.significand) := by
  have hmagnitude := x.magnitude_eq_mul h
  have hodd : Odd (x.significand * 2 ^ (x.exponent - e).toNat) → Odd x.significand :=
    fun hodd => (Nat.odd_mul.1 hodd).1
  unfold value signed
  split
  · refine ⟨-(x.significand * 2 ^ (x.exponent - e).toNat : ℕ), ?_, fun h => hodd ?_⟩
    · rw [hmagnitude, Int.cast_neg, neg_mul]
    · exact_mod_cast odd_neg.1 h
  · exact ⟨_, hmagnitude, fun h => hodd (by exact_mod_cast h)⟩

/-- Below an exponent, doubles are less than `2 ^ 52` of its powers of two. -/
theorem magnitude_lt {e : ℤ} (h : x.exponent < e) : x.magnitude < 2 ^ 52 * 2 ^ e := by
  have hsignificand : (x.significand : ℚ) < 2 ^ 53 := by exact_mod_cast x.canonical.1
  calc x.magnitude < 2 ^ 53 * 2 ^ x.exponent :=
        mul_lt_mul_of_pos_right hsignificand (by positivity)
    _ ≤ 2 ^ 53 * 2 ^ (e - 1) :=
        mul_le_mul_of_nonneg_left (zpow_le_zpow_right₀ one_le_two (by omega)) (by positivity)
    _ = 2 ^ 52 * 2 ^ e := by
        rw [zpow_sub_one₀ two_ne_zero]
        ring

/-- A double is given by its sign and the number that it is. -/
theorem eq_of_value_eq {y : Double} (hnegative : x.negative = y.negative)
    (hvalue : x.value = y.value) : x = y := by
  have hmagnitude : x.magnitude = y.magnitude := by rw [← abs_value, hvalue, abs_value]
  -- of two exponents the larger belongs to a double of 53 bits, and all others below lie below it
  have hle {a b : Double} (h : a.magnitude = b.magnitude) : b.exponent ≤ a.exponent := by
    by_contra! hlt
    have hsignificand : (2 : ℚ) ^ 52 ≤ b.significand := by
      have := b.canonical.2.2.2.resolve_right (a.canonical.2.1.trans_lt hlt).ne'
      exact_mod_cast this
    have hlow : 2 ^ 52 * 2 ^ b.exponent ≤ b.magnitude :=
      mul_le_mul_of_nonneg_right hsignificand (by positivity)
    exact absurd (magnitude_lt hlt) (not_lt.2 (h ▸ hlow))
  have hexponent : x.exponent = y.exponent := le_antisymm (hle hmagnitude.symm) (hle hmagnitude)
  have hsignificand : x.significand = y.significand := by
    rw [magnitude, magnitude, hexponent, mul_left_inj' (by positivity)] at hmagnitude
    exact_mod_cast hmagnitude
  obtain ⟨_, _, _, _⟩ := x
  obtain ⟨_, _, _, _⟩ := y
  obtain rfl := hnegative
  obtain rfl := hexponent
  obtain rfl := hsignificand
  rfl

/-- Each integer of at most 53 bits is a double. -/
theorem exists_value_eq_intCast {n : ℤ} (h : n.natAbs < 2 ^ 53) : ∃ x : Double, x.value = n := by
  by_cases hzero : n = 0
  · exact ⟨zero false, by rw [value_zero, hzero, Int.cast_zero]⟩
  -- the digits are moved up until the highest is that of `2 ^ 52`
  let shift := 52 - n.natAbs.log2
  have hlow : 2 ^ n.natAbs.log2 ≤ n.natAbs := Nat.log2_self_le (by omega)
  have hhigh : n.natAbs < 2 ^ (n.natAbs.log2 + 1) := Nat.lt_log2_self
  have hlog : n.natAbs.log2 ≤ 52 := by
    by_contra hlog
    exact absurd (Nat.pow_le_pow_right two_pos (by omega : 53 ≤ n.natAbs.log2)) (by omega)
  have hcanonical : Canonical (n.natAbs * 2 ^ shift) (-shift) := by
    refine ⟨?_, by omega, by omega, .inl ?_⟩
    · calc n.natAbs * 2 ^ shift < 2 ^ (n.natAbs.log2 + 1) * 2 ^ shift :=
            Nat.mul_lt_mul_of_pos_right hhigh (by positivity)
        _ = Nat.pow 2 53 := by
            rw [← pow_add, show n.natAbs.log2 + 1 + shift = 53 by omega, Nat.pow_eq]
    · calc Nat.pow 2 52 = 2 ^ n.natAbs.log2 * 2 ^ shift := by
            rw [← pow_add, show n.natAbs.log2 + shift = 52 by omega, Nat.pow_eq]
        _ ≤ n.natAbs * 2 ^ shift := Nat.mul_le_mul_right _ hlow
  refine ⟨⟨decide (n < 0), n.natAbs * 2 ^ shift, -shift, hcanonical⟩, ?_⟩
  have hmagnitude : ((n.natAbs * 2 ^ shift : ℕ) : ℚ) * 2 ^ (-shift : ℤ) = |n| := by
    rw [Nat.cast_mul, Nat.cast_natAbs, Nat.cast_pow, zpow_neg, zpow_natCast, Nat.cast_two,
      mul_inv_cancel_right₀ (by positivity)]
  simp only [value, signed, magnitude, decide_eq_true_eq]
  rw [hmagnitude]
  split_ifs with hneg
  · rw [abs_of_neg hneg]
    push_cast
    ring
  · rw [abs_of_nonneg (by omega)]

end Double

end PropertyFilter
