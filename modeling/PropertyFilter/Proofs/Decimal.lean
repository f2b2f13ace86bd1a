import PropertyFilter.Decimal
import PropertyFilter.Proofs.Double.Nearest

/-!
# The double nearest to a decimal number

The double of a decimal number is the number rounded. The two cases that are decided by the size
of the number alone agree with this: a number of more than 310 digits before the point is beyond
all doubles and one with more than 330 zeros behind it is less than half the least one.

## Main definitions

* `Decimal.value` — a decimal number as a rational number

## Main results

* `roundsTo_of_toDouble?_eq_some` — the double of a decimal number is the number, rounded
* `toDouble?_eq_none_iff` — the numbers without a double are those beyond the limit
-/

namespace PropertyFilter.Decimal

variable {d : Decimal} {x : Double}

/-- The number that a decimal number is. -/
def value (d : Decimal) : ℚ := signed d.negative (d.significand * 10 ^ d.scale)

theorem abs_value (d : Decimal) : |d.value| = d.significand * 10 ^ d.scale := by
  rw [value, abs_signed, abs_of_nonneg (by positivity)]

theorem abs_value_lt (d : Decimal) : |d.value| < 10 ^ d.order := by
  have hdigits : d.significand < 10 ^ (Nat.toDigits 10 d.significand).length :=
    (Nat.length_toDigits_le_iff (by decide) Nat.length_toDigits_pos).1 le_rfl
  rw [abs_value, order, zpow_add₀ (by norm_num), zpow_natCast]
  exact mul_lt_mul_of_pos_right (by exact_mod_cast hdigits) (by positivity)

/-- A number is not below the power of ten of its highest digit. -/
theorem pow_length_toDigits_le {n : ℕ} (h : n ≠ 0) : 10 ^ ((Nat.toDigits 10 n).length - 1) ≤ n := by
  by_contra hlt
  obtain hone | hmore := Nat.eq_zero_or_pos ((Nat.toDigits 10 n).length - 1)
  · rw [hone, pow_zero] at hlt
    omega
  · have := (Nat.length_toDigits_le_iff (by decide) hmore).2 (not_le.1 hlt)
    omega

theorem le_abs_value (h : d.significand ≠ 0) : 10 ^ (d.order - 1) ≤ |d.value| := by
  have hlength : 0 < (Nat.toDigits 10 d.significand).length := Nat.length_toDigits_pos
  rw [abs_value, order, show ((Nat.toDigits 10 d.significand).length + d.scale - 1 : ℤ) =
      ((Nat.toDigits 10 d.significand).length - 1 : ℕ) + d.scale by omega, zpow_add₀ (by norm_num),
    zpow_natCast]
  exact mul_le_mul_of_nonneg_right (by exact_mod_cast pow_length_toDigits_le h) (by positivity)

/-- A number of more than 310 digits is beyond all doubles. -/
theorem limit_le_of_order (h : d.significand ≠ 0) (horder : 310 < d.order) :
    Double.limit ≤ |d.value| := by
  have hpowers : (2 : ℚ) ^ 1024 ≤ 10 ^ 310 := by
    exact_mod_cast (by decide +kernel : 2 ^ 1024 ≤ 10 ^ 310)
  calc Double.limit ≤ 2 ^ 1024 := sub_le_self _ (by positivity)
    _ ≤ 10 ^ ((310 : ℕ) : ℤ) := by rwa [zpow_natCast]
    _ ≤ 10 ^ (d.order - 1) := zpow_le_zpow_right₀ (by norm_num) (by omega)
    _ ≤ |d.value| := le_abs_value h

/-- A number with more than 330 zeros behind the point is nearest to zero. -/
theorem abs_value_lt_of_order (horder : d.order < -330) : |d.value| < 2 ^ (-1075 : ℤ) := by
  have hpowers : (2 : ℚ) ^ 1075 ≤ 10 ^ 330 := by
    exact_mod_cast (by decide +kernel : 2 ^ 1075 ≤ 10 ^ 330)
  calc |d.value| < 10 ^ d.order := abs_value_lt d
    _ ≤ 10 ^ (-(330 : ℕ) : ℤ) := zpow_le_zpow_right₀ (by norm_num) (by omega)
    _ ≤ 2 ^ (-(1075 : ℕ) : ℤ) := by
        rw [zpow_neg, zpow_neg, zpow_natCast, zpow_natCast]
        exact inv_anti₀ (by positivity) hpowers

/-- A decimal number is an integer in units of a power of ten. -/
theorem exists_value_eq_div (d : Decimal) : ∃ n : ℤ,
    n.natAbs = d.significand * 10 ^ d.scale.toNat ∧ d.value = n / 10 ^ (-d.scale).toNat := by
  refine ⟨if d.negative then -(d.significand * 10 ^ d.scale.toNat : ℕ)
    else (d.significand * 10 ^ d.scale.toNat : ℕ), ?_, ?_⟩
  · split <;> simp only [Int.natAbs_neg, Int.natAbs_natCast]
  · rw [value, zpow_eq_div (by norm_num), ← mul_div_assoc, signed_div, signed]
    split <;> push_cast <;> rfl

theorem value_eq_fraction (d : Decimal) :
    d.value = signed d.negative ((d.significand * Nat.pow 10 d.scale.toNat : ℕ) /
      (Nat.pow 10 (-d.scale).toNat : ℕ)) := by
  rw [value, zpow_eq_div (by norm_num), Nat.pow_eq, Nat.pow_eq]
  push_cast
  rw [mul_div_assoc]

/-- The double of a decimal number is the number, rounded, with its sign. -/
theorem roundsTo_of_toDouble?_eq_some (h : d.toDouble? = some x) :
    Double.RoundsTo d.value x ∧ x.negative = d.negative := by
  unfold toDouble? at h
  split_ifs at h with hzero hlarge hsmall
  · obtain rfl := Option.some.inj h
    have hvalue : |d.value| < 2 ^ (-1075 : ℤ) := by
      rw [abs_value, hzero, Nat.cast_zero, zero_mul]
      positivity
    exact ⟨Double.roundsTo_zero _ hvalue, rfl⟩
  · obtain rfl := Option.some.inj h
    exact ⟨Double.roundsTo_zero _ (abs_value_lt_of_order hsmall), rfl⟩
  · have hround := Double.roundsTo_of_nearest?_eq_some (by rw [Nat.pow_eq]; positivity) h
    rw [← value_eq_fraction] at hround
    exact ⟨hround.1, hround.2.1⟩

/-- The numbers from the limit on have no double. -/
theorem toDouble?_eq_none_iff : d.toDouble? = none ↔ Double.limit ≤ |d.value| := by
  cases h : d.toDouble? with
  | some x =>
    exact iff_of_false (Option.some_ne_none x)
      (not_le.2 (roundsTo_of_toDouble?_eq_some h).1.lt_limit)
  | none =>
    refine iff_of_true rfl ?_
    unfold toDouble? at h
    split_ifs at h with hzero hlarge hsmall
    · exact limit_le_of_order hzero hlarge
    · rw [value_eq_fraction, abs_signed, abs_of_nonneg (by positivity)]
      exact (Double.nearest?_eq_none_iff (by rw [Nat.pow_eq]; positivity)).1 h

/-- The computed double has the value to which the number is rounded, if there is one. -/
theorem exists_toDouble?_iff {v : ℚ} : (∃ x, d.toDouble? = some x ∧ x.value = v) ↔
    ∃ x, Double.RoundsTo d.value x ∧ x.value = v := by
  constructor
  · rintro ⟨x, hx, hv⟩
    exact ⟨x, (roundsTo_of_toDouble?_eq_some hx).1, hv⟩
  · rintro ⟨x, hx, rfl⟩
    cases h : d.toDouble? with
    | none => exact absurd hx.lt_limit (not_lt.2 (toDouble?_eq_none_iff.1 h))
    | some y => exact ⟨y, rfl, (roundsTo_of_toDouble?_eq_some h).1.unique hx⟩

end PropertyFilter.Decimal
