import PropertyFilter.Double.Integer
import PropertyFilter.Proofs.Double.Nearest

/-!
# Doubles that become integers of 64 bits

A double that has nothing behind its point and lies among the integers of 64 bits is one of them,
and the conversion leaves it as it is. The upper bound of that test is not the greatest integer,
which is no double, but the power of two above it. It is excluded, so that neither end lets through
a double that the conversion would change.

## Main results

* `le_iff_value_le`, `lt_iff_value_lt` — doubles are ordered as the numbers that they are
* `value_eq_intCast_iff` — the integers among the doubles
* `roundsTo_ofInt64` — an integer of 64 bits becomes the double to which it is rounded
* `withinInt64_iff` — what lies between the bounds
* `fraction_eq_zero_and_withinInt64_iff` — the doubles that the conversion neither rounds nor moves
  to an end
-/

namespace PropertyFilter.Double

variable {x y : Double} {n : ℤ}

/-! ### The order of the doubles -/

/-- A double in units of a power of two, as a number. -/
theorem value_eq_units_mul {e : ℤ} (h : e ≤ x.exponent) : x.value = x.units e * 2 ^ e := by
  rw [value, magnitude_eq_mul h, signed_mul, units, Nat.pow_eq, signed]
  split_ifs <;> push_cast <;> rfl

theorem units_le_units_iff {e : ℤ} (hx : e ≤ x.exponent) (hy : e ≤ y.exponent) :
    x.units e ≤ y.units e ↔ x.value ≤ y.value := by
  have hunit : (0 : ℚ) < 2 ^ e := by positivity
  rw [value_eq_units_mul hx, value_eq_units_mul hy, mul_le_mul_iff_left₀ hunit, Int.cast_le]

theorem le_iff_value_le : x ≤ y ↔ x.value ≤ y.value :=
  units_le_units_iff (min_le_left _ _) (min_le_right _ _)

theorem lt_iff_value_lt : x < y ↔ x.value < y.value :=
  lt_iff_lt_of_le_iff_le (units_le_units_iff (min_le_right _ _) (min_le_left _ _))

/-! ### Before and behind the point -/

/-- What is behind the point is less than one. -/
theorem fraction_div_lt_one (x : Double) : (x.fraction / 2 ^ (-x.exponent).toNat : ℚ) < 1 := by
  rw [div_lt_one (by positivity)]
  exact_mod_cast Nat.mod_lt x.significand (Nat.two_pow_pos (-x.exponent).toNat)

/-- A double is what is before its point and what is behind it, both with its sign. -/
theorem value_eq_truncate_add (x : Double) :
    x.value = x.truncate + signed x.negative (x.fraction / 2 ^ (-x.exponent).toNat) := by
  have hfraction : x.fraction =
      x.significand * 2 ^ x.exponent.toNat % 2 ^ (-x.exponent).toNat := by
    -- one of the two powers is that of a whole exponent and therefore one
    rw [fraction, Nat.pow_eq]
    obtain hwhole | hwhole : x.exponent.toNat = 0 ∨ (-x.exponent).toNat = 0 := by omega
    · rw [hwhole, pow_zero, mul_one]
    · rw [hwhole, pow_zero, Nat.mod_one, Nat.mod_one]
  have hmagnitude : x.magnitude =
      (x.significand * 2 ^ x.exponent.toNat / 2 ^ (-x.exponent).toNat : ℕ) +
        (x.fraction : ℚ) / 2 ^ (-x.exponent).toNat := by
    rw [magnitude_eq_div, div_eq_iff (by positivity), add_mul, div_mul_cancel₀ _ (by positivity),
      hfraction]
    exact_mod_cast (Nat.div_add_mod' _ _).symm
  have htruncate : (x.truncate : ℚ) = signed x.negative
      (x.significand * 2 ^ x.exponent.toNat / 2 ^ (-x.exponent).toNat : ℕ) := by
    rw [truncate, Nat.pow_eq, Nat.pow_eq, signed]
    split_ifs <;> simp only [Int.cast_neg, Int.cast_natCast]
  rw [value, hmagnitude, signed_add, htruncate]

/-- A double is an integer just if nothing is behind its point, and then it is what is before
it. -/
theorem value_eq_intCast_iff : x.value = n ↔ x.fraction = 0 ∧ x.truncate = n := by
  have hsplit := x.value_eq_truncate_add
  constructor
  · intro h
    -- what is behind the point is the difference of two integers and less than one
    have hrest : signed x.negative (x.fraction / 2 ^ (-x.exponent).toNat) =
        (n - x.truncate : ℤ) := by
      push_cast
      linarith
    have hsmall : |n - x.truncate| < 1 := by
      have hlt : |((n - x.truncate : ℤ) : ℚ)| < 1 := by
        rw [← hrest, abs_signed, abs_of_nonneg (by positivity)]
        exact x.fraction_div_lt_one
      exact_mod_cast hlt
    have hsame := Int.abs_lt_one_iff.1 hsmall
    refine ⟨?_, (sub_eq_zero.1 hsame).symm⟩
    rw [hsame, Int.cast_zero, signed_eq_zero, div_eq_zero_iff] at hrest
    exact_mod_cast hrest.resolve_right (by positivity)
  · rintro ⟨hfraction, rfl⟩
    rw [hsplit, hfraction, Nat.cast_zero, zero_div, signed_zero, add_zero]

/-- Nothing is behind the point just if the conversion to an integer does not round. -/
theorem fraction_eq_zero_iff : x.fraction = 0 ↔ (x.truncate : ℚ) = x.value := by
  rw [eq_comm (a := (x.truncate : ℚ)), value_eq_intCast_iff, and_iff_left rfl]

/-! ### The integers of 64 bits -/

/-- The integers that have 64 bits. -/
theorem exists_toInt_eq_iff : (∃ m : Int64, m.toInt = n) ↔ -2 ^ 63 ≤ n ∧ n < 2 ^ 63 := by
  constructor
  · rintro ⟨m, rfl⟩
    exact ⟨m.le_toInt, m.toInt_lt⟩
  · rintro ⟨hlow, hhigh⟩
    exact ⟨.ofIntLE n hlow (Int.le_of_lt_add_one hhigh), Int64.toInt_ofIntLE⟩

theorem abs_toInt_lt_limit (m : Int64) : |(m.toInt : ℚ)| < limit := by
  have hbound : |m.toInt| ≤ 2 ^ 63 := by
    have := m.le_toInt
    have := m.toInt_lt
    rw [abs_le]
    omega
  have hpower : (2 : ℚ) ^ (11 : ℤ) ≤ 2 ^ (971 : ℤ) := zpow_le_zpow_right₀ one_le_two (by decide)
  rw [limit_eq]
  generalize (2 : ℚ) ^ (971 : ℤ) = top at *
  calc |(m.toInt : ℚ)| ≤ 2 ^ 63 := by exact_mod_cast hbound
    _ < (2 ^ 53 - 1 / 2) * 2 ^ (11 : ℤ) := by norm_num
    _ ≤ (2 ^ 53 - 1 / 2) * top := mul_le_mul_of_nonneg_left hpower (by norm_num)

/-- An integer of 64 bits becomes the double to which it is rounded. -/
theorem roundsTo_ofInt64 (m : Int64) : RoundsTo m.toInt (ofInt64 m) := by
  have hnumber : (m.toInt.natAbs / (1 : ℕ) : ℚ) = |(m.toInt : ℚ)| := by
    rw [Nat.cast_one, div_one, Nat.cast_natAbs, Int.cast_abs]
  have hsign : signed (m.toInt < 0) |(m.toInt : ℚ)| = m.toInt := by
    simpa only [Int.cast_lt_zero] using signed_abs (m.toInt : ℚ)
  rw [ofInt64]
  cases hx : nearest? (m.toInt < 0) m.toInt.natAbs 1 with
  | none =>
    rw [nearest?_eq_none_iff one_pos, hnumber] at hx
    exact absurd hx (not_le.2 (abs_toInt_lt_limit m))
  | some x =>
    have hround := (roundsTo_of_nearest?_eq_some one_pos hx).1
    rwa [hnumber, hsign] at hround

/-- The least integer of 64 bits. -/
def leastInt64 : Double := ⟨true, 2 ^ 52, 11, by decide⟩

theorem value_leastInt64 : leastInt64.value = -2 ^ 63 := by
  norm_num [value, signed, magnitude, leastInt64]

/-- The power of two above all integers of 64 bits. -/
def aboveInt64 : Double := ⟨false, 2 ^ 52, 11, by decide⟩

theorem value_aboveInt64 : aboveInt64.value = 2 ^ 63 := by
  norm_num [value, signed, magnitude, aboveInt64]

theorem ofInt64_minValue : ofInt64 Int64.minValue = leastInt64 := rfl

/-- The greatest integer of 64 bits is no double, and it is rounded up. -/
theorem ofInt64_maxValue : ofInt64 Int64.maxValue = aboveInt64 := rfl

theorem withinInt64_iff : x.WithinInt64 ↔ -2 ^ 63 ≤ x.value ∧ x.value < 2 ^ 63 := by
  rw [WithinInt64, ofInt64_minValue, ofInt64_maxValue, le_iff_value_le, lt_iff_value_lt,
    value_leastInt64, value_aboveInt64]

/-- The conversion moves no double to an end whose integer part has 64 bits. -/
theorem toInt_toInt64_iff :
    x.toInt64.toInt = x.truncate ↔ -2 ^ 63 ≤ x.truncate ∧ x.truncate < 2 ^ 63 := by
  constructor
  · intro h
    exact exists_toInt_eq_iff.1 ⟨x.toInt64, h⟩
  · rintro ⟨hlow, hhigh⟩
    exact Int64.toInt_ofIntClamp hlow (Int.le_of_lt_add_one hhigh)

/-- The doubles with nothing behind the point that lie among the integers of 64 bits are those
that the conversion neither moves to an end nor rounds. -/
theorem fraction_eq_zero_and_withinInt64_iff : x.fraction = 0 ∧ x.WithinInt64 ↔
    x.toInt64.toInt = x.truncate ∧ (x.truncate : ℚ) = x.value := by
  rw [fraction_eq_zero_iff, and_comm]
  refine and_congr_left fun hwhole => ?_
  rw [withinInt64_iff, toInt_toInt64_iff, ← hwhole]
  exact_mod_cast Iff.rfl

end PropertyFilter.Double
