import PropertyFilter.Proofs.Double.Integer
import PropertyFilter.TypedValues

/-!
# Integers that are sent as doubles

An integer property takes a double as the integer that it is, and no other double. Nothing is
rounded and nothing is moved to an end of the integers of 64 bits, although the greatest of them
is compared as the power of two above it.

## Main results

* `Scalar.integerOfDouble?_eq_some_iff` — a double is read as the integer that it is
* `Scalar.integerOfDouble?_eq_some_iff_exists` — what is infinite or no number is read as no integer
* `Scalar.toInteger?_float_exact` — reading a double is exact, and so is the conversion it uses
-/

namespace PropertyFilter.Scalar

open Double (RoundsTo ofInt64 zero)

variable {x : Double} {n : Int64}

/-- A double is read as the integer that it is. -/
theorem integerOfDouble?_eq_some_iff : integerOfDouble? x = some n ↔ x.value = n.toInt := by
  rw [integerOfDouble?, Option.ite_none_right_eq_some, Option.some_inj]
  change (x.fraction = 0 ∧ x.WithinInt64) ∧ x.toInt64 = n ↔ _
  rw [Double.fraction_eq_zero_and_withinInt64_iff]
  constructor
  · rintro ⟨⟨hend, hwhole⟩, rfl⟩
    rw [hend, hwhole]
  · intro h
    have htruncate := (Double.value_eq_intCast_iff.1 h).2
    have hend : x.toInt64.toInt = x.truncate :=
      Double.toInt_toInt64_iff.2 (htruncate ▸ ⟨n.le_toInt, n.toInt_lt⟩)
    refine ⟨⟨hend, by rw [htruncate, h]⟩, ?_⟩
    rw [← Int64.toInt_inj, hend, htruncate]

/-- Of all values of the format, only finite ones are read as integers. -/
theorem integerOfDouble?_eq_some_iff_exists {x : Binary64} :
    integerOfDouble? x = some n ↔ ∃ y : Double, x = y ∧ y.value = n.toInt := by
  cases x with
  | finite y => simp [integerOfDouble?_eq_some_iff]
  | infinite _ => simp [integerOfDouble?, Binary64.IsWhole]
  | notANumber => simp [integerOfDouble?, Binary64.IsWhole]

/-- The integer that is read off a double is the integer of 64 bits that the double is; both zeros
are read as zero. The doubles that pass the two tests, on what is behind the point and on the
range, are those that the conversion neither moves to an end nor rounds, although the greatest
integer is compared as the double to which it is rounded, and that is `2 ^ 63`. -/
theorem toInteger?_float_exact (x : Double) :
    (∀ n : ℤ, (float x).toInteger?.map Int64.toInt = some n ↔
      x.value = n ∧ -2 ^ 63 ≤ n ∧ n ≤ 2 ^ 63 - 1) ∧
    (∀ negative, (float (zero negative)).toInteger? = some 0) ∧
    (x.fraction = 0 ∧ x.WithinInt64 ↔
      x.toInt64.toInt = x.truncate ∧ (x.truncate : ℚ) = x.value) ∧
    RoundsTo Int64.maxValue.toInt (ofInt64 Int64.maxValue) ∧
    (ofInt64 Int64.maxValue).value = 2 ^ 63 := by
  refine ⟨fun n => ?_, fun negative => ?_, Double.fraction_eq_zero_and_withinInt64_iff,
    Double.roundsTo_ofInt64 _, ?_⟩
  · simp only [toInteger?, Option.map_eq_some_iff, integerOfDouble?_eq_some_iff]
    rw [Int.le_sub_one_iff, ← Double.exists_toInt_eq_iff]
    constructor
    · rintro ⟨m, hm, rfl⟩
      exact ⟨hm, m, rfl⟩
    · rintro ⟨hn, m, rfl⟩
      exact ⟨m, hn, rfl⟩
  · rw [toInteger?, integerOfDouble?_eq_some_iff, Double.value_zero, Int64.toInt_zero,
      Int.cast_zero]
  · rw [Double.ofInt64_maxValue, Double.value_aboveInt64]

/-- The greatest double below `2 ^ 63`. -/
example : (float (.finite ⟨false, 2 ^ 53 - 1, 10, by decide⟩)).toInteger? =
    some 9223372036854774784 := by
  decide +kernel

end PropertyFilter.Scalar
