import Mathlib.Data.Nat.Cast.Order.Field
import PropertyFilter.Double.Shortest
import PropertyFilter.Proofs.Decimal

/-!
# The shortest digits round back

The digits of a double are those of a number that is rounded to the double. They are looked for in
the interval of the numbers that are, and seventeen of them are enough to find one there.

## Main definitions

* `Double.Interval.Has` — a number lies in an interval

## Main results

* `roundsTo_of_has` — the numbers in the interval of a double are rounded to it
* `isSome_candidate?_of_le` — multiples of a small power of ten are found in the interval
* `exists_shortest_eq` — the digits of a double are those of a number that is rounded to it
-/

namespace PropertyFilter.Double

/-! ### Exact comparisons -/

/-- Comparing scaled natural numbers is comparing the numbers that they are. -/
theorem compareScaled_eq_compare (a : ℕ) (s : ℤ) (b : ℕ) (t : ℤ) :
    compareScaled a s b t = compare (a * 10 ^ s : ℚ) (b * 2 ^ t) := by
  -- both sides are fractions with one denominator
  have hden : (0 : ℚ) < 10 ^ (-s).toNat * 2 ^ (-t).toNat := by positivity
  have ha : (a * 10 ^ s : ℚ) = (a * Nat.pow 10 s.toNat * Nat.pow 2 (-t).toNat : ℕ) /
      (10 ^ (-s).toNat * 2 ^ (-t).toNat) := by
    rw [eq_div_iff hden.ne', zpow_eq_div (by norm_num : (10 : ℚ) ≠ 0) s]
    push_cast [Nat.pow_eq]
    field_simp
  have hb : (b * 2 ^ t : ℚ) = (b * Nat.pow 2 t.toNat * Nat.pow 10 (-s).toNat : ℕ) /
      (10 ^ (-s).toNat * 2 ^ (-t).toNat) := by
    rw [eq_div_iff hden.ne', zpow_eq_div two_ne_zero t]
    push_cast [Nat.pow_eq]
    field_simp
  unfold compareScaled
  generalize a * Nat.pow 10 s.toNat * Nat.pow 2 (-t).toNat = m at *
  generalize b * Nat.pow 2 t.toNat * Nat.pow 10 (-s).toNat = n at *
  rw [ha, hb]
  obtain hlt | heq | hgt := lt_trichotomy m n
  · rw [compare_lt_iff_lt.2 hlt, compare_lt_iff_lt.2]
    exact div_lt_div_of_pos_right (by exact_mod_cast hlt) hden
  · rw [heq, compare_eq_iff_eq.2 rfl, compare_eq_iff_eq.2 rfl]
  · rw [compare_gt_iff_gt.2 hgt, compare_gt_iff_gt.2]
    exact div_lt_div_of_pos_right (by exact_mod_cast hgt) hden

/-- A number lies in an interval. -/
structure Interval.Has (i : Interval) (v : ℚ) : Prop where
  low : i.low * 2 ^ i.unit < v ∨ i.closed ∧ v = i.low * 2 ^ i.unit
  high : v < i.high * 2 ^ i.unit ∨ i.closed ∧ v = i.high * 2 ^ i.unit

theorem Interval.contains_iff {i : Interval} {a : ℕ} {s : ℤ} :
    i.contains a s ↔ i.Has (a * 10 ^ s) := by
  simp only [contains, compareScaled_eq_compare, Bool.and_eq_true, Bool.or_eq_true, beq_iff_eq,
    compare_gt_iff_gt, compare_lt_iff_lt, compare_eq_iff_eq]
  exact ⟨fun h => ⟨h.1, h.2⟩, fun h => ⟨h.1, h.2⟩⟩

/-! ### The numbers that are rounded to a double -/

variable {x : Double} {v : ℚ} {m : ℕ} {e s : ℤ}

theorem RoundsToInt.of_bounds {r : ℚ} {k : ℤ} (hlow : (k : ℚ) - 1 / 2 ≤ r)
    (hhigh : r ≤ k + 1 / 2) (hends : r = k - 1 / 2 ∨ r = k + 1 / 2 → Even k) : RoundsToInt r k := by
  obtain hlt | heq := (abs_le.2 ⟨by linarith, by linarith⟩ : |r - k| ≤ 1 / 2).lt_or_eq
  · exact .inl hlt
  · refine .inr ⟨heq, hends ?_⟩
    obtain hsub | hsub := eq_or_eq_neg_of_abs_eq heq
    · exact .inr (by linarith)
    · exact .inl (by linarith)

section Ends

variable (m : ℕ) (e : ℤ)

theorem closed_interval : (interval m e).closed ↔ Even m := by
  rw [Nat.even_iff]
  exact beq_iff_eq

theorem high_interval :
    ((interval m e).high * 2 ^ (interval m e).unit : ℚ) = (m + 1 / 2) * 2 ^ e := by
  change ((4 * m + 2 : ℕ) * 2 ^ (e - 2) : ℚ) = _
  rw [zpow_sub₀ two_ne_zero]
  push_cast
  ring

/-- The distance of the lower end of an interval from its double, in units of the double. -/
def lowerGap : ℚ := if m = 2 ^ 52 ∧ -1074 < e then 1 / 4 else 1 / 2

theorem lowerGap_le : lowerGap m e ≤ 1 / 2 := by
  unfold lowerGap
  split_ifs <;> norm_num

theorem low_interval (hm : m ≠ 0) :
    ((interval m e).low * 2 ^ (interval m e).unit : ℚ) = (m - lowerGap m e) * 2 ^ e := by
  have hlow : ((interval m e).low : ℚ) = 4 * (m - lowerGap m e) := by
    simp only [interval, lowerGap, Nat.pow_eq]
    split_ifs <;> rw [Nat.cast_sub (by omega)] <;> push_cast <;> ring
  rw [hlow, interval, zpow_sub₀ two_ne_zero]
  ring

end Ends

/-- A number in the interval of a double, counted in units of the double. -/
theorem Interval.Has.units {r : ℚ} (hm : m ≠ 0) (h : (interval m e).Has (r * 2 ^ e)) :
    (m - lowerGap m e < r ∨ Even m ∧ r = m - lowerGap m e) ∧
      (r < m + 1 / 2 ∨ Even m ∧ r = m + 1 / 2) := by
  have hunit : (0 : ℚ) < 2 ^ e := by positivity
  obtain ⟨hlow, hhigh⟩ := h
  rw [low_interval m e hm, closed_interval, mul_lt_mul_iff_left₀ hunit,
    mul_left_inj' hunit.ne'] at hlow
  rw [high_interval, closed_interval, mul_lt_mul_iff_left₀ hunit,
    mul_left_inj' hunit.ne'] at hhigh
  exact ⟨hlow, hhigh⟩

theorem Interval.Has.pos (hm : m ≠ 0) (h : (interval m e).Has v) : 0 < v := by
  have hone : (1 : ℚ) ≤ m := by exact_mod_cast Nat.one_le_iff_ne_zero.2 hm
  have hlow : (0 : ℚ) < (m - lowerGap m e) * 2 ^ e :=
    mul_pos (by linarith [lowerGap_le m e]) (by positivity)
  rw [← low_interval m e hm] at hlow
  exact h.low.elim hlow.trans fun h => h.2 ▸ hlow

/-- Numbers on the grid of a double that are at most half a unit away are rounded to it. -/
theorem roundsTo_of_units {r : ℚ} (hcoarse : -1074 < x.exponent → 2 ^ 52 ≤ r) (hr : 0 ≤ r)
    (hlow : x.significand - 1 / 2 ≤ r) (hhigh : r ≤ x.significand + 1 / 2)
    (hends : r = x.significand - 1 / 2 ∨ r = x.significand + 1 / 2 → Even x.significand) :
    RoundsTo (signed x.negative (r * 2 ^ x.exponent)) x := by
  have hunit : (0 : ℚ) < 2 ^ x.exponent := by positivity
  have hv : 0 ≤ r * 2 ^ x.exponent := mul_nonneg hr hunit.le
  have hlast : (x.significand + 1 : ℚ) ≤ 2 ^ 53 := by exact_mod_cast x.canonical.1
  have hgrid : IsGrid (signed x.negative (r * 2 ^ x.exponent)) x.exponent := by
    refine ⟨?_, or_iff_not_imp_left.2 fun hne => ?_⟩
    · rw [abs_signed, abs_of_nonneg hv]
      exact mul_lt_mul_of_pos_right (by linarith) hunit
    · have hexponent : -1074 < x.exponent := lt_of_le_of_ne x.canonical.2.1 (Ne.symm hne)
      rw [abs_signed, abs_of_nonneg hv]
      exact ⟨hexponent, mul_le_mul_of_nonneg_right (hcoarse hexponent) hunit.le⟩
  have hround : RoundsToInt (r * 2 ^ x.exponent / 2 ^ x.exponent) x.significand := by
    rw [mul_div_cancel_right₀ _ hunit.ne']
    exact .of_bounds hlow hhigh fun hends' => by exact_mod_cast hends hends'
  have hx : ofRounded? x.negative x.significand x.exponent = some x := by
    rw [ofRounded?, if_neg x.canonical.1.ne, ofParts?, dif_pos x.canonical]
  exact (hgrid.roundsTo_of_ofRounded? hv hround hx).1

/-- Numbers just below a power of two, where the grid is twice as fine, are rounded to it. -/
theorem roundsTo_of_units_below {r : ℚ} (hexponent : -1074 < x.exponent)
    (hborder : x.significand = 2 ^ 52) (hlow : 2 ^ 52 - 1 / 4 ≤ r) (hhigh : r < 2 ^ 52) :
    RoundsTo (signed x.negative (r * 2 ^ x.exponent)) x := by
  have hfiner : (0 : ℚ) < 2 ^ (x.exponent - 1) := by positivity
  have hhalf : r * 2 ^ x.exponent = 2 * r * 2 ^ (x.exponent - 1) := by
    rw [zpow_sub_one₀ two_ne_zero]
    ring
  have hv : 0 ≤ r * 2 ^ x.exponent := by
    rw [hhalf]
    exact mul_nonneg (by linarith) hfiner.le
  have hgrid : IsGrid (signed x.negative (r * 2 ^ x.exponent)) (x.exponent - 1) := by
    refine ⟨?_, or_iff_not_imp_left.2 fun hne => ⟨by omega, ?_⟩⟩ <;>
      rw [abs_signed, abs_of_nonneg hv, hhalf]
    · exact mul_lt_mul_of_pos_right (by linarith) hfiner
    · exact mul_le_mul_of_nonneg_right (by linarith) hfiner.le
  have hround : RoundsToInt (r * 2 ^ x.exponent / 2 ^ (x.exponent - 1)) (2 ^ 53 : ℕ) := by
    rw [hhalf, mul_div_cancel_right₀ _ hfiner.ne']
    exact .of_bounds (by push_cast; linarith) (by push_cast; linarith) fun _ => by decide
  have hx : ofRounded? x.negative (2 ^ 53) (x.exponent - 1) = some x := by
    have hparts : ofParts? x.negative (2 ^ 52) x.exponent = some x := by
      rw [← hborder, ofParts?, dif_pos x.canonical]
    simpa [ofRounded?] using hparts
  exact (hgrid.roundsTo_of_ofRounded? hv hround hx).1

/-- The numbers in the interval of a double are rounded to it. -/
theorem roundsTo_of_has (hm : x.significand ≠ 0)
    (h : (interval x.significand x.exponent).Has v) : RoundsTo (signed x.negative v) x := by
  have hunit : (0 : ℚ) < 2 ^ x.exponent := by positivity
  obtain ⟨r, rfl⟩ : ∃ r, v = r * 2 ^ x.exponent :=
    ⟨v / 2 ^ x.exponent, (div_mul_cancel₀ _ hunit.ne').symm⟩
  obtain ⟨hlow, hhigh⟩ := h.units hm
  have hrlow : x.significand - lowerGap x.significand x.exponent ≤ r :=
    hlow.elim le_of_lt fun h => h.2.ge
  have hrhigh : r ≤ x.significand + 1 / 2 := hhigh.elim le_of_lt fun h => h.2.le
  have hgap := lowerGap_le x.significand x.exponent
  have hone : (1 : ℚ) ≤ x.significand := by exact_mod_cast Nat.one_le_iff_ne_zero.2 hm
  by_cases hbelow : -1074 < x.exponent ∧ r < 2 ^ 52
  · obtain ⟨hexponent, hr⟩ := hbelow
    have hborder : x.significand = 2 ^ 52 := by
      have hlt : (x.significand : ℚ) < (2 ^ 52 + 1 : ℕ) := by
        push_cast
        linarith
      have hge : 2 ^ 52 ≤ x.significand := x.canonical.2.2.2.resolve_right hexponent.ne'
      exact le_antisymm (Nat.lt_succ_iff.1 (by exact_mod_cast hlt)) hge
    rw [lowerGap, if_pos ⟨hborder, hexponent⟩, hborder] at hrlow
    exact roundsTo_of_units_below hexponent hborder (by exact_mod_cast hrlow) hr
  · refine roundsTo_of_units (fun hexponent => not_lt.1 fun hr => hbelow ⟨hexponent, hr⟩)
      (by linarith) (by linarith) hrhigh ?_
    rintro (hend | hend)
    · exact hlow.elim (fun hlt => absurd hlt (by linarith)) fun h => h.1
    · exact hhigh.elim (fun hlt => absurd hlt (by linarith)) fun h => h.1

/-! ### Multiples of a power of ten -/

theorem floorAt_bounds (m : ℕ) (e s : ℤ) : (floorAt m e s * 10 ^ s : ℚ) ≤ m * 2 ^ e ∧
    (m * 2 ^ e : ℚ) < (floorAt m e s + 1 : ℕ) * 10 ^ s := by
  have hunit : (0 : ℚ) < 10 ^ s := by positivity
  have hden : 0 < Nat.pow 2 (-e).toNat * Nat.pow 10 s.toNat := by
    simp only [Nat.pow_eq]
    positivity
  have hratio : (m * 2 ^ e / 10 ^ s : ℚ) = (m * Nat.pow 2 e.toNat * Nat.pow 10 (-s).toNat : ℕ) /
      (Nat.pow 2 (-e).toNat * Nat.pow 10 s.toNat : ℕ) := by
    rw [zpow_eq_div two_ne_zero e, zpow_eq_div (by norm_num : (10 : ℚ) ≠ 0) s]
    push_cast [Nat.pow_eq]
    field_simp
  rw [← le_div_iff₀ hunit, ← div_lt_iff₀ hunit, hratio]
  refine ⟨Nat.cast_div_le, ?_⟩
  have hnext := Nat.lt_mul_div_succ (m * Nat.pow 2 e.toNat * Nat.pow 10 (-s).toNat) hden
  rw [div_lt_iff₀ (by exact_mod_cast hden), mul_comm (_ : ℚ)]
  exact_mod_cast hnext

theorem candidate?_eq (m : ℕ) (e s : ℤ) : candidate? m e s =
    match (interval m e).contains (floorAt m e s) s,
      (interval m e).contains (floorAt m e s + 1) s with
    | true, true =>
      if compareScaled (2 * floorAt m e s + 1) s m (e + 1) == .gt then some (floorAt m e s)
      else some (floorAt m e s + 1)
    | true, false => some (floorAt m e s)
    | false, true => some (floorAt m e s + 1)
    | false, false => none := rfl

/-- What stands for a double lies in its interval. -/
theorem has_of_candidate? {n : ℕ} (h : candidate? m e s = some n) :
    (interval m e).Has (n * 10 ^ s) := by
  rw [← Interval.contains_iff]
  rw [candidate?_eq] at h
  split at h
  · split_ifs at h <;> obtain rfl := Option.some.inj h <;> assumption
  · obtain rfl := Option.some.inj h
    assumption
  · obtain rfl := Option.some.inj h
    assumption
  · cases h

theorem isSome_candidate? (h : (interval m e).Has (floorAt m e s * 10 ^ s) ∨
    (interval m e).Has ((floorAt m e s + 1 : ℕ) * 10 ^ s)) : (candidate? m e s).isSome := by
  rw [← Interval.contains_iff, ← Interval.contains_iff] at h
  rw [candidate?_eq]
  split
  · split_ifs <;> rfl
  · rfl
  · rfl
  · simp_all

/-- A multiple of a power of ten is found in the interval of a double of up to 53 bits if the power
is less than one part in `10 ^ 16`. -/
theorem isSome_candidate?_of_le (hm : m ≠ 0) (hlt : m < 2 ^ 53)
    (h : (10 : ℚ) ^ 16 * 10 ^ s ≤ m * 2 ^ e) : (candidate? m e s).isSome := by
  apply isSome_candidate?
  obtain ⟨hfloor, hnext⟩ := floorAt_bounds m e s
  have hunit : (0 : ℚ) < 2 ^ e := by positivity
  have hgap := lowerGap_le m e
  -- the lower end of the interval is more than half a multiple away
  have hsmall : (m : ℚ) < 10 ^ 16 * (2 * lowerGap m e) := by
    unfold lowerGap
    split_ifs with hborder
    · rw [hborder.1]
      norm_num
    · have : (m : ℚ) < 2 ^ 53 := by exact_mod_cast hlt
      linarith
  have hhalf : (10 : ℚ) ^ s < 2 * (lowerGap m e * 2 ^ e) := by
    have hscaled : (10 : ℚ) ^ 16 * 10 ^ s < 10 ^ 16 * (2 * (lowerGap m e * 2 ^ e)) := by
      calc (10 : ℚ) ^ 16 * 10 ^ s ≤ m * 2 ^ e := h
        _ < 10 ^ 16 * (2 * lowerGap m e) * 2 ^ e := mul_lt_mul_of_pos_right hsmall hunit
        _ = 10 ^ 16 * (2 * (lowerGap m e * 2 ^ e)) := by ring
    exact lt_of_mul_lt_mul_left hscaled (by positivity)
  have hhigh : lowerGap m e * 2 ^ e ≤ 1 / 2 * 2 ^ e := mul_le_mul_of_nonneg_right hgap hunit.le
  push_cast at hnext ⊢
  -- of two multiples around the double the nearer one lies in the interval
  obtain hnear | hfar := le_total (m * 2 ^ e - floorAt m e s * 10 ^ s : ℚ) (10 ^ s / 2)
  · refine .inl ⟨.inl ?_, .inl ?_⟩
    · rw [low_interval m e hm]
      linarith
    · rw [high_interval]
      linarith
  · refine .inr ⟨.inl ?_, .inl ?_⟩
    · rw [low_interval m e hm]
      linarith
    · rw [high_interval]
      linarith

/-- The order of a number below one, which is read off its inverse, rounded up. -/
theorem pow_decimalOrder_le_of_lt_one (hm : m ≠ 0) (hlt : (m * 2 ^ e : ℚ) < 1)
    (hzero : floorAt m e 0 = 0) : (10 : ℚ) ^ (decimalOrder m e - 1) ≤ m * 2 ^ e := by
  generalize hinverse : (Nat.pow 2 (-e).toNat + m - 1) / m = inverse
  have horder : decimalOrder m e = 1 - ((Nat.toDigits 10 (inverse - 1)).length : ℤ) := by
    rw [← hinverse]
    exact if_neg (not_not_intro hzero)
  have hle : Nat.pow 2 (-e).toNat ≤ m * inverse := by
    have := Nat.lt_mul_div_succ (Nat.pow 2 (-e).toNat + m - 1) (Nat.pos_of_ne_zero hm)
    rw [hinverse, mul_add, mul_one] at this
    omega
  have hdigits : inverse - 1 < 10 ^ (Nat.toDigits 10 (inverse - 1)).length :=
    (Nat.length_toDigits_le_iff (by decide) Nat.length_toDigits_pos).1 le_rfl
  generalize (Nat.toDigits 10 (inverse - 1)).length = count at *
  have hcovered : Nat.pow 2 (-e).toNat ≤ m * 10 ^ count :=
    hle.trans (Nat.mul_le_mul_left m (by omega))
  have hexponent : e.toNat = 0 := by
    by_contra hpos
    have hone : (1 : ℚ) ≤ m * 2 ^ e := one_le_mul_of_one_le_of_one_le
      (by exact_mod_cast Nat.one_le_iff_ne_zero.2 hm) (one_le_zpow₀ one_le_two (by omega))
    exact absurd hlt (not_lt.2 hone)
  rw [horder, show (1 - (count : ℤ) - 1) = -(count : ℤ) by omega, zpow_neg, zpow_natCast,
    zpow_eq_div two_ne_zero, hexponent, pow_zero, ← mul_div_assoc, mul_one,
    inv_le_iff_one_le_mul₀ (by positivity), div_mul_eq_mul_div, one_le_div (by positivity)]
  exact_mod_cast hcovered

/-- The order of a double is not too large. -/
theorem pow_decimalOrder_le (hm : m ≠ 0) : (10 : ℚ) ^ (decimalOrder m e - 1) ≤ m * 2 ^ e := by
  obtain ⟨hwhole, hbelow⟩ := floorAt_bounds m e 0
  rw [zpow_zero, mul_one] at hwhole hbelow
  by_cases hzero : floorAt m e 0 = 0
  · rw [hzero, zero_add, Nat.cast_one] at hbelow
    exact pow_decimalOrder_le_of_lt_one hm hbelow hzero
  · have horder : decimalOrder m e = (Nat.toDigits 10 (floorAt m e 0)).length := if_pos hzero
    have hlength : 0 < (Nat.toDigits 10 (floorAt m e 0)).length := Nat.length_toDigits_pos
    rw [horder, show ((Nat.toDigits 10 (floorAt m e 0)).length - 1 : ℤ) =
      ((Nat.toDigits 10 (floorAt m e 0)).length - 1 : ℕ) by omega, zpow_natCast]
    refine le_trans ?_ hwhole
    exact_mod_cast Decimal.pow_length_toDigits_le hzero

/-! ### The search -/

/-- The power of ten that the last of `count + 1` digits counts. -/
def gridAt (x : Double) (count : ℕ) : ℤ := decimalOrder x.significand x.exponent - 1 - count

/-- The number of `count + 1` digits that stands for a double, if there is one. -/
def digitsAt? (x : Double) (count : ℕ) : Option Digits :=
  (candidate? x.significand x.exponent (x.gridAt count)).map fun n =>
    Digits.ofScaled n (x.gridAt count)

theorem shortest_eq (hm : x.significand ≠ 0) :
    x.shortest = ((List.range 17).findSome? x.digitsAt?).getD
      (Digits.ofScaled (floorAt x.significand x.exponent (x.gridAt 16)) (x.gridAt 16)) :=
  if_neg hm

/-- Seventeen digits are enough. -/
theorem isSome_digitsAt? (hm : x.significand ≠ 0) : (x.digitsAt? 16).isSome := by
  have hunit : (10 : ℚ) ^ 16 * 10 ^ x.gridAt 16 ≤ x.significand * 2 ^ x.exponent := by
    have horder := pow_decimalOrder_le (e := x.exponent) hm
    rwa [← zpow_natCast, ← zpow_add₀ (by norm_num), gridAt, Nat.cast_ofNat, add_sub_cancel]
  rw [digitsAt?, Option.isSome_map]
  exact isSome_candidate?_of_le hm x.canonical.1 hunit

/-- The digits of a double are those of a number that is rounded to it. -/
theorem exists_shortest_eq (hm : x.significand ≠ 0) : ∃ n s, n ≠ 0 ∧
    x.shortest = Digits.ofScaled n s ∧ RoundsTo (signed x.negative (n * 10 ^ s)) x := by
  obtain ⟨d, hd⟩ : ∃ d, (List.range 17).findSome? x.digitsAt? = some d := by
    rw [← Option.isSome_iff_exists, List.findSome?_isSome_iff]
    exact ⟨16, by decide, isSome_digitsAt? hm⟩
  obtain ⟨count, -, hcount⟩ := List.exists_of_findSome?_eq_some hd
  obtain ⟨n, hn, rfl⟩ := Option.map_eq_some_iff.1 hcount
  have hhas := has_of_candidate? hn
  refine ⟨n, x.gridAt count, ?_, ?_, roundsTo_of_has hm hhas⟩
  · rintro rfl
    rw [Nat.cast_zero, zero_mul] at hhas
    exact (hhas.pos hm).false
  · rw [shortest_eq hm, hd, Option.getD_some]

end PropertyFilter.Double
