import PropertyFilter.Double.Nearest
import PropertyFilter.Proofs.Double.Value

/-!
# Correct rounding

Rounding yields the double that is nearest to a number, the one with the even significand
where two are equally near, and it fails for the numbers from `2 ^ 1024 - 2 ^ 970` on alone.
All doubles near a number lie on one grid of multiples of a power of two, so that the matter is
one of the nearest integer.

## Main definitions

* `Double.limit` — where the numbers begin that have no nearest double
* `Double.RoundsTo` — a double is the rounded value of a number
* `Double.RoundsToInt` — an integer is the rounded value of a number
* `Double.IsGrid` — the doubles near a number are the multiples of a power of two

## Main results

* `RoundsTo.unique` — a number is rounded to one value
* `IsGrid.roundsTo` — the nearest point of the grid is the rounded value
* `roundsTo_of_nearest?_eq_some`, `nearest?_eq_none_iff` — what is computed is the rounded value,
  and there is none from the limit on
* `exists_roundsTo` — each number below the limit has a rounded value
* `RoundsTo.abs_sub_le` — rounding moves a number by at most one part in `2 ^ 53`
* `RoundsTo.eq_or_forall_ne` — rounding a short decimal number leads to no other integer
-/

namespace PropertyFilter.Double

/-- The number halfway between the largest double and the next power of two. -/
def limit : ℚ := 2 ^ 1024 - 2 ^ 970

/-- The double `x` is the number `v`, rounded. -/
structure RoundsTo (v : ℚ) (x : Double) : Prop where
  /-- The number does not round to the power of two above all doubles. -/
  lt_limit : |v| < limit
  /-- No double is nearer. -/
  nearest : ∀ y : Double, |v - x.value| ≤ |v - y.value|
  /-- Of two doubles equally near it is the one with the even significand. -/
  even : ∀ y : Double, y.value ≠ x.value → |v - y.value| = |v - x.value| →
    Even x.significand ∧ Odd y.significand

namespace RoundsTo

variable {v : ℚ} {x y : Double}

/-- A number is rounded to one value. -/
theorem unique (hx : RoundsTo v x) (hy : RoundsTo v y) : x.value = y.value := by
  by_contra hne
  have htie : |v - y.value| = |v - x.value| := le_antisymm (hy.nearest x) (hx.nearest y)
  have hodd := (hx.even y (Ne.symm hne) htie).2
  have heven := (hy.even x hne htie.symm).1
  exact (Nat.not_even_iff_odd.2 hodd) heven

/-- A number that is a double is rounded to itself. -/
theorem value_eq (h : RoundsTo y.value x) : x.value = y.value := by
  have hle := h.nearest y
  rw [sub_self, abs_zero, abs_nonpos_iff, sub_eq_zero] at hle
  exact hle.symm

end RoundsTo

/-! ### Where the doubles end -/

theorem limit_eq : limit = (2 ^ 53 - 1 / 2) * 2 ^ (971 : ℤ) := by
  rw [limit, show (971 : ℤ) = (971 : ℕ) from rfl, zpow_natCast, sub_mul, ← pow_add,
    pow_succ (2 : ℚ) 970, mul_comm ((2 : ℚ) ^ 970), ← mul_assoc, one_div_mul_cancel two_ne_zero,
    one_mul]

theorem limit_pos : 0 < limit := by
  rw [limit_eq]
  exact mul_pos (by norm_num) (by positivity)

theorem magnitude_lt_limit (x : Double) : x.magnitude < limit := by
  have hsignificand : (x.significand : ℚ) ≤ 2 ^ 53 - 1 := by
    have hlt : (x.significand + 1 : ℚ) ≤ 2 ^ 53 := by exact_mod_cast x.canonical.1
    linarith
  calc x.magnitude ≤ (2 ^ 53 - 1) * 2 ^ (971 : ℤ) :=
        mul_le_mul hsignificand (zpow_le_zpow_right₀ one_le_two x.canonical.2.2.1) (by positivity)
          (by norm_num)
    _ < limit := by
        rw [limit_eq]
        exact mul_lt_mul_of_pos_right (by norm_num) (by positivity)

/-- A double is the rounded value of itself. -/
theorem roundsTo_value (x : Double) : RoundsTo x.value x where
  lt_limit := by
    rw [abs_value]
    exact magnitude_lt_limit x
  nearest y := by
    rw [sub_self, abs_zero]
    exact abs_nonneg _
  even y hne htie := by
    rw [sub_self, abs_zero, abs_eq_zero, sub_eq_zero] at htie
    exact absurd htie.symm hne

/-! ### The nearest integer -/

/-- The integer `m` is the number `r`, rounded, a half to the even side. -/
def RoundsToInt (r : ℚ) (m : ℤ) : Prop := |r - m| < 1 / 2 ∨ |r - m| = 1 / 2 ∧ Even m

namespace RoundsToInt

variable {r : ℚ} {m k : ℤ}

theorem neg (h : RoundsToInt r m) : RoundsToInt (-r) (-m) := by
  have habs : |-r - (-m : ℤ)| = |r - m| := by rw [← abs_neg, Int.cast_neg]; ring_nf
  unfold RoundsToInt
  rwa [habs, even_neg]

theorem abs_sub_le_half (h : RoundsToInt r m) : |r - m| ≤ 1 / 2 :=
  h.elim le_of_lt fun h => h.1.le

/-- Of two integers one is at least a half away. -/
theorem one_le_abs_add_abs (r : ℚ) (hne : k ≠ m) : 1 ≤ |r - k| + |r - m| := by
  have hone : (1 : ℚ) ≤ |(k : ℚ) - m| := by exact_mod_cast Int.one_le_abs (sub_ne_zero.2 hne)
  calc (1 : ℚ) ≤ |(k : ℚ) - m| := hone
    _ ≤ |(k : ℚ) - r| + |r - m| := abs_sub_le (k : ℚ) r m
    _ = |r - k| + |r - m| := by rw [abs_sub_comm (k : ℚ) r]

/-- Another integer is not nearer, and if it is as near, it is odd. -/
theorem nearest (h : RoundsToInt r m) (hne : k ≠ m) :
    |r - m| ≤ |r - k| ∧ (|r - k| = |r - m| → Even m ∧ Odd k) := by
  have hhalf := h.abs_sub_le_half
  have hone := one_le_abs_add_abs r hne
  refine ⟨by linarith, fun htie => ?_⟩
  -- the two integers are neighbours with the number in their middle
  have hmiddle : |r - m| = 1 / 2 := by linarith
  have heven : Even m := (h.resolve_left hmiddle.not_lt).2
  obtain ⟨hmLow, hmHigh⟩ := abs_le.1 hmiddle.le
  obtain ⟨hkLow, hkHigh⟩ := abs_le.1 (htie.trans hmiddle).le
  have hhigh : k ≤ m + 1 := by
    have : (k : ℚ) ≤ m + 1 := by linarith
    exact_mod_cast this
  have hlow : m ≤ k + 1 := by
    have : (m : ℚ) ≤ k + 1 := by linarith
    exact_mod_cast this
  obtain rfl | rfl : k = m + 1 ∨ k = m - 1 := by omega
  · exact ⟨heven, heven.add_one⟩
  · exact ⟨heven, heven.sub_odd odd_one⟩

/-- An even integer above a number is its rounded value from half a unit below on. -/
theorem eq_iff_of_even (h : RoundsToInt r m) (heven : Even k) (hlt : r < k) :
    m = k ↔ (k : ℚ) - 1 / 2 ≤ r := by
  constructor
  · rintro rfl
    linarith [(abs_le.1 h.abs_sub_le_half).1]
  · intro hle
    by_contra hne
    obtain ⟨hnearer, htie⟩ := h.nearest (Ne.symm hne)
    have hk : |r - k| = k - r := by rw [abs_sub_comm, abs_of_pos (by linarith)]
    have hone := one_le_abs_add_abs r (Ne.symm hne)
    exact (Int.not_odd_iff_even.2 heven) (htie (by linarith)).2

/-- Rounding does not pass an integer from below. -/
theorem le_of_le_cast (h : RoundsToInt r m) (hle : r ≤ k) : m ≤ k := by
  have : (m : ℚ) < k + 1 := by linarith [(abs_le.1 h.abs_sub_le_half).1]
  exact Int.lt_add_one_iff.1 (by exact_mod_cast this)

/-- Rounding does not pass an integer from above. -/
theorem le_of_cast_le (h : RoundsToInt r m) (hle : k ≤ r) : k ≤ m := by
  have : (k : ℚ) < m + 1 := by linarith [(abs_le.1 h.abs_sub_le_half).2]
  exact Int.lt_add_one_iff.1 (by exact_mod_cast this)

end RoundsToInt

/-- The rounded fraction is the nearest integer. -/
theorem roundsToInt_roundHalfEven (a : ℕ) {b : ℕ} (hb : 0 < b) :
    RoundsToInt (a / b) (roundHalfEven a b) := by
  have hb' : (0 : ℚ) < b := by exact_mod_cast hb
  have hsplit : (a / b : ℚ) = (a / b : ℕ) + (a % b : ℕ) / b := by
    rw [div_eq_iff hb'.ne', add_mul, div_mul_cancel₀ _ hb'.ne', mul_comm]
    exact_mod_cast (Nat.div_add_mod a b).symm
  have hremainder : ((a % b : ℕ) / b : ℚ) < 1 := by
    rw [div_lt_one hb']
    exact_mod_cast Nat.mod_lt a hb
  have hnonneg : (0 : ℚ) ≤ (a % b : ℕ) / b := by positivity
  have hhalf : ((a % b : ℕ) / b : ℚ) < 1 / 2 ↔ 2 * (a % b) < b := by
    rw [div_lt_iff₀ hb', ← Nat.cast_lt (α := ℚ)]
    push_cast
    constructor <;> intro h <;> linarith
  have hhalf' : ((a % b : ℕ) / b : ℚ) = 1 / 2 ↔ 2 * (a % b) = b := by
    rw [div_eq_iff hb'.ne', ← Nat.cast_inj (R := ℚ)]
    push_cast
    constructor <;> intro h <;> linarith
  -- both sides are about the quotient and the fractional part `f` of the remainder
  rw [hsplit, RoundsToInt, roundHalfEven]
  generalize a / b = q
  generalize ((a % b : ℕ) / b : ℚ) = f at *
  generalize a % b = r at *
  split_ifs with hup
  · rw [show (q + f - ((q + 1 : ℕ) : ℤ) : ℚ) = -(1 - f) by push_cast; ring, abs_neg,
      abs_of_pos (by linarith)]
    obtain hup | ⟨hup, hodd⟩ := hup
    · have hlt : ¬f < 1 / 2 := fun h => by have := hhalf.1 h; omega
      have hne : f ≠ 1 / 2 := fun h => by have := hhalf'.1 h; omega
      left
      have := lt_of_le_of_ne (not_lt.1 hlt) hne.symm
      linarith
    · have heq := hhalf'.2 hup
      refine .inr ⟨by linarith, ?_⟩
      exact_mod_cast (Nat.odd_iff.2 hodd).add_one
  · rw [show (q + f - ((q : ℕ) : ℤ) : ℚ) = f by push_cast; ring, abs_of_nonneg hnonneg, hhalf,
      hhalf', Int.even_coe_nat, Nat.even_iff]
    omega

/-! ### The grid at a number -/

section Grid

variable {v : ℚ} {e m : ℤ} {x : Double}

/-- The multiples of `2 ^ e` are the grid on which `v` is rounded: the number has at most 53 bits
before the point in units of the grid, and just 53 unless the unit is the least double. -/
structure IsGrid (v : ℚ) (e : ℤ) : Prop where
  fine : |v| < 2 ^ 53 * 2 ^ e
  coarse : e = -1074 ∨ -1074 < e ∧ 2 ^ 52 * 2 ^ e ≤ |v|

/-- The distance from a point of the grid, in units of the grid. -/
theorem abs_sub_mul_zpow (v : ℚ) (k e : ℤ) :
    |v - k * 2 ^ e| = |v / 2 ^ e - k| * 2 ^ e := by
  have hpos : (0 : ℚ) < 2 ^ e := by positivity
  calc |v - k * 2 ^ e| = |(v / 2 ^ e - k) * 2 ^ e| := by
        rw [sub_mul, div_mul_cancel₀ _ hpos.ne']
    _ = |v / 2 ^ e - k| * 2 ^ e := by rw [abs_mul, abs_of_pos hpos]

/-- A double is on the grid at a number, or a point of the grid is nearer to the number. -/
theorem IsGrid.value_or (h : IsGrid v e) (y : Double) :
    (∃ k : ℤ, y.value = k * 2 ^ e ∧ (Odd k → Odd y.significand)) ∨
      ∃ k : ℤ, |v - k * 2 ^ e| < |v - y.value| := by
  by_cases hexponent : e ≤ y.exponent
  · exact .inl (exists_value_eq_mul hexponent)
  -- the double lies below all doubles of 53 bits on the grid, and the least of them is nearer
  right
  have hy := magnitude_lt (not_le.1 hexponent)
  have hv : 2 ^ 52 * 2 ^ e ≤ |v| := by
    obtain rfl | hcoarse := h.coarse
    · exact absurd y.canonical.2.1 hexponent
    · exact hcoarse.2
  have hfar : |v| - y.magnitude ≤ |v - y.value| := by
    rw [← abs_value]
    exact abs_sub_abs_le_abs_sub v y.value
  have hunit : (0 : ℚ) < 2 ^ e := by positivity
  obtain hsign | hsign := abs_choice v
  · refine ⟨2 ^ 52, ?_⟩
    rw [Int.cast_pow, Int.cast_ofNat, abs_of_nonneg (by linarith)]
    linarith
  · refine ⟨-2 ^ 52, ?_⟩
    rw [Int.cast_neg, Int.cast_pow, Int.cast_ofNat, abs_of_nonpos (by linarith)]
    linarith

/-- The nearest point of the grid is the rounded number. -/
theorem IsGrid.roundsTo (h : IsGrid v e) (hm : RoundsToInt (v / 2 ^ e) m) (hlimit : |v| < limit)
    (hx : x.value = m * 2 ^ e) (heven : Even m → Even x.significand) : RoundsTo v x := by
  have hpos : (0 : ℚ) < 2 ^ e := by positivity
  have hnearest : ∀ k : ℤ, |v - m * 2 ^ e| ≤ |v - k * 2 ^ e| := by
    intro k
    obtain rfl | hne := eq_or_ne k m
    · exact le_rfl
    · rw [abs_sub_mul_zpow, abs_sub_mul_zpow]
      exact mul_le_mul_of_nonneg_right (hm.nearest hne).1 hpos.le
  -- points of the grid are compared as integers; no other double matters
  refine ⟨hlimit, fun y => ?_, fun y hne htie => ?_⟩
  · rw [hx]
    obtain ⟨k, hk, -⟩ | ⟨k, hk⟩ := h.value_or y
    · rw [hk]
      exact hnearest k
    · exact (hnearest k).trans hk.le
  · rw [hx] at hne htie
    obtain ⟨k, hk, hodd⟩ | ⟨k, hk⟩ := h.value_or y
    · have hkm : k ≠ m := by
        rintro rfl
        exact hne hk
      rw [hk, abs_sub_mul_zpow, abs_sub_mul_zpow] at htie
      obtain ⟨hm', hk'⟩ := (hm.nearest hkm).2 (mul_right_cancel₀ hpos.ne' htie)
      exact ⟨heven hm', hodd hk'⟩
    · exact absurd (hnearest k) (not_le.2 (htie ▸ hk))

end Grid

/-- Numbers are below the limit just if the grid has an exponent of a double and the number is
not rounded up to the power of two above. -/
theorem IsGrid.lt_limit_iff {v : ℚ} {e m : ℤ} (h : IsGrid v e) (hm : RoundsToInt (|v| / 2 ^ e) m) :
    |v| < limit ↔ e ≤ 971 ∧ (m = 2 ^ 53 → e ≠ 971) := by
  have hfine := h.fine
  have htop : (0 : ℚ) < 2 ^ (971 : ℤ) := by positivity
  rw [limit_eq]
  obtain hlt | heq | hgt := lt_trichotomy e 971
  · have hpower := zpow_le_zpow_right₀ (one_le_two (α := ℚ)) (Int.le_sub_one_of_lt hlt)
    rw [zpow_sub_one₀ two_ne_zero] at hpower
    generalize (2 : ℚ) ^ (971 : ℤ) = top at *
    exact iff_of_true (by linarith) ⟨hlt.le, fun _ => hlt.ne⟩
  · -- the end of the last binade is even, so that halfway below it is rounded up
    have hlast : |v| / 2 ^ e < (2 ^ 53 : ℤ) := by
      rw [div_lt_iff₀ (by positivity)]
      exact_mod_cast hfine
    have hup := hm.eq_iff_of_even (Int.even_pow.2 ⟨even_two, by decide⟩) hlast
    rw [Int.cast_pow, Int.cast_ofNat] at hup
    rw [← heq, ← div_lt_iff₀ (by positivity), ← not_le, ← hup]
    simp
  · have hpower := zpow_le_zpow_right₀ (one_le_two (α := ℚ)) (Int.add_one_le_of_lt hgt)
    rw [zpow_add_one₀ two_ne_zero] at hpower
    have hcoarse : (2 : ℚ) ^ 52 * 2 ^ e ≤ |v| := (h.coarse.resolve_left (by omega)).2
    generalize (2 : ℚ) ^ (971 : ℤ) = top at *
    exact iff_of_false (by linarith) (by omega)

/-- The largest power of two below a fraction, and the next one. -/
theorem binaryOrder_bounds {num den : ℕ} (hnum : 0 < num) (hden : 0 < den) :
    (2 : ℚ) ^ binaryOrder num den ≤ num / den ∧
      (num / den : ℚ) < 2 ^ (binaryOrder num den + 1) := by
  have hden' : (0 : ℚ) < den := by exact_mod_cast hden
  have hnumLow : (2 : ℚ) ^ num.log2 ≤ num := by exact_mod_cast Nat.log2_self_le hnum.ne'
  have hnumHigh : (num : ℚ) < 2 ^ (num.log2 + 1) := by exact_mod_cast Nat.lt_log2_self
  have hdenLow : (2 : ℚ) ^ den.log2 ≤ den := by exact_mod_cast Nat.log2_self_le hden.ne'
  have hdenHigh : (den : ℚ) < 2 ^ (den.log2 + 1) := by exact_mod_cast Nat.lt_log2_self
  -- the difference of the two logarithms is the order or one too large
  generalize hguess : (num.log2 : ℤ) - den.log2 = guess
  have hlow : (2 : ℚ) ^ (guess - 1) ≤ num / den := by
    rw [show guess - 1 = (num.log2 : ℤ) - (den.log2 + 1 : ℕ) by omega, zpow_sub₀ two_ne_zero,
      zpow_natCast, zpow_natCast]
    exact div_le_div₀ (by positivity) hnumLow hden' hdenHigh.le
  have hhigh : (num / den : ℚ) < 2 ^ (guess + 1) := by
    rw [show guess + 1 = (num.log2 + 1 : ℕ) - (den.log2 : ℤ) by omega, zpow_sub₀ two_ne_zero,
      zpow_natCast, zpow_natCast]
    exact div_lt_div₀ hnumHigh hdenLow (by positivity) (by positivity)
  have hif : num * Nat.pow 2 (-guess).toNat < den * Nat.pow 2 guess.toNat ↔
      (num / den : ℚ) < 2 ^ guess := by
    rw [zpow_eq_div two_ne_zero, div_lt_div_iff₀ hden' (by positivity), mul_comm _ (den : ℚ)]
    exact_mod_cast Iff.rfl
  simp only [binaryOrder, hguess, hif]
  split_ifs with h
  · exact ⟨hlow, by rwa [sub_add_cancel]⟩
  · exact ⟨not_lt.1 h, hhigh⟩

/-- A number below half the least double is rounded to zero. -/
theorem roundsTo_zero {v : ℚ} (negative : Bool) (h : |v| < 2 ^ (-1075 : ℤ)) :
    RoundsTo v (zero negative) := by
  rw [show (-1075 : ℤ) = -1074 - 1 from rfl, zpow_sub_one₀ two_ne_zero] at h
  have hunit : (0 : ℚ) < 2 ^ (-1074 : ℤ) := by positivity
  have hlast : (2 : ℚ) ^ (-1074 : ℤ) ≤ 2 ^ (971 : ℤ) := zpow_le_zpow_right₀ one_le_two (by decide)
  have hsmall : |v / 2 ^ (-1074 : ℤ)| < 1 / 2 := by
    rw [abs_div, abs_of_pos hunit, div_lt_iff₀ hunit]
    linarith
  have hgrid : IsGrid v (-1074) := ⟨by linarith, .inl rfl⟩
  have hlimit : |v| < limit := by
    rw [limit_eq]
    generalize (2 : ℚ) ^ (-1074 : ℤ) = least at *
    generalize (2 : ℚ) ^ (971 : ℤ) = greatest at *
    linarith
  refine hgrid.roundsTo (m := 0) (.inl ?_) hlimit ?_ fun _ => ?_
  · rwa [Int.cast_zero, sub_zero]
  · rw [value_zero, Int.cast_zero, zero_mul]
  · exact Even.zero

/-! ### What is computed -/

section Computed

variable {negative : Bool} {num den m : ℕ} {e : ℤ} {x : Double} {v : ℚ}

/-- The exponent that is computed gives the grid at the number. -/
theorem isGrid_of_abs_eq (hnum : 0 < num) (hden : 0 < den) (hv : |v| = num / den) :
    IsGrid v (max (-1074) (binaryOrder num den - 52)) := by
  obtain ⟨hlow, hhigh⟩ := binaryOrder_bounds hnum hden
  generalize binaryOrder num den = order at *
  have hscale : ∀ (k : ℕ) (e : ℤ), (2 : ℚ) ^ k * 2 ^ e = 2 ^ (k + e) := fun k e => by
    rw [zpow_add₀ two_ne_zero, zpow_natCast]
  constructor
  · rw [hv, hscale]
    exact hhigh.trans_le (zpow_le_zpow_right₀ one_le_two (by push_cast; omega))
  · rw [hv, hscale, or_iff_not_imp_left]
    intro hne
    exact ⟨by omega, le_trans (zpow_le_zpow_right₀ one_le_two (by push_cast; omega)) hlow⟩

/-- The double of a rounded significand, which may have reached the next power of two. -/
def ofRounded? (negative : Bool) (m : ℕ) (e : ℤ) : Option Double :=
  if m = Nat.pow 2 53 then ofParts? negative (Nat.pow 2 52) (e + 1) else ofParts? negative m e

theorem of_ofRounded?_eq_some (h : ofRounded? negative m e = some x) :
    x.negative = negative ∧ x.magnitude = m * 2 ^ e ∧ (Even m → Even x.significand) := by
  unfold ofRounded? ofParts? at h
  split_ifs at h with hcarry hcanonical hcanonical <;> obtain rfl := Option.some.inj h
  · refine ⟨rfl, ?_, fun _ => (by decide : Even (Nat.pow 2 52))⟩
    rw [magnitude, hcarry, zpow_add_one₀ two_ne_zero]
    push_cast
    ring
  · exact ⟨rfl, rfl, id⟩

theorem isSome_ofParts? : (ofParts? negative m e).isSome ↔ Canonical m e := by
  unfold ofParts?
  split <;> simp [*]

/-- A rounded significand with its exponent is a double unless it is too large. -/
theorem isSome_ofRounded? (he : -1074 ≤ e) (hm : m ≤ 2 ^ 53) (hcoarse : e = -1074 ∨ 2 ^ 52 ≤ m) :
    (ofRounded? negative m e).isSome ↔ e ≤ 971 ∧ (m = 2 ^ 53 → e ≠ 971) := by
  unfold ofRounded?
  simp only [Nat.pow_eq]
  split_ifs with hcarry <;> rw [isSome_ofParts?, Canonical, Nat.pow_eq, Nat.pow_eq] <;> omega

/-- The significand that is computed is that of the number in units of the grid, rounded. -/
theorem roundsToInt_units (hden : 0 < den) :
    RoundsToInt ((num / den : ℚ) / 2 ^ e)
      (roundHalfEven (num * 2 ^ (-e).toNat) (den * 2 ^ e.toNat)) := by
  have hunits : (num / den : ℚ) / 2 ^ e =
      (num * 2 ^ (-e).toNat : ℕ) / (den * 2 ^ e.toNat : ℕ) := by
    rw [zpow_eq_div two_ne_zero]
    push_cast
    rw [div_div_eq_mul_div, div_mul_eq_mul_div, div_div]
  rw [hunits]
  exact roundsToInt_roundHalfEven _ (by positivity)

/-- A number is below the limit just if its rounded significand and the exponent of its grid are
those of a double. -/
theorem IsGrid.isSome_ofRounded?_iff (h : IsGrid v e) (hm : RoundsToInt (|v| / 2 ^ e) m) :
    (ofRounded? negative m e).isSome ↔ |v| < limit := by
  have hunit : (0 : ℚ) < 2 ^ e := by positivity
  have hle : m ≤ 2 ^ 53 := by
    have := hm.le_of_le_cast (k := 2 ^ 53) (by push_cast; exact (div_le_iff₀ hunit).2 h.fine.le)
    exact_mod_cast this
  have hge : e = -1074 ∨ 2 ^ 52 ≤ m := by
    refine h.coarse.imp_right fun hcoarse => ?_
    have := hm.le_of_cast_le (k := 2 ^ 52) (by push_cast; exact (le_div_iff₀ hunit).2 hcoarse.2)
    exact_mod_cast this
  rw [isSome_ofRounded? (h.coarse.elim ge_of_eq fun h => h.1.le) hle hge, h.lt_limit_iff hm]
  norm_cast

/-- What is computed for a number other than zero comes from the nearest point of the grid. -/
theorem exists_nearest?_eq (negative : Bool) (hnum : 0 < num) (hden : 0 < den) :
    ∃ (e : ℤ) (m : ℕ), IsGrid (signed negative (num / den)) e ∧
      RoundsToInt (num / den / 2 ^ e) m ∧ nearest? negative num den = ofRounded? negative m e := by
  refine ⟨_, _, isGrid_of_abs_eq hnum hden ?_, roundsToInt_units hden, ?_⟩
  · rw [abs_signed, abs_of_nonneg (by positivity)]
  · rw [nearest?, if_neg hnum.ne']
    rfl

/-- Half a unit of the grid is small. -/
theorem IsGrid.unit_le (h : IsGrid v e) :
    1 / 2 * (2 : ℚ) ^ e ≤ max (2 ^ (-1075 : ℤ)) (|v| / 2 ^ 53) := by
  obtain rfl | ⟨-, hcoarse⟩ := h.coarse
  · refine le_max_of_le_left (le_of_eq ?_)
    rw [show (-1075 : ℤ) = -1074 - 1 from rfl, zpow_sub_one₀ two_ne_zero, mul_comm, one_div]
  · refine le_max_of_le_right ?_
    rw [le_div_iff₀ (by positivity)]
    linarith

/-- The double of the nearest point of the grid is the rounded number. -/
theorem IsGrid.roundsTo_of_ofRounded? {r : ℚ} (h : IsGrid (signed negative r) e) (hr : 0 ≤ r)
    (hm : RoundsToInt (r / 2 ^ e) m) (hx : ofRounded? negative m e = some x) :
    RoundsTo (signed negative r) x ∧ |signed negative r - x.value| ≤ 1 / 2 * 2 ^ e := by
  obtain ⟨hnegative, hmagnitude, heven⟩ := of_ofRounded?_eq_some hx
  have hlimit : |signed negative r| < limit := by
    rw [← h.isSome_ofRounded?_iff (by rwa [abs_signed, abs_of_nonneg hr]), hx]
    rfl
  have hvalue : ∃ k : ℤ, x.value = k * 2 ^ e ∧ RoundsToInt (signed negative r / 2 ^ e) k ∧
      (Even k → Even x.significand) := by
    rw [value, hnegative, hmagnitude, ← signed_div]
    cases negative
    · exact ⟨m, rfl, hm, by exact_mod_cast heven⟩
    · refine ⟨-m, ?_, hm.neg, ?_⟩
      · push_cast
        exact (neg_mul _ _).symm
      · rw [even_neg]
        exact_mod_cast heven
  obtain ⟨k, hk, hround, heven⟩ := hvalue
  refine ⟨h.roundsTo hround hlimit hk heven, ?_⟩
  rw [hk, abs_sub_mul_zpow]
  exact mul_le_mul_of_nonneg_right hround.abs_sub_le_half (by positivity)

/-- The computed double is the rounded number, with its sign, and as near as a double of 53 bits
can be. -/
theorem roundsTo_of_nearest?_eq_some (hden : 0 < den) (h : nearest? negative num den = some x) :
    RoundsTo (signed negative (num / den)) x ∧ x.negative = negative ∧
      |signed negative (num / den) - x.value| ≤
        max (2 ^ (-1075 : ℤ)) (|signed negative (num / den)| / 2 ^ 53) := by
  obtain rfl | hnum := Nat.eq_zero_or_pos num
  · obtain rfl : zero negative = x := by simpa [nearest?] using h
    have hself := roundsTo_value (zero negative)
    rw [value_zero] at hself ⊢
    rw [Nat.cast_zero, zero_div, signed_zero, sub_zero, abs_zero]
    exact ⟨hself, rfl, le_max_of_le_left (by positivity)⟩
  obtain ⟨e, m, hgrid, hm, hnearest⟩ := exists_nearest?_eq negative hnum hden
  rw [hnearest] at h
  obtain ⟨hround, herror⟩ := hgrid.roundsTo_of_ofRounded? (by positivity) hm h
  exact ⟨hround, (of_ofRounded?_eq_some h).1, herror.trans hgrid.unit_le⟩

/-- No double is computed just from the limit on. -/
theorem nearest?_eq_none_iff (hden : 0 < den) :
    nearest? negative num den = none ↔ limit ≤ num / den := by
  obtain rfl | hnum := Nat.eq_zero_or_pos num
  · simpa [nearest?] using limit_pos
  obtain ⟨e, m, hgrid, hm, hnearest⟩ := exists_nearest?_eq negative hnum hden
  have habs : |signed negative (num / den)| = num / den := by
    rw [abs_signed, abs_of_nonneg (by positivity)]
  rw [hnearest, ← Option.not_isSome_iff_eq_none, hgrid.isSome_ofRounded?_iff (habs.symm ▸ hm), habs,
    not_lt]

/-- Each number below the limit is rounded to some double. -/
theorem exists_roundsTo (h : |v| < limit) :
    ∃ x, RoundsTo v x ∧ |v - x.value| ≤ max (2 ^ (-1075 : ℤ)) (|v| / 2 ^ 53) := by
  have hfraction : (v.num.natAbs / v.den : ℚ) = |v| := by
    rw [Nat.cast_natAbs, Int.cast_abs, ← Nat.abs_cast v.den, ← abs_div, Rat.num_div_den]
  -- what is computed from the number in lowest terms is not nothing
  cases hx : nearest? (decide (v < 0)) v.num.natAbs v.den with
  | none =>
    rw [nearest?_eq_none_iff v.den_pos, hfraction] at hx
    exact absurd hx (not_le.2 h)
  | some x =>
    have hround := roundsTo_of_nearest?_eq_some v.den_pos hx
    rw [hfraction, signed_abs] at hround
    exact ⟨x, hround.1, hround.2.2⟩

/-- Rounding moves a number by at most one part in `2 ^ 53`, or by half the least double. -/
theorem RoundsTo.abs_sub_le (h : RoundsTo v x) :
    |v - x.value| ≤ max (2 ^ (-1075 : ℤ)) (|v| / 2 ^ 53) := by
  obtain ⟨y, hy, herror⟩ := exists_roundsTo h.lt_limit
  rwa [h.unique hy]

end Computed

/-! ### Short decimal numbers -/

section Short

variable {n i : ℤ} {k : ℕ} {x : Double}

/-- A number in units of a power of ten is at least a unit away from another integer. -/
theorem one_div_le_abs_sub (h : (n / 10 ^ k : ℚ) ≠ i) : 1 / 10 ^ k ≤ |(n / 10 ^ k : ℚ) - i| := by
  have hunit : (0 : ℚ) < 10 ^ k := by positivity
  have hne : n - i * 10 ^ k ≠ 0 := fun hzero => h <| by
    rw [div_eq_iff hunit.ne']
    exact_mod_cast sub_eq_zero.1 hzero
  have hone : (1 : ℚ) ≤ |(n : ℚ) - i * 10 ^ k| := by exact_mod_cast Int.one_le_abs hne
  calc 1 / 10 ^ k ≤ |(n : ℚ) - i * 10 ^ k| / 10 ^ k := div_le_div_of_nonneg_right hone hunit.le
    _ = |(n / 10 ^ k : ℚ) - i| := by
        rw [← abs_of_pos hunit, ← abs_div, abs_of_pos hunit, sub_div,
          mul_div_cancel_right₀ _ hunit.ne']

/-- Rounding moves a number of at most 53 bits in units of a power of ten by less than a unit. -/
theorem RoundsTo.abs_sub_lt (hn : n.natAbs < 2 ^ 53) (hk : k ≤ 323)
    (h : RoundsTo (n / 10 ^ k) x) : |(n / 10 ^ k : ℚ) - x.value| < 1 / 10 ^ k := by
  have hunit : (0 : ℚ) < 10 ^ k := by positivity
  have hleast : (2 : ℚ) ^ (-1075 : ℤ) < 1 / 10 ^ k := by
    have hpowers : (10 : ℚ) ^ 323 < 2 ^ 1075 := by
      exact_mod_cast (by decide +kernel : 10 ^ 323 < 2 ^ 1075)
    rw [show (-1075 : ℤ) = -(1075 : ℕ) from rfl, zpow_neg, zpow_natCast, ← one_div]
    exact one_div_lt_one_div_of_lt hunit ((pow_le_pow_right₀ (by norm_num) hk).trans_lt hpowers)
  have hrelative : |(n / 10 ^ k : ℚ)| / 2 ^ 53 < 1 / 10 ^ k := by
    have habs : |(n : ℚ)| < 2 ^ 53 := by
      rw [← Int.cast_abs, Int.abs_eq_natAbs]
      exact_mod_cast hn
    rw [abs_div, abs_of_pos hunit, div_right_comm]
    exact div_lt_div_of_pos_right ((div_lt_one (by positivity)).2 habs) hunit
  exact h.abs_sub_le.trans_lt (max_lt hleast hrelative)

/-- A number of at most 53 bits in units of a power of ten is rounded to itself, or neither it nor
its rounded value is an integer. -/
theorem RoundsTo.eq_or_forall_ne (hn : n.natAbs < 2 ^ 53) (hk : k ≤ 323)
    (h : RoundsTo (n / 10 ^ k) x) :
    x.value = n / 10 ^ k ∨ ∀ i : ℤ, x.value ≠ i ∧ (n / 10 ^ k : ℚ) ≠ i := by
  by_cases hint : ∃ i : ℤ, (n / 10 ^ k : ℚ) = i
  · -- an integer of 53 bits is a double
    obtain ⟨i, hi⟩ := hint
    have hni : n = i * 10 ^ k := by
      rw [div_eq_iff (by positivity)] at hi
      exact_mod_cast hi
    have hle : i.natAbs ≤ n.natAbs := by
      rw [hni, Int.natAbs_mul]
      exact Nat.le_mul_of_pos_right _ (by positivity)
    obtain ⟨y, hy⟩ := exists_value_eq_intCast (hle.trans_lt hn)
    rw [hi, ← hy] at h ⊢
    exact .inl h.value_eq
  · -- rounding does not reach an integer
    refine .inr fun i => ⟨fun hx => ?_, fun hi => hint ⟨i, hi⟩⟩
    have hgap := one_div_le_abs_sub fun hi : (n / 10 ^ k : ℚ) = i => hint ⟨i, hi⟩
    rw [← hx] at hgap
    exact absurd (h.abs_sub_lt hn hk) (not_lt.2 hgap)

end Short

end PropertyFilter.Double
