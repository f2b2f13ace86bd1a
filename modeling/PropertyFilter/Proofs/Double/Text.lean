import PropertyFilter.Double.Text
import PropertyFilter.Proofs.Decimal.Literal
import PropertyFilter.Proofs.Double.Shortest

/-!
# Doubles are read back from their texts

The marked text of a double is a decimal literal with a point or an exponent, and the double
nearest to what it writes is that double, with its sign.

## Main definitions

* `Digits.value` — the number that digits with a place for the point write
* `WritesMarked` — behind each sign, a text writes a number with a point or an exponent

## Main results

* `Digits.value_ofScaled` — stripping zeros does not change what digits write
* `exists_literal_text_marked` — the marked text of a double is a literal that is rounded to it
* `toDouble?_text_marked` — a double is read back from its marked text
-/

namespace PropertyFilter.Double

open Decimal (IsDigits Literal Sign natural)

namespace Digits

variable {d : Digits} {n : ℕ} {s : ℤ}

/-- The number that digits with a place for the point write. -/
def value (d : Digits) : ℚ := natural d.digits * 10 ^ (d.point - d.digits.length)

/-- The digits of a scaled number are its digits up to the zeros at the end. -/
theorem exists_toDigits_eq (n : ℕ) (s : ℤ) : ∃ zeros : ℕ,
    Nat.toDigits 10 n = (ofScaled n s).digits ++ List.replicate zeros '0' := by
  let all := Nat.toDigits 10 n
  refine ⟨(all.reverse.takeWhile (· == '0')).length, ?_⟩
  have hzeros : all.reverse.takeWhile (· == '0') =
      List.replicate (all.reverse.takeWhile (· == '0')).length '0' := by
    rw [List.eq_replicate_iff]
    exact ⟨rfl, fun c hc => by simpa using List.mem_takeWhile_imp hc⟩
  have hsplit := congrArg List.reverse
    (List.takeWhile_append_dropWhile (p := (· == '0')) (l := all.reverse))
  rw [List.reverse_append, List.reverse_reverse, hzeros, List.reverse_replicate] at hsplit
  exact hsplit.symm

/-- Stripping zeros does not change what digits write. -/
theorem value_ofScaled (n : ℕ) (s : ℤ) : (ofScaled n s).value = n * 10 ^ s := by
  obtain ⟨zeros, hall⟩ := exists_toDigits_eq n s
  have hpoint : (ofScaled n s).point = (Nat.toDigits 10 n).length + s := rfl
  have hnatural : n = natural (ofScaled n s).digits * 10 ^ zeros := by
    conv_lhs => rw [← Decimal.natural_toDigits n, hall, Decimal.natural_append,
      Decimal.natural_replicate_zero, List.length_replicate, add_zero]
  rw [value, hpoint, hall, List.length_append, List.length_replicate]
  conv_rhs => rw [hnatural]
  push_cast
  have hplace (k : ℤ) : k + zeros + s - k = zeros + s := by ring
  rw [hplace, zpow_add₀ (by norm_num), zpow_natCast, mul_assoc]

theorem isDigits_ofScaled (n : ℕ) (s : ℤ) : IsDigits (ofScaled n s).digits := by
  obtain ⟨zeros, hall⟩ := exists_toDigits_eq n s
  intro c hc
  exact Decimal.isDigits_toDigits n c (hall ▸ List.mem_append_left _ hc)

theorem digits_ofScaled_ne_nil (hn : n ≠ 0) : (ofScaled n s).digits ≠ [] := by
  intro hnil
  have hvalue := value_ofScaled n s
  rw [value, hnil, natural, Nat.ofDigitChars_nil, Nat.cast_zero, zero_mul, eq_comm, mul_eq_zero,
    Nat.cast_eq_zero] at hvalue
  exact hvalue.elim hn (zpow_ne_zero s (by norm_num))

end Digits

/-! ### Layouts -/

/-- Behind each sign a text writes a number, with a point or an exponent. -/
def WritesMarked (body : List Char) (v : ℚ) : Prop :=
  ∀ s : Sign, ∃ l : Literal, l.text = s.text ++ body ∧ l.sign = s ∧
    l.value = signed s.negative v ∧ ¬l.IsWhole

section Layouts

variable {whole fraction : List Char} {v : ℚ}

/-- Digits around a point. -/
theorem writesMarked_point (hwhole : IsDigits whole) (hfraction : IsDigits fraction)
    (hne : whole ++ fraction ≠ [])
    (hv : natural (whole ++ fraction) * 10 ^ (-fraction.length : ℤ) = v) :
    WritesMarked (whole ++ '.' :: fraction) v := by
  intro s
  refine ⟨⟨s, whole, some fraction, none, hwhole, ?_, hne⟩, ?_, rfl, ?_, ?_⟩
  · rintro ds ⟨⟩
    exact hfraction
  · simp [Literal.text, Literal.pointText, Literal.exponentText]
  · rw [← hv, ← Literal.value_decimal]
    simp [Decimal.value, Literal.decimal, Literal.places, Literal.power]
  · exact fun hwhole => Option.some_ne_none _ hwhole.1

/-- Digits, a point unless nothing follows it, and a power of ten. -/
theorem writesMarked_exponent (hwhole : IsDigits whole) (hfraction : IsDigits fraction)
    (hne : whole ++ fraction ≠ []) (power : ℤ)
    (hv : natural (whole ++ fraction) * 10 ^ (power - fraction.length : ℤ) = v) :
    WritesMarked (whole ++ (if fraction.isEmpty then [] else '.' :: fraction) ++
      'e' :: (toString power).toList) v := by
  intro s
  let exponent : Decimal.Exponent := ⟨'e', .inl rfl, .ofInt power⟩
  cases fraction with
  | nil =>
    refine ⟨⟨s, whole, none, some exponent, hwhole, by simp, hne⟩, ?_, rfl, ?_,
      fun h => Option.some_ne_none _ h.2⟩
    · simp [Literal.text, Literal.pointText, Literal.exponentText, exponent]
    · rw [← hv, ← Literal.value_decimal]
      simp [Decimal.value, Literal.decimal, Literal.places, Literal.power, exponent]
  | cons c cs =>
    refine ⟨⟨s, whole, some (c :: cs), some exponent, hwhole, ?_, hne⟩, ?_, rfl, ?_,
      fun h => Option.some_ne_none _ h.2⟩
    · rintro ds ⟨⟩
      exact hfraction
    · simp [Literal.text, Literal.pointText, Literal.exponentText, exponent]
    · rw [← hv, ← Literal.value_decimal]
      simp [Decimal.value, Literal.decimal, Literal.places, Literal.power, exponent]

variable {d : Digits}

/-- Digits that are written out, with an ending for whole numbers. -/
theorem writesMarked_positional (hdigits : IsDigits d.digits) (hne : d.digits ≠ []) :
    WritesMarked (d.positional ['.', '0']) d.value := by
  have hzeros (n : ℕ) : IsDigits (List.replicate n '0') := by
    intro c hc
    rw [List.eq_of_mem_replicate hc]
    decide
  have hzero : IsDigits ['0'] := hzeros 1
  unfold Digits.positional Digits.value
  simp only
  split_ifs with hbelow hlarge
  · -- below one, zeros stand in front of the digits
    have hfraction : IsDigits (List.replicate (-d.point).toNat '0' ++ d.digits) :=
      List.forall_mem_append.2 ⟨hzeros _, hdigits⟩
    rw [List.append_assoc]
    change WritesMarked (['0'] ++ '.' :: (List.replicate (-d.point).toNat '0' ++ d.digits)) _
    refine writesMarked_point hzero hfraction (List.cons_ne_nil _ _) ?_
    rw [Decimal.natural_append, Decimal.natural_append, Decimal.natural_replicate_zero,
      show natural ['0'] = 0 from rfl, zero_mul, zero_mul, zero_add, zero_add, List.length_append,
      List.length_replicate]
    congr 2
    omega
  · -- zeros stand behind the digits
    refine writesMarked_point (List.forall_mem_append.2 ⟨hdigits, hzeros _⟩) hzero
      (List.append_ne_nil_of_right_ne_nil _ (List.cons_ne_nil _ _)) ?_
    simp only [Decimal.natural_append, Decimal.natural_replicate_zero, List.length_replicate,
      List.length_singleton]
    rw [show natural ['0'] = 0 from rfl]
    push_cast
    rw [show d.point - d.digits.length = ((d.point.toNat - d.digits.length : ℕ) : ℤ) by omega,
      zpow_natCast]
    ring
  · -- the point is among the digits
    refine writesMarked_point (fun c hc => hdigits c (List.mem_of_mem_take hc))
      (fun c hc => hdigits c (List.mem_of_mem_drop hc)) (by rwa [List.take_append_drop]) ?_
    rw [List.take_append_drop, List.length_drop]
    congr 2
    omega

/-- Digits that are written with a power of ten. -/
theorem writesMarked_exponential (hdigits : IsDigits d.digits) (hne : d.digits ≠ []) :
    WritesMarked d.exponential d.value := by
  obtain ⟨digits, point⟩ := d
  cases digits with
  | nil => exact absurd rfl hne
  | cons c cs =>
    obtain ⟨hc, hcs⟩ := List.forall_mem_cons.1 hdigits
    have hwhole : IsDigits [c] := List.forall_mem_singleton.2 hc
    refine writesMarked_exponent hwhole hcs
      (List.cons_ne_nil _ _) (point - 1) ?_
    rw [Digits.value, List.length_cons, List.singleton_append]
    congr 2
    push_cast
    ring

end Layouts

/-! ### Reading a double back -/

/-- The digits of a double write a number that is rounded to it. -/
theorem roundsTo_shortest (x : Double) : IsDigits x.shortest.digits ∧ x.shortest.digits ≠ [] ∧
    RoundsTo (signed x.negative x.shortest.value) x := by
  by_cases hzero : x.significand = 0
  · -- a zero is written as one, whichever sign it has
    have hshortest : x.shortest = ⟨['0'], 1⟩ := if_pos hzero
    have hvalue : x.value = 0 := by
      rw [value, magnitude, hzero, Nat.cast_zero, zero_mul, signed_zero]
    have hdigits : Digits.value ⟨['0'], 1⟩ = 0 := by
      rw [Digits.value, show natural ['0'] = 0 from rfl, Nat.cast_zero, zero_mul]
    have hself := roundsTo_value x
    rw [hvalue] at hself
    rw [hshortest, hdigits, signed_zero]
    exact ⟨List.forall_mem_singleton.2 rfl, List.cons_ne_nil _ _, hself⟩
  · obtain ⟨n, s, hn, hshortest, hround⟩ := exists_shortest_eq hzero
    rw [hshortest, Digits.value_ofScaled]
    exact ⟨Digits.isDigits_ofScaled n s, Digits.digits_ofScaled_ne_nil hn, hround⟩

/-- The marked text of a double is a literal with a point or an exponent that is rounded to it. -/
theorem exists_literal_text_marked (x : Double) : ∃ l : Literal, l.text = (x.text marked).toList ∧
    l.sign.negative = x.negative ∧ RoundsTo l.value x ∧ ¬l.IsWhole := by
  obtain ⟨hdigits, hne, hround⟩ := roundsTo_shortest x
  let body := if marked.isPositional x.shortest.point then x.shortest.positional ['.', '0']
    else x.shortest.exponential
  have hbody : WritesMarked body x.shortest.value := by
    unfold body
    split_ifs
    · exact writesMarked_positional hdigits hne
    · exact writesMarked_exponential hdigits hne
  let s : Sign := if x.negative then .minus else .bare
  have hs : s.negative = x.negative ∧ (x.text marked).toList = s.text ++ body := by
    have htext : (x.text marked).toList = if x.negative then '-' :: body else body :=
      String.toList_ofList
    rw [htext]
    unfold s
    cases x.negative <;> exact ⟨rfl, rfl⟩
  obtain ⟨l, hl, hsign, hvalue, hmarked⟩ := hbody s
  refine ⟨l, hl.trans hs.2.symm, by rw [hsign, hs.1], ?_, hmarked⟩
  rwa [hvalue, hs.1]

/-- A double is read back from its marked text, and no integer is. -/
theorem toDouble?_text_marked (x : Double) :
    ((Decimal.parse? (x.text marked).toList).bind Decimal.toDouble? = some x) ∧
      Decimal.integer? (x.text marked).toList = none := by
  obtain ⟨l, htext, hnegative, hround, hmarked⟩ := exists_literal_text_marked x
  rw [← htext, l.parse?_text, Option.bind_some]
  constructor
  · rw [← l.value_decimal] at hround
    cases hread : l.decimal.toDouble? with
    | none => exact absurd hround.lt_limit (not_lt.2 (Decimal.toDouble?_eq_none_iff.1 hread))
    | some y =>
      -- two doubles to which one number is rounded differ at most in the sign of zero
      obtain ⟨hround', hnegative'⟩ := Decimal.roundsTo_of_toDouble?_eq_some hread
      rw [eq_of_value_eq (hnegative'.trans hnegative) (hround'.unique hround)]
  · rw [Option.eq_none_iff_forall_ne_some]
    intro n hn
    exact hmarked (l.integer?_text_eq_some_iff.1 hn).1

end PropertyFilter.Double
