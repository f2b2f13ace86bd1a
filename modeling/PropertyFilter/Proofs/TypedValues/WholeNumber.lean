import PropertyFilter.Proofs.TypedValues.Number

/-!
# Whole numbers that are written as JSON numbers

A whole number in a JSON text is an integer of 64 bits if it is one, and otherwise the reader of its
digits rounds it to a double. The double is an integer of 64 bits just if it is the least one,
`-2 ^ 63`. All whole numbers that are rounded to it are bound as it, so that those down to
`-2 ^ 63 - 2 ^ 10` are not refused. On the other side `2 ^ 63` is a double, and no number above the
integers is rounded below it.

## Main definitions

* `TakenAs` — the integer that a whole number is bound as
* `Drafting.TakesWhole` — what becomes of whole numbers, when each stands for certain integers

## Main results

* `Double.exists_roundsTo_int64_iff` — the numbers that are rounded to an integer of 64 bits
* `Scalar.toInteger?_ofJsonWith?_numeral` — what is read from a whole number
* `Drafting.takesWhole_numerals` — whole numbers are bound as the integers that they are taken as
-/

namespace PropertyFilter

open Decimal (Literal Numeral)

namespace Double

/-! ### Rounding to the ends of the integers -/

namespace RoundsTo

variable {v b : ℚ} {x y : Double}

/-- Rounding does not pass a double from above. -/
theorem value_le (h : RoundsTo v x) (hy : y.value ≤ v) : y.value ≤ x.value := by
  by_contra! hlt
  have hnearest := h.nearest y
  rw [abs_of_nonneg (by linarith), abs_of_nonneg (by linarith)] at hnearest
  linarith

/-- A number that is nearer to a double than to a bound above it is rounded below the bound. -/
theorem value_lt (h : RoundsTo v x) (hyb : y.value < b) (hv : 2 * v < y.value + b) :
    x.value < b := by
  by_contra! hle
  have hnearest := h.nearest y
  have hnear : |v - y.value| < b - v := abs_lt.2 ⟨by linarith, by linarith⟩
  rw [abs_of_nonpos (by linarith)] at hnearest
  linarith

end RoundsTo

/-- The double next to the least integer of 64 bits on the other side. -/
def belowInt64 : Double := ⟨true, 2 ^ 52 + 1, 11, by decide⟩

theorem value_belowInt64 : belowInt64.value = -2 ^ 63 - 2 ^ 11 := by
  norm_num [value, signed, magnitude, belowInt64]

end Double

/-- The integers below those of 64 bits that are rounded to the least of them. -/
def RoundsToLeast (n : ℤ) : Prop := -2 ^ 63 - 2 ^ 10 ≤ n ∧ n < -2 ^ 63

/-- A whole number is bound as the integer of 64 bits that it is, or as the one to which it is
rounded. -/
def TakenAs (n : ℤ) (m : Int64) : Prop := n = m.toInt ∨ RoundsToLeast n ∧ m = Int64.minValue

theorem toInt_minValue : Int64.minValue.toInt = -2 ^ 63 := rfl

theorem isInt64_intCast_iff {n : ℤ} : IsInt64 n ↔ -2 ^ 63 ≤ n ∧ n < 2 ^ 63 := by
  rw [← Double.exists_toInt_eq_iff]
  exact exists_congr fun m => by rw [Int.cast_inj, eq_comm]

theorem RoundsToLeast.not_isInt64 {n : ℤ} (h : RoundsToLeast n) : ¬IsInt64 n :=
  fun hn => not_lt.2 (isInt64_intCast_iff.1 hn).1 h.2

/-- An integer of 64 bits is taken as itself. -/
theorem takenAs_iff_of_isInt64 {n : ℤ} {m : Int64} (h : IsInt64 n) :
    TakenAs n m ↔ n = m.toInt := by
  rw [TakenAs, or_iff_left]
  rintro ⟨hn, -⟩
  exact hn.not_isInt64 h

namespace Double

variable {n : ℤ} {m : Int64} {x : Double}

/-- Of the two doubles around it, a number in the upper half, the middle included, is rounded to
the least integer of 64 bits, whose significand is even. -/
theorem roundsTo_leastInt64 (h : RoundsToLeast n) : RoundsTo n leastInt64 := by
  have hlow : (-2 ^ 63 - 2 ^ 10 : ℚ) ≤ n := by exact_mod_cast h.1
  have hhigh : (n : ℚ) < -2 ^ 63 := by exact_mod_cast h.2
  have hgrid : IsGrid n 11 := by
    refine ⟨?_, .inr ⟨by decide, ?_⟩⟩ <;> rw [abs_of_neg (by linarith)] <;> norm_num <;> linarith
  have hlimit : |(n : ℚ)| < limit := by
    refine hgrid.fine.trans ?_
    rw [limit_eq]
    have hpower : (2 : ℚ) ^ (12 : ℤ) ≤ 2 ^ (971 : ℤ) := zpow_le_zpow_right₀ one_le_two (by decide)
    generalize (2 : ℚ) ^ (971 : ℤ) = top at *
    norm_num at hpower ⊢
    linarith
  -- the number at the far end is in the middle, and the tie goes to the even significand
  have hunits : RoundsToInt (n / 2 ^ (11 : ℤ)) (-2 ^ 52) := by
    have hdistance : |(n / 2 ^ (11 : ℤ) - (-2 ^ 52 : ℤ) : ℚ)| ≤ 1 / 2 := by
      rw [abs_of_nonpos] <;> norm_num at * <;> linarith
    exact hdistance.lt_or_eq.imp_right fun htie => ⟨htie, by decide⟩
  refine hgrid.roundsTo hunits hlimit ?_ fun _ => by decide
  rw [value_leastInt64]
  norm_num

/-- A number that is rounded to an integer of 64 bits lies above the middle below the least of
them, and below the power of two above all. -/
theorem bounds_of_roundsTo_int64 (hx : RoundsTo n x) (hxm : x.value = m.toInt) :
    -2 ^ 63 - 2 ^ 10 ≤ n ∧ n < 2 ^ 63 := by
  have hmlow : -2 ^ 63 ≤ m.toInt := m.le_toInt
  have hmhigh : m.toInt < 2 ^ 63 := m.toInt_lt
  constructor
  · by_contra! hlt
    have hmiddle : 2 * (n : ℚ) < belowInt64.value + -2 ^ 63 := by
      have hlt' : (n : ℚ) < -2 ^ 63 - 2 ^ 10 := by exact_mod_cast hlt
      rw [value_belowInt64]
      linarith
    have hbelow := hx.value_lt (by rw [value_belowInt64]; norm_num) hmiddle
    rw [hxm] at hbelow
    exact absurd hmlow (not_le.2 (by exact_mod_cast hbelow))
  · by_contra! hle
    have habove := hx.value_le (y := aboveInt64) (by rw [value_aboveInt64]; exact_mod_cast hle)
    rw [value_aboveInt64, hxm] at habove
    exact absurd hmhigh (not_lt.2 (by exact_mod_cast habove))

/-- What is rounded to an integer of 64 bits from outside is the stretch below the least one. -/
theorem exists_roundsTo_int64_iff (h : ¬IsInt64 n) :
    (∃ x, RoundsTo n x ∧ x.value = m.toInt) ↔ RoundsToLeast n ∧ m = Int64.minValue := by
  constructor
  · rintro ⟨x, hx, hxm⟩
    obtain ⟨hlow, hhigh⟩ := bounds_of_roundsTo_int64 hx hxm
    have hstretch : RoundsToLeast n := by
      refine ⟨hlow, ?_⟩
      by_contra! hle
      exact h (isInt64_intCast_iff.2 ⟨hle, hhigh⟩)
    have hleast := hx.unique (roundsTo_leastInt64 hstretch)
    rw [hxm, value_leastInt64] at hleast
    refine ⟨hstretch, ?_⟩
    rw [← Int64.toInt_inj, toInt_minValue]
    exact_mod_cast hleast
  · rintro ⟨hstretch, rfl⟩
    refine ⟨leastInt64, roundsTo_leastInt64 hstretch, ?_⟩
    rw [value_leastInt64, toInt_minValue]
    norm_num

end Double

/-! ### Reading a whole number -/

namespace Scalar

variable {read : Json.Number.Reader} {i : Numeral} {m : Int64}

/-- The integer that is read off a number is the number itself. -/
theorem toInteger?_ofNumber {n : Json.Number} :
    (ofNumber n).toInteger? = some m ↔ n.value = m.toInt := by
  cases n with
  | integer n =>
    change some n = some m ↔ (n.toInt : ℚ) = m.toInt
    rw [Option.some_inj, Int.cast_inj, Int64.toInt_inj]
  | double x => exact integerOfDouble?_eq_some_iff

/-- A whole number is not read just if it lies beyond the largest double. -/
theorem ofJsonWith?_numeral_eq_none_iff (hread : Json.Number.ReadsWhole read i) :
    ofJsonWith? read (.ofNumeral i) = none ↔ Double.limit ≤ |(i.value : ℚ)| := by
  rw [Json.ofNumeral, ofJsonWith?, Option.map_eq_none_iff]
  constructor
  · intro hnone
    by_contra! hlt
    by_cases hint : IsInt64 i.value
    · obtain ⟨n, hn, -⟩ := hread.inside hint
      rw [hn] at hnone
      cases hnone
    · obtain ⟨x, hx, -⟩ := hread.outside hint hlt
      rw [hx] at hnone
      cases hnone
  · exact hread.beyond

/-- The integers that a whole number is read as are those that it is taken as. -/
theorem toInteger?_ofJsonWith?_numeral (hread : Json.Number.ReadsWhole read i) :
    (ofJsonWith? read (.ofNumeral i)).bind toInteger? = some m ↔ TakenAs i.value m := by
  rw [Json.ofNumeral, ofJsonWith?, Option.bind_map]
  by_cases hint : IsInt64 i.value
  · -- what is read exactly is taken as this integer alone
    obtain ⟨n, hn, hvalue⟩ := hread.inside hint
    rw [takenAs_iff_of_isInt64 hint, hn, Option.bind_some, Function.comp_apply,
      toInteger?_ofNumber, hvalue, Int.cast_inj]
  rw [TakenAs, or_iff_right fun hm => hint ⟨m, by rw [hm]⟩, ← Double.exists_roundsTo_int64_iff hint]
  by_cases hlt : |(i.value : ℚ)| < Double.limit
  · -- of all others the double decides
    obtain ⟨x, hx, hround⟩ := hread.outside hint hlt
    rw [hx, Option.bind_some, Function.comp_apply, toInteger?_ofNumber]
    exact ⟨fun hm => ⟨x, hround, hm⟩, fun ⟨y, hy, hm⟩ => (hround.unique hy).trans hm⟩
  · rw [hread.beyond (not_lt.1 hlt)]
    exact iff_of_false nofun fun ⟨x, hx, _⟩ => hlt hx.lt_limit

/-- Whole numbers that are read are integers if they are taken as these. -/
theorem forall₂_toInteger?_iff {numerals : List Numeral} {vs : List Scalar} {ns : List Int64}
    (hread : ∀ i ∈ numerals, Json.Number.ReadsWhole read i)
    (h : List.Forall₂ (fun i v => ofJsonWith? read (.ofNumeral i) = some v) numerals vs) :
    List.Forall₂ (fun v n => v.toInteger? = some n) vs ns ↔
      List.Forall₂ (fun i n => TakenAs i.value n) numerals ns := by
  induction h generalizing ns with
  | nil => simp
  | @cons i v numerals vs hv _ ih =>
    obtain ⟨hi, hread⟩ := List.forall_mem_cons.1 hread
    have hhead (n : Int64) : v.toInteger? = some n ↔ TakenAs i.value n := by
      rw [← toInteger?_ofJsonWith?_numeral hi, hv, Option.bind_some]
    cases ns with
    | nil => simp
    | cons n ns => rw [List.forall₂_cons, List.forall₂_cons, hhead, ih hread]

end Scalar

/-! ### Binding whole numbers -/

/-- A value is not read just if one of its scalars is not. -/
theorem RequestValue.ofJsonWith?_eq_none_iff {read : Json.Number.Reader} {j : Json} :
    ofJsonWith? read j = none ↔ ∃ item ∈ j.items, Scalar.ofJsonWith? read item = none := by
  cases j with
  | array items => rw [ofJsonWith?, Option.map_eq_none_iff, Text.mapM_eq_none_iff, Json.items]
  | _ => simp [ofJsonWith?, Json.items]

/-- Integers are bound as they are. -/
theorem Plan.values_of_plan_int {p : Property} {tableAlias : String} {value : RequestValue}
    {plan : Plan} (hkind : p.kind = .int) (h : p.plan tableAlias value = .ok plan) :
    ∃ ns, TypedValues.ofScalars .int value.toList = .ok (.ints ns) ∧
      plan.values = ns.map .int := by
  obtain ⟨strategy, values, -, hvalues, hplan⟩ := Property.plan_eq_ok_iff.1 h
  rw [hkind] at hvalues
  have hkind' := TypedValues.kind_of_ofScalars hvalues
  cases values with
  | ints ns =>
    obtain rfl := Except.ok.inj hplan
    exact ⟨ns, hvalues, Plan.values_ofNumbers _⟩
  | _ => cases hkind'

namespace Drafting

/-- What becomes of a JSON value of whole numbers for a property that holds integers, when a
relation tells which integers a whole number stands for. -/
structure TakesWhole (read : Json.Number.Reader) (R : ℤ → Int64 → Prop) (j : Json)
    (numbers : List ℤ) : Prop where
  /-- They are not read just if one lies beyond the largest double. -/
  unread : RequestValue.ofJsonWith? read j = none ↔ ∃ n ∈ numbers, Double.limit ≤ |(n : ℚ)|
  /-- If all of them stand for integers, these are the values. -/
  reads : ∀ ns, List.Forall₂ R numbers ns → ∃ value, RequestValue.ofJsonWith? read j = some value ∧
    TypedValues.ofScalars .int value.toList = .ok (.ints ns)
  /-- If one stands for none, they are not read or they are refused. -/
  refuses : (∃ n ∈ numbers, ∀ m, ¬R n m) → ∀ value, RequestValue.ofJsonWith? read j = some value →
    TypedValues.ofScalars .int value.toList = .error .invalidNumeric
  /-- A filter that is not applied because of them tells so and leaves the draft as it is. -/
  ignores : (∃ n ∈ numbers, ∀ m, ¬R n m) → ∀ {s schema property p strategy value} {d : Draft},
    s.get? property = some p → p.kind = .int → p.strategy = some strategy →
    d.query.backend.isJsonCapable → schema.isJsonColumn p.path.column →
    RequestValue.ofJsonWith? read j = some value →
    (compile s schema property (some value)).perform d = (.ok (.ignored .invalidNumeric), d)
  /-- A filter that is applied compares with integers that they stand for. -/
  applies : ∀ {s schema property p value predicate} {d : Draft},
    s.get? property = some p → p.kind = .int → RequestValue.ofJsonWith? read j = some value →
    ((compile s schema property (some value)).perform d).1 = .ok (.applied predicate) →
    ∃ ns, List.Forall₂ R numbers ns ∧ predicate.params.map (·.value) = ns.map .int

section Numerals

variable {read : Json.Number.Reader} {j : Json} {numerals : List Numeral} {value : RequestValue}
  {ns : List Int64}

/-- The scalars of whole numbers that are read. -/
theorem forall₂_ofJsonWith?_numerals (hj : j.items = numerals.map .ofNumeral)
    (hvalue : RequestValue.ofJsonWith? read j = some value) :
    List.Forall₂ (fun i v => Scalar.ofJsonWith? read (.ofNumeral i) = some v) numerals
      value.toList := by
  have hitems := Json.forall₂_items hvalue
  rwa [hj, List.forall₂_map_left_iff] at hitems

/-- The values of whole numbers that are read. -/
theorem ofScalars_numerals_eq_ok_iff (hread : ∀ i ∈ numerals, Json.Number.ReadsWhole read i)
    (hne : numerals ≠ []) (hj : j.items = numerals.map .ofNumeral)
    (hvalue : RequestValue.ofJsonWith? read j = some value) :
    TypedValues.ofScalars .int value.toList = .ok (.ints ns) ↔
      List.Forall₂ TakenAs (numerals.map (·.value)) ns := by
  have hscalars := forall₂_ofJsonWith?_numerals hj hvalue
  have hne' : value.toList ≠ [] := by
    intro hnil
    rw [hnil, List.forall₂_nil_right_iff] at hscalars
    exact hne hscalars
  rw [TypedValues.ofScalars_int_eq_ok_iff hne', List.forall₂_map_left_iff,
    Scalar.forall₂_toInteger?_iff hread hscalars]

/-- One whole number that is taken as no integer spoils them all. -/
theorem ofScalars_numerals_eq_error (hread : ∀ i ∈ numerals, Json.Number.ReadsWhole read i)
    (hj : j.items = numerals.map .ofNumeral)
    (hbad : ∃ n ∈ numerals.map (·.value), ∀ m, ¬TakenAs n m)
    (hvalue : RequestValue.ofJsonWith? read j = some value) :
    TypedValues.ofScalars .int value.toList = .error .invalidNumeric := by
  have hscalars := forall₂_ofJsonWith?_numerals hj hvalue
  obtain ⟨n, hn, hbad⟩ := hbad
  obtain ⟨i, hi, rfl⟩ := List.mem_map.1 hn
  obtain ⟨v, hv, hiv⟩ := Text.exists_mem_of_forall₂ hscalars i hi
  rw [TypedValues.ofScalars_int_eq_error_iff (List.ne_nil_of_mem hv)]
  refine ⟨v, hv, Option.eq_none_iff_forall_ne_some.2 fun m hm => hbad m ?_⟩
  rw [← Scalar.toInteger?_ofJsonWith?_numeral (hread i hi), hiv, Option.bind_some, hm]

/-- Whole numbers that are taken as integers are read. -/
theorem exists_ofJsonWith?_of_takenAs (hread : ∀ i ∈ numerals, Json.Number.ReadsWhole read i)
    (hj : j.items = numerals.map .ofNumeral)
    (h : List.Forall₂ TakenAs (numerals.map (·.value)) ns) :
    ∃ value, RequestValue.ofJsonWith? read j = some value := by
  cases hvalue : RequestValue.ofJsonWith? read j with
  | some value => exact ⟨value, rfl⟩
  | none =>
    rw [RequestValue.ofJsonWith?_eq_none_iff, hj] at hvalue
    obtain ⟨item, hitem, hnone⟩ := hvalue
    obtain ⟨i, hi, rfl⟩ := List.mem_map.1 hitem
    obtain ⟨n, -, hn⟩ := Text.exists_mem_of_forall₂ h _ (List.mem_map_of_mem hi)
    rw [← Scalar.toInteger?_ofJsonWith?_numeral (hread i hi), hnone] at hn
    cases hn

/-- What becomes of numbers depends on the integers that these numbers stand for. -/
theorem TakesWhole.congr {R S : ℤ → Int64 → Prop} {numbers : List ℤ}
    (h : TakesWhole read R j numbers) (hRS : ∀ n ∈ numbers, ∀ m, S n m ↔ R n m) :
    TakesWhole read S j numbers := by
  have hvalues (ns : List Int64) : List.Forall₂ S numbers ns ↔ List.Forall₂ R numbers ns :=
    Text.forall₂_congr hRS
  have hbad : (∃ n ∈ numbers, ∀ m, ¬S n m) ↔ ∃ n ∈ numbers, ∀ m, ¬R n m :=
    exists_congr fun n => and_congr_right fun hn => by simp only [hRS n hn]
  constructor
  · exact h.unread
  · simpa only [hvalues] using h.reads
  · simpa only [hbad] using h.refuses
  · simpa only [hbad] using @h.ignores
  · simpa only [hvalues] using @h.applies

/-- Whole numbers are bound as the integers that they are taken as, and refused if one is taken
as none. Unless one lies in the stretch below the least integer, only the integers of 64 bits are
taken as such, each as itself. -/
theorem takesWhole_numerals (hread : ∀ i ∈ numerals, Json.Number.ReadsWhole read i)
    (hne : numerals ≠ []) (hj : j.items = numerals.map .ofNumeral) :
    TakesWhole read TakenAs j (numerals.map (·.value)) ∧
      ((∀ i ∈ numerals, ¬RoundsToLeast i.value) →
        TakesWhole read (fun n m => n = m.toInt) j (numerals.map (·.value))) := by
  have htakes : TakesWhole read TakenAs j (numerals.map (·.value)) := by
    constructor
    · rw [RequestValue.ofJsonWith?_eq_none_iff, hj]
      simp only [List.mem_map, exists_exists_and_eq_and]
      exact exists_congr fun i => and_congr_right fun hi =>
        Scalar.ofJsonWith?_numeral_eq_none_iff (hread i hi)
    · intro ns hns
      obtain ⟨value, hvalue⟩ := exists_ofJsonWith?_of_takenAs hread hj hns
      exact ⟨value, hvalue, (ofScalars_numerals_eq_ok_iff hread hne hj hvalue).2 hns⟩
    · intro hbad value hvalue
      exact ofScalars_numerals_eq_error hread hj hbad hvalue
    · intro hbad s schema property p strategy value d hp hkind hstrategy hbackend hcolumn hvalue
      rw [perform_compile_of_isJsonColumn hbackend hp hcolumn, Property.plan_eq_bind hstrategy,
        hkind, ofScalars_numerals_eq_error hread hj hbad hvalue]
      rfl
    · intro s schema property p value predicate d hp hkind hvalue happlied
      obtain ⟨plan, hplan, hparams⟩ := exists_plan_of_perform_compile hp happlied
      obtain ⟨ns, hns, hvalues⟩ := Plan.values_of_plan_int hkind hplan
      exact ⟨ns, (ofScalars_numerals_eq_ok_iff hread hne hj hvalue).1 hns, hparams.trans hvalues⟩
  refine ⟨htakes, fun houtside => htakes.congr fun n hn m => ?_⟩
  obtain ⟨i, hi, rfl⟩ := List.mem_map.1 hn
  simp [TakenAs, houtside i hi]

/-- A list of the greatest and the least integer of 64 bits, and a number beside each of them. -/
theorem takesWhole_numerals_ends :
    (∀ i : Numeral, Json.Number.ReadsWhole Json.Number.ofLiteral? i) ∧
    TakesWhole Json.Number.ofLiteral? TakenAs
      (.array [.number "9223372036854775807", .number "-9223372036854775808"])
      [9223372036854775807, -9223372036854775808] ∧
    TakesWhole Json.Number.ofLiteral? (fun n m => n = m.toInt) (.number "9223372036854775808")
      [9223372036854775808] := by
  have hread := Json.Number.readsWhole_ofLiteral?
  have hends := takesWhole_numerals (fun i _ => hread i)
    (j := .array [.number "9223372036854775807", .number "-9223372036854775808"])
    (List.cons_ne_nil (.ofInt 9223372036854775807) [.ofInt (-9223372036854775808)]) rfl
  have habove := takesWhole_numerals (fun i _ => hread i) (j := .number "9223372036854775808")
    (List.cons_ne_nil (.ofInt 9223372036854775808) []) rfl
  simp only [List.map_cons, List.map_nil, Numeral.value_ofInt] at hends habove
  refine ⟨hread, hends.1, habove.2 ?_⟩
  simp [RoundsToLeast]

/-- The number just below all integers of 64 bits is bound as the least of them. -/
theorem not_takesWhole_below :
    ¬TakesWhole Json.Number.ofLiteral? (fun n m => n = m.toInt) (.number "-9223372036854775809")
      [-9223372036854775809] := by
  intro h
  have hread : RequestValue.ofJsonWith? Json.Number.ofLiteral? (.number "-9223372036854775809") =
      some (.one (.float Double.leastInt64)) := by decide +kernel
  have hbad : ∃ n ∈ [(-9223372036854775809 : ℤ)], ∀ m : Int64, ¬n = m.toInt := by
    refine ⟨_, List.mem_singleton_self _, fun m hm => ?_⟩
    have := m.le_toInt
    omega
  have hrefused := h.refuses hbad _ hread
  have hbound : TypedValues.ofScalars .int (RequestValue.one (.float Double.leastInt64)).toList =
      .ok (.ints [Int64.minValue]) := by decide +kernel
  rw [hbound] at hrefused
  cases hrefused

end Numerals

end Drafting

end PropertyFilter
