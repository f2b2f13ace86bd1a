import PropertyFilter.Proofs.TypedValues.Reading
import PropertyFilter.Proofs.TypedValues.WholeDouble

/-!
# Integers that are written as texts

An integer property takes a text that writes an integer of 64 bits in digits alone as that
integer. Every other number is first rounded to a double, and what is bound is the integer that
the double is. So the integer that is bound is the one that is written, unless rounding leads to
an integer of 64 bits or away from one. No such thing happens to numbers of fifteen digits.

## Main definitions

* `IsInt64` — a number is an integer of 64 bits
* `TypedValues.BindsWritten` — a text is bound as the integer that it writes
* `Decimal.Literal.Kept` — rounding does not change which integer a literal writes

## Main results

* `Scalar.toInteger?_text_eq_some_iff` — the integer that is read off a literal
* `TypedValues.bindsWritten_iff` — a text is bound as it is written just if rounding keeps it
* `TypedValues.bindsWritten_of_digits` — numbers of at most fifteen digits are bound as written
* `TypedValues.ofScalars_int_of_bindsWritten` — several texts are bound as they are written
-/

namespace PropertyFilter

open Decimal (Literal)
open Double (RoundsTo)

/-- Whether a number is an integer of 64 bits. -/
def IsInt64 (v : ℚ) : Prop := ∃ n : Int64, v = n.toInt

theorem IsInt64.abs_lt_limit {v : ℚ} (h : IsInt64 v) : |v| < Double.limit := by
  obtain ⟨n, rfl⟩ := h
  exact Double.abs_toInt_lt_limit n

/-! ### The integer of a text -/

namespace Scalar

variable {s : String} {l : Literal} {n : Int64} {x : Double}

/-- Digits alone, with an optional sign, are read off as the integer that they write. -/
theorem integer?_bind_eq_some_iff (h : l.text = Text.trim s.toList) :
    (Decimal.integer? (Text.trim s.toList)).bind Json.toInt64? = some n ↔
      l.IsWhole ∧ l.value = n.toInt := by
  simp only [← h, Option.bind_eq_some_iff, l.integer?_text_eq_some_iff, Json.toInt64?_eq_some_iff]
  exact ⟨fun ⟨m, hm, hn⟩ => hn ▸ hm, fun h => ⟨n.toInt, h, rfl⟩⟩

/-- The integer of the double of a literal is the one to which the literal is rounded. -/
theorem doubleOfText?_bind_eq_some_iff (h : l.text = Text.trim s.toList) :
    ((doubleOfText? s).bind fun x => integerOfDouble? x) = some n ↔
      ∃ x, RoundsTo l.value x ∧ x.value = n.toInt := by
  rw [doubleOfText?_eq, ← h, l.parse?_text, ← l.value_decimal, ← Decimal.exists_toDouble?_iff,
    Option.bind_some]
  simp only [Option.bind_eq_some_iff, integerOfDouble?_eq_some_iff]

/-- An integer of 64 bits that is written in digits alone is read off exactly; every other literal
gives the integer to which it is rounded. -/
theorem toInteger?_text_eq_some_iff (h : l.text = Text.trim s.toList) :
    (text s).toInteger? = some n ↔
      l.IsWhole ∧ l.value = n.toInt ∨
        ¬(l.IsWhole ∧ IsInt64 l.value) ∧ ∃ x, RoundsTo l.value x ∧ x.value = n.toInt := by
  rw [toInteger?, ← doubleOfText?_bind_eq_some_iff h, ← integer?_bind_eq_some_iff h]
  cases hwhole : (Decimal.integer? (Text.trim s.toList)).bind Json.toInt64? with
  | some m =>
    have hm := (integer?_bind_eq_some_iff h).1 hwhole
    have hread : l.IsWhole ∧ IsInt64 l.value := ⟨hm.1, m, hm.2⟩
    simp [hread]
  | none =>
    have hread : ¬(l.IsWhole ∧ IsInt64 l.value) := by
      rintro ⟨hl, m, hm⟩
      rw [(integer?_bind_eq_some_iff h).2 ⟨hl, hm⟩] at hwhole
      cases hwhole
    simp [hread]

/-- A text outside the grammar writes no integer. -/
theorem toInteger?_text_eq_none (h : ∀ l : Literal, l.text ≠ Text.trim s.toList) :
    (text s).toInteger? = none := by
  have hparse : Decimal.parse? (Text.trim s.toList) = none := by
    rw [Option.eq_none_iff_forall_ne_some]
    intro d hd
    obtain ⟨l, hl, -⟩ := Decimal.parse?_eq_some_iff.1 hd
    exact h l hl
  have hinteger : Decimal.integer? (Text.trim s.toList) = none := by
    rw [Option.eq_none_iff_forall_ne_some]
    intro i hi
    obtain ⟨i, hi, -⟩ := Decimal.integer?_eq_some_iff.1 hi
    exact h (Literal.ofNumeral i) (by rw [Literal.text_ofNumeral, hi])
  simp [toInteger?, doubleOfText?_eq, hparse, hinteger]

end Scalar

/-- Rounding does not change which integer of 64 bits a literal writes: it is not rounded at all,
or to itself, or neither it nor the double is such an integer. -/
def Decimal.Literal.Kept (l : Literal) : Prop :=
  l.IsWhole ∧ IsInt64 l.value ∨
    ∀ x, RoundsTo l.value x → x.value = l.value ∨ ¬IsInt64 x.value ∧ ¬IsInt64 l.value

/-- A literal is read off as the integer that it writes just if rounding keeps it. -/
theorem Scalar.toInteger?_text_iff_kept {s : String} {l : Literal}
    (h : l.text = Text.trim s.toList) :
    (∀ n : Int64, (text s).toInteger? = some n ↔ l.value = n.toInt) ↔ l.Kept := by
  by_cases hwhole : l.IsWhole ∧ IsInt64 l.value
  · refine iff_of_true (fun n => ?_) (.inl hwhole)
    rw [toInteger?_text_eq_some_iff h]
    simp [hwhole]
  simp only [toInteger?_text_eq_some_iff h, Decimal.Literal.Kept, hwhole, not_false_eq_true,
    true_and, false_or]
  have hdigits : ∀ n : Int64, ¬(l.IsWhole ∧ l.value = n.toInt) :=
    fun n ⟨hl, hn⟩ => hwhole ⟨hl, n, hn⟩
  simp only [hdigits, false_or]
  -- an integer double is what is bound, and an integer literal is what should be
  constructor
  · intro hall x hx
    by_cases hint : IsInt64 x.value
    · obtain ⟨n, hn⟩ := hint
      exact .inl (hn.trans ((hall n).1 ⟨x, hx, hn⟩).symm)
    · refine .inr ⟨hint, ?_⟩
      rintro ⟨n, hn⟩
      obtain ⟨y, hy, hyn⟩ := (hall n).2 hn
      exact hint ⟨n, (hx.unique hy).trans hyn⟩
  · intro hkept n
    constructor
    · rintro ⟨x, hx, hn⟩
      obtain heq | ⟨hint, -⟩ := hkept x hx
      · exact heq.symm.trans hn
      · exact absurd ⟨n, hn⟩ hint
    · intro hn
      obtain ⟨x, hx, -⟩ := Double.exists_roundsTo (IsInt64.abs_lt_limit ⟨n, hn⟩)
      obtain heq | ⟨-, hint⟩ := hkept x hx
      · exact ⟨x, hx, heq.trans hn⟩
      · exact absurd ⟨n, hn⟩ hint

/-! ### Short numbers -/

namespace Decimal.Literal

variable {l : Literal}

/-- A number of at most 53 bits in units of a power of ten that is not too small is kept. -/
theorem kept_of_lt (hsize : l.decimal.significand * 10 ^ l.decimal.scale.toNat < 2 ^ 53)
    (hscale : -323 ≤ l.decimal.scale) : l.Kept := by
  obtain ⟨n, hn, hvalue⟩ := l.decimal.exists_value_eq_div
  rw [value_decimal] at hvalue
  refine .inr fun x hx => ?_
  rw [hvalue] at hx ⊢
  refine (hx.eq_or_forall_ne (by omega) (by omega)).imp_right fun hne => ⟨?_, ?_⟩
  · rintro ⟨i, hi⟩
    exact (hne i.toInt).1 hi
  · rintro ⟨i, hi⟩
    exact (hne i.toInt).2 hi

/-- A number of at most fifteen digits without an exponent is kept. -/
theorem kept_of_digits (hexponent : l.exponent = none)
    (hdigits : (l.whole ++ l.places).length ≤ 15) : l.Kept := by
  have hscale : l.decimal.scale = -l.places.length := by
    simp [decimal, power, hexponent]
  have hall : IsDigits (l.whole ++ l.places) := fun c hc =>
    (List.mem_append.1 hc).elim (l.whole_isDigits c) (l.places_isDigits c)
  have hsignificand : l.decimal.significand < 10 ^ 15 :=
    (natural_lt hall).trans_le (Nat.pow_le_pow_right (by decide) hdigits)
  rw [List.length_append] at hdigits
  apply kept_of_lt
  · rw [show l.decimal.scale.toNat = 0 by omega]
    omega
  · omega

end Decimal.Literal

/-! ### Binding texts -/

namespace TypedValues

open Decimal (Writes)

section Integers

variable {values : List Scalar} {ns : List Int64}

/-- Values are integers if each is one. -/
theorem ofScalars_int_eq_ok_iff (h : values ≠ []) : ofScalars .int values = .ok (.ints ns) ↔
    List.Forall₂ (fun v n => v.toInteger? = some n) values ns := by
  rw [← Text.mapM_eq_some_iff]
  obtain ⟨v, vs, rfl⟩ := List.exists_cons_of_ne_nil h
  simp only [ofScalars]
  cases (v :: vs).mapM Scalar.toInteger? <;> simp

/-- One value that is no integer spoils them all. -/
theorem ofScalars_int_eq_error_iff (h : values ≠ []) :
    ofScalars .int values = .error .invalidNumeric ↔ ∃ v ∈ values, v.toInteger? = none := by
  rw [← Text.mapM_eq_none_iff]
  obtain ⟨v, vs, rfl⟩ := List.exists_cons_of_ne_nil h
  simp only [ofScalars]
  cases (v :: vs).mapM Scalar.toInteger? <;> simp

end Integers

/-- An integer property takes a text as the integer that it writes, and no other text. -/
structure BindsWritten (s : String) : Prop where
  binds : ∀ n : Int64, ofScalars .int [.text s] = .ok (.ints [n]) ↔ Writes s n.toInt
  refuses : ofScalars .int [.text s] = .error .invalidNumeric ↔ ∀ n : Int64, ¬Writes s n.toInt

theorem bindsWritten_iff_toInteger? {s : String} :
    BindsWritten s ↔ ∀ n : Int64, (Scalar.text s).toInteger? = some n ↔ Writes s n.toInt := by
  have hok : ∀ n, ofScalars .int [.text s] = .ok (.ints [n]) ↔
      (Scalar.text s).toInteger? = some n := fun n => by
    simp [ofScalars_int_eq_ok_iff]
  have herror : ofScalars .int [.text s] = .error .invalidNumeric ↔
      (Scalar.text s).toInteger? = none := by
    simp [ofScalars_int_eq_error_iff]
  constructor
  · intro h n
    rw [← hok, h.binds]
  · intro h
    refine ⟨fun n => (hok n).trans (h n), ?_⟩
    simp only [herror, ← h, Option.eq_none_iff_forall_ne_some, ne_eq]

/-- A literal is bound as the integer that it writes just if rounding keeps it. -/
theorem bindsWritten_iff_kept {s : String} {l : Literal} (h : l.text = Text.trim s.toList) :
    BindsWritten s ↔ l.Kept := by
  rw [bindsWritten_iff_toInteger?, ← Scalar.toInteger?_text_iff_kept h]
  simp only [Decimal.writes_iff h]

/-- Numbers of at most fifteen digits are bound as they are written. -/
theorem bindsWritten_of_digits {s : String} {l : Literal} (h : l.text = Text.trim s.toList)
    (hexponent : l.exponent = none) (hdigits : (l.whole ++ l.places).length ≤ 15) :
    BindsWritten s :=
  (bindsWritten_iff_kept h).2 (Literal.kept_of_digits hexponent hdigits)

example : ofScalars .int [.text " +12.0"] = .ok (.ints [12]) := rfl

/-- A text is bound as the integer that it writes just if rounding keeps the number. A text that
writes no number is bound as none. -/
theorem bindsWritten_iff (s : String) :
    BindsWritten s ↔ ∀ l : Literal, l.text = Text.trim s.toList → l.Kept := by
  by_cases hliteral : ∃ l : Literal, l.text = Text.trim s.toList
  · obtain ⟨l, hl⟩ := hliteral
    constructor
    · intro h m hm
      exact (bindsWritten_iff_kept hm).1 h
    · intro h
      exact (bindsWritten_iff_kept hl).2 (h l hl)
  · have hnone := Scalar.toInteger?_text_eq_none (s := s) fun l hl => hliteral ⟨l, hl⟩
    refine iff_of_true (bindsWritten_iff_toInteger?.2 fun n => ?_)
      fun l hl => absurd ⟨l, hl⟩ hliteral
    rw [hnone]
    exact iff_of_false nofun fun ⟨l, hl, _⟩ => hliteral ⟨l, hl⟩

/-- The number just below all integers of 64 bits is rounded to the least of them. -/
theorem not_bindsWritten_below : ¬BindsWritten "-9223372036854775809" := by
  intro h
  have hbound : ofScalars .int [.text "-9223372036854775809"] =
      .ok (.ints [Int64.minValue]) := rfl
  obtain ⟨l, htext, hvalue⟩ := (h.binds _).1 hbound
  have hdecimal : some l.decimal = some ⟨true, 9223372036854775809, 0⟩ := by
    rw [← l.parse?_text, htext]
    rfl
  rw [← l.value_decimal, Option.some.inj hdecimal] at hvalue
  rw [show Int64.minValue.toInt = -2 ^ 63 from rfl] at hvalue
  norm_num [Decimal.value, signed] at hvalue

/-- Several texts that are bound as they are written are bound together. -/
theorem ofScalars_int_of_bindsWritten {texts : List String} {ns : List Int64} (hne : texts ≠ [])
    (h : ∀ s ∈ texts, BindsWritten s) :
    ofScalars .int (texts.map Scalar.text) = .ok (.ints ns) ↔
      List.Forall₂ (fun s n => Writes s n.toInt) texts ns := by
  rw [ofScalars_int_eq_ok_iff (by simpa using hne), List.forall₂_map_left_iff]
  exact Text.forall₂_congr fun s hs n => bindsWritten_iff_toInteger?.1 (h s hs) n

end TypedValues

end PropertyFilter
