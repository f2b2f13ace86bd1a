import PropertyFilter.Proofs.TypedValues.Reading

/-!
# Decimal numbers that are written as texts

A float property takes the texts of decimal numbers that are rounded to a finite double, and keeps
them as they are written.

## Main definitions

* `Decimal.Fits` — a text writes a decimal number that is rounded to a finite double

## Main results

* `Scalar.toDecimalText?_text_eq_some_iff` — which texts are kept as decimal numbers
* `TypedValues.ofScalars_float_texts` — which texts a float property takes, and as what
-/

namespace PropertyFilter

open Decimal (Literal Writes)

namespace Scalar

variable {s t : String}

/-- A text has a double if it writes a number below the limit. -/
theorem exists_doubleOfText?_iff : (∃ x, doubleOfText? s = some x) ↔
    ∃ l : Literal, l.text = Text.trim s.toList ∧ |l.value| < Double.limit := by
  have hdouble : ∀ l : Literal,
      (∃ x, l.decimal.toDouble? = some x) ↔ |l.value| < Double.limit := fun l => by
    rw [← l.value_decimal, ← not_le, ← Decimal.toDouble?_eq_none_iff, ← ne_eq,
      Option.ne_none_iff_exists']
  simp only [← hdouble, doubleOfText?_eq, Option.bind_eq_some_iff, Decimal.parse?_eq_some_iff]
  constructor
  · rintro ⟨x, _, ⟨l, hl, rfl⟩, hx⟩
    exact ⟨l, hl, x, hx⟩
  · rintro ⟨l, hl, x, hx⟩
    exact ⟨x, _, ⟨l, hl, rfl⟩, hx⟩

/-- A text is kept, without blanks around it, if it writes a number below the limit. -/
theorem toDecimalText?_text_eq_some_iff : (text s).toDecimalText? = some t ↔
    (∃ l : Literal, l.text = Text.trim s.toList ∧ |l.value| < Double.limit) ∧
      t = String.ofList (Text.trim s.toList) := by
  rw [toDecimalText?, Option.map_eq_some_iff, ← exists_doubleOfText?_iff, exists_and_right,
    eq_comm (a := t)]

end Scalar

/-- A text writes a decimal number that is rounded to a finite double. -/
structure Decimal.Fits (s : String) : Prop where
  matches_pattern : Text.trim s.toList ∈ pattern.matches'
  abs_lt : ∀ v, Writes s v → |v| < 2 ^ 1024 - 2 ^ 970

theorem Decimal.fits_iff {s : String} : Fits s ↔
    ∃ l : Literal, l.text = Text.trim s.toList ∧ |l.value| < Double.limit := by
  constructor
  · rintro ⟨hmatches, hlt⟩
    obtain ⟨l, hl⟩ := mem_pattern_iff.1 hmatches
    exact ⟨l, hl, hlt _ ⟨l, hl, rfl⟩⟩
  · rintro ⟨l, hl, hlt⟩
    refine ⟨mem_pattern_iff.2 ⟨l, hl⟩, fun v hv => ?_⟩
    rwa [← (writes_iff hl).1 hv]

namespace TypedValues

section Floats

variable {values : List Scalar} {literals : List String}

theorem ofScalars_float_eq_ok_iff (h : values ≠ []) :
    ofScalars .float values = .ok (.floats literals) ↔
      List.Forall₂ (fun v t => v.toDecimalText? = some t) values literals := by
  rw [← Text.mapM_eq_some_iff]
  obtain ⟨v, vs, rfl⟩ := List.exists_cons_of_ne_nil h
  simp only [ofScalars]
  cases (v :: vs).mapM Scalar.toDecimalText? <;> simp

/-- One value that is no decimal number spoils them all. -/
theorem ofScalars_float_eq_error_iff (h : values ≠ []) :
    ofScalars .float values = .error .invalidNumeric ↔ ∃ v ∈ values, v.toDecimalText? = none := by
  rw [← Text.mapM_eq_none_iff]
  obtain ⟨v, vs, rfl⟩ := List.exists_cons_of_ne_nil h
  simp only [ofScalars]
  cases (v :: vs).mapM Scalar.toDecimalText? <;> simp

end Floats

/-- A float property takes texts just if each writes a decimal number that is rounded to a finite
double, and then it takes each of them as it is written, without the blanks around it. -/
theorem ofScalars_float_texts {texts : List String} (hne : texts ≠ []) :
    (ofScalars .float (texts.map .text) =
        .ok (.floats (texts.map fun s => String.ofList (Text.trim s.toList))) ↔
      ∀ s ∈ texts, Decimal.Fits s) ∧
    (ofScalars .float (texts.map .text) = .error .invalidNumeric ↔
      ¬∀ s ∈ texts, Decimal.Fits s) := by
  have hscalars : texts.map Scalar.text ≠ [] := by simpa using hne
  have hkept : ∀ s : String, (Scalar.text s).toDecimalText? =
      some (String.ofList (Text.trim s.toList)) ↔ Decimal.Fits s := fun s => by
    rw [Scalar.toDecimalText?_text_eq_some_iff, Decimal.fits_iff, and_iff_left rfl]
  have hrefused : ∀ s : String, (Scalar.text s).toDecimalText? = none ↔ ¬Decimal.Fits s := by
    intro s
    rw [Decimal.fits_iff, ← not_iff_not, not_not, ← ne_eq, Option.ne_none_iff_exists']
    simp only [Scalar.toDecimalText?_text_eq_some_iff, exists_and_left, exists_eq, and_true]
  constructor
  · rw [ofScalars_float_eq_ok_iff hscalars, List.forall₂_map_left_iff, List.forall₂_map_right_iff,
      List.forall₂_same]
    simp only [hkept]
  · rw [ofScalars_float_eq_error_iff hscalars]
    simp only [List.mem_map, exists_exists_and_eq_and, hrefused, not_forall, exists_prop]

/-- Two numbers are kept with the zeros, the points and the signs that they are written with. -/
theorem ofScalars_float_texts_zeros : (["\t+01.50 ", "-.5E+03"] : List String) ≠ [] ∧
    ofScalars .float (["\t+01.50 ", "-.5E+03"].map .text) = .ok (.floats ["+01.50", "-.5E+03"]) ∧
      ∀ s ∈ ["\t+01.50 ", "-.5E+03"], Decimal.Fits s := by
  have hne : (["\t+01.50 ", "-.5E+03"] : List String) ≠ [] := List.cons_ne_nil _ _
  have hkept : ofScalars .float (["\t+01.50 ", "-.5E+03"].map .text) =
      .ok (.floats ["+01.50", "-.5E+03"]) := rfl
  exact ⟨hne, hkept, (ofScalars_float_texts hne).1.1 hkept⟩

example : ofScalars .float [.text "1.5", .text "-inf"] = .error .invalidNumeric := rfl

end TypedValues

end PropertyFilter
