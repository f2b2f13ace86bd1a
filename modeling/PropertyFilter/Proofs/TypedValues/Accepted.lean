import PropertyFilter.Proofs.TypedValues.Decimal
import PropertyFilter.Proofs.TypedValues.Integer

/-!
# Values that are accepted

Which values a type accepts, said of the numbers that are written and not of how they are read.

## Main definitions

* `Scalar.IsNumber` — a value is a number of a type
* `Scalar.truthValues` — the values that are truth values

## Main results

* `Scalar.exists_toInteger?_iff`, `Scalar.exists_toDecimalText?_iff`, `Scalar.exists_toBool?_iff` —
  what is read as a value of a type
* `Scalar.isInteger_text_iff` — the integers among the numbers that rounding keeps
* `TypedValues.ofScalars_cases` — what becomes of the values for a type
-/

namespace PropertyFilter

open Decimal (Literal)
open Double (RoundsTo)

namespace Scalar

/-- A value is an integer of 64 bits. A finite number is one by its value. A text is one if it
writes one in digits alone, or if the number that it writes is rounded to one. -/
def IsInteger : Scalar → Prop
  | bool _ => False
  | int _ => True
  | float x => ∃ y : Double, x = y ∧ IsInt64 y.value
  | text s => ∃ l : Literal, l.text = Text.trim s.toList ∧
      (l.IsWhole ∧ IsInt64 l.value ∨ ∃ x, RoundsTo l.value x ∧ IsInt64 x.value)

/-- A value is a decimal number that is not beyond all doubles. An infinite number is none. -/
def IsDecimal : Scalar → Prop
  | bool _ => False
  | int _ => True
  | float x => ∃ y : Double, x = y
  | text s => Decimal.Fits s

/-- A value is a number of a type. -/
def IsNumber (kind : PropertyType) (v : Scalar) : Prop :=
  match kind with
  | .int => v.IsInteger
  | .float => v.IsDecimal
  | _ => False

/-- The values that are truth values. -/
def truthValues : List Scalar :=
  [bool true, bool false, text "true", text "false", text "1", text "0"]

variable {v : Scalar}

theorem exists_toInteger?_iff : (∃ n, v.toInteger? = some n) ↔ v.IsInteger := by
  cases v with
  | bool b => simp [toInteger?, IsInteger]
  | int n => simp [toInteger?, IsInteger]
  | float x =>
    simp only [toInteger?, IsInteger, integerOfDouble?_eq_some_iff_exists, IsInt64]
    rw [exists_comm]
    simp only [exists_and_left]
  | text s =>
    constructor
    · rintro ⟨n, hn⟩
      -- a text outside the grammar is no number at all
      by_cases hliteral : ∃ l : Literal, l.text = Text.trim s.toList
      · obtain ⟨l, hl⟩ := hliteral
        refine ⟨l, hl, ?_⟩
        obtain ⟨hwhole, hvalue⟩ | ⟨-, x, hround, hx⟩ := (toInteger?_text_eq_some_iff hl).1 hn
        · exact .inl ⟨hwhole, n, hvalue⟩
        · exact .inr ⟨x, hround, n, hx⟩
      · rw [toInteger?_text_eq_none fun l hl => hliteral ⟨l, hl⟩] at hn
        cases hn
    · rintro ⟨l, hl, hinteger⟩
      -- digits alone are read first, and all other numbers are rounded
      by_cases hwhole : l.IsWhole ∧ IsInt64 l.value
      · obtain ⟨n, hn⟩ := hwhole.2
        exact ⟨n, (toInteger?_text_eq_some_iff hl).2 (.inl ⟨hwhole.1, hn⟩)⟩
      · obtain ⟨x, hround, n, hn⟩ := hinteger.resolve_left hwhole
        exact ⟨n, (toInteger?_text_eq_some_iff hl).2 (.inr ⟨hwhole, x, hround, hn⟩)⟩

/-- Where rounding keeps the number that a text writes, the text is an integer just if that number
is one. -/
theorem isInteger_text_iff {s : String} {l : Literal} (h : l.text = Text.trim s.toList)
    (hkept : l.Kept) : (text s).IsInteger ↔ IsInt64 l.value := by
  rw [← exists_toInteger?_iff]
  exact exists_congr ((toInteger?_text_iff_kept h).2 hkept)

theorem exists_toDecimalText?_iff : (∃ t, v.toDecimalText? = some t) ↔ v.IsDecimal := by
  cases v with
  | bool b => simp [toDecimalText?, IsDecimal]
  | int n => simp [toDecimalText?, IsDecimal]
  | float x => cases x <;> simp [toDecimalText?, IsDecimal, Binary64.finite?]
  | text s =>
    simp only [toDecimalText?_text_eq_some_iff, ← Decimal.fits_iff, exists_and_left, exists_eq,
      and_true, IsDecimal]

theorem exists_toBool?_iff : (∃ b, v.toBool? = some b) ↔ v ∈ truthValues := by
  cases v with
  | bool b => cases b <;> simp [toBool?, truthValues]
  | int n => simp [toBool?, truthValues]
  | float x => simp [toBool?, truthValues]
  | text s =>
    simp only [toBool?, truthValues, Bool.or_eq_true, decide_eq_true_eq]
    split_ifs with htrue hfalse
    · rcases htrue with rfl | rfl <;> simp
    · rcases hfalse with rfl | rfl <;> simp
    · simp_all

end Scalar

namespace TypedValues

variable {values : List Scalar}

/-- All values of a list are read, or one of them cannot be read. -/
theorem mapM_cases {α : Type} {f : Scalar → Option α} {P : Scalar → Prop}
    (h : ∀ v, (∃ a, f v = some a) ↔ P v) (values : List Scalar) :
    (∃ as, values.mapM f = some as ∧ ∀ v ∈ values, P v) ∨
      values.mapM f = none ∧ ∃ v ∈ values, ¬P v := by
  by_cases hall : ∀ v ∈ values, P v
  · obtain ⟨as, has⟩ := Text.exists_mapM_eq_some fun v hv => (h v).2 (hall v hv)
    exact .inl ⟨as, has, hall⟩
  · simp only [not_forall, exists_prop] at hall
    obtain ⟨v, hv, hbad⟩ := hall
    have hnone : f v = none := by
      rwa [← h, ← Option.ne_none_iff_exists', ne_eq, not_not] at hbad
    exact .inr ⟨Text.mapM_eq_none_iff.2 ⟨v, hv, hnone⟩, v, hv, hbad⟩

/-- Numbers are accepted just if each value is a number of the type. -/
theorem ofScalars_number_cases {kind : PropertyType} (hkind : kind = .int ∨ kind = .float)
    (hne : values ≠ []) :
    ((∀ v ∈ values, v.IsNumber kind) ∧ ∃ typed, ofScalars kind values = .ok typed) ∨
      (∃ v ∈ values, ¬v.IsNumber kind) ∧ ofScalars kind values = .error .invalidNumeric := by
  rcases hkind with rfl | rfl
  · rcases mapM_cases (fun v => Scalar.exists_toInteger?_iff) values with ⟨ns, hns, hall⟩ | hbad
    · exact .inl ⟨hall, _, (ofScalars_int_eq_ok_iff hne).2 (Text.mapM_eq_some_iff.1 hns)⟩
    · exact .inr ⟨hbad.2, (ofScalars_int_eq_error_iff hne).2 (Text.mapM_eq_none_iff.1 hbad.1)⟩
  · rcases mapM_cases (fun v => Scalar.exists_toDecimalText?_iff) values with ⟨ts, hts, hall⟩ | hbad
    · exact .inl ⟨hall, _, (ofScalars_float_eq_ok_iff hne).2 (Text.mapM_eq_some_iff.1 hts)⟩
    · exact .inr ⟨hbad.2, (ofScalars_float_eq_error_iff hne).2 (Text.mapM_eq_none_iff.1 hbad.1)⟩

/-- What becomes of the values for a type: there is none, one is no number where numbers are asked
for, the first is no truth value where one is asked for, or all are accepted. -/
theorem ofScalars_cases (kind : PropertyType) (values : List Scalar) :
    (values = [] ∧ ofScalars kind values = .error .emptyValue) ∨
    (values ≠ [] ∧ (kind = .int ∨ kind = .float) ∧ (∃ v ∈ values, ¬v.IsNumber kind) ∧
      ofScalars kind values = .error .invalidNumeric) ∨
    (kind = .bool ∧ (∃ v ∈ values.head?, v ∉ Scalar.truthValues) ∧
      ofScalars kind values = .error .invalidBoolean) ∨
    (values ≠ [] ∧ (kind = .int ∨ kind = .float → ∀ v ∈ values, v.IsNumber kind) ∧
      (kind = .bool → ∀ v ∈ values.head?, v ∈ Scalar.truthValues) ∧
      ∃ typed, ofScalars kind values = .ok typed) := by
  cases values with
  | nil => exact .inl ⟨rfl, rfl⟩
  | cons first rest =>
    have hne : first :: rest ≠ [] := List.cons_ne_nil first rest
    right
    cases kind with
    | string => exact .inr (.inr ⟨hne, by simp, by simp, _, rfl⟩)
    | int =>
      rcases ofScalars_number_cases (.inl rfl) hne with ⟨hall, htyped⟩ | ⟨hbad, herror⟩
      · exact .inr (.inr ⟨hne, fun _ => hall, nofun, htyped⟩)
      · exact .inl ⟨hne, .inl rfl, hbad, herror⟩
    | float =>
      rcases ofScalars_number_cases (.inr rfl) hne with ⟨hall, htyped⟩ | ⟨hbad, herror⟩
      · exact .inr (.inr ⟨hne, fun _ => hall, nofun, htyped⟩)
      · exact .inl ⟨hne, .inr rfl, hbad, herror⟩
    | bool =>
      rw [ofScalars]
      cases hfirst : first.toBool? with
      | some b =>
        have hmem : first ∈ Scalar.truthValues := Scalar.exists_toBool?_iff.1 ⟨b, hfirst⟩
        exact .inr (.inr ⟨hne, by simp, fun _ => by simpa using hmem, _, rfl⟩)
      | none =>
        have hmem : first ∉ Scalar.truthValues := by
          simp [← Scalar.exists_toBool?_iff, hfirst]
        exact .inr (.inl ⟨rfl, ⟨first, rfl, hmem⟩, rfl⟩)

end TypedValues

end PropertyFilter
