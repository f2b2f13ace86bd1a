import PropertyFilter.Proofs.Double.Text
import PropertyFilter.Proofs.TypedValues.Integer

/-!
# Readers of number literals

What is said of JSON numbers depends on the reader of their literals, and readers differ in the
doubles that they choose. So a reader is described by what it promises: that it reads the integers
of 64 bits as such, or that it reads a whole number exactly where it is such an integer and
otherwise as the nearest double. The reader that rounds keeps both promises.

## Main definitions

* `Json.Number.text`, `Json.Number.value` — a number as it is written, and what it is
* `Json.Number.ReadsIntegers` — a reader reads the integers of 64 bits
* `Json.Number.ReadsWhole` — a reader reads a whole number of any length

## Main results

* `Json.Number.text_eq_iff` — when a number is written as it was spelled
* `Json.Number.ofLiteral?_text` — the reader that rounds reads a number back from its text
* `Json.Number.readsIntegers_ofLiteral?`, `Json.Number.readsWhole_ofLiteral?` — it keeps both
  promises
-/

namespace PropertyFilter

open Decimal (Literal Numeral)

/-- Digits with an optional sign as a JSON number. -/
def Json.ofNumeral (i : Numeral) : Json := number (String.ofList i.text)

namespace Json.Number

/-- A number as it is written. -/
def text : Number → String
  | integer n => toString n.toInt
  | double x => x.text Double.marked

/-- The number that a number is. -/
def value : Number → ℚ
  | integer n => n.toInt
  | double x => x.value

/-- A reader reads the integers of 64 bits, which are spelled in digits alone behind an optional
minus sign. -/
def ReadsIntegers (read : Reader) : Prop := ∀ n : Int64, read (toString n.toInt) = some (integer n)

/-- A reader reads a whole number: an integer of 64 bits as what it is, and any other as the nearest
double. It refuses a number that lies beyond all doubles. -/
structure ReadsWhole (read : Reader) (i : Numeral) : Prop where
  inside : IsInt64 i.value → ∃ n, read (String.ofList i.text) = some n ∧ n.value = i.value
  outside : ¬IsInt64 i.value → |(i.value : ℚ)| < Double.limit →
    ∃ x, read (String.ofList i.text) = some (double x) ∧ Double.RoundsTo i.value x
  beyond : Double.limit ≤ |(i.value : ℚ)| → read (String.ofList i.text) = none

/-- A number is written with the spelling that it was read from just if that is the spelling of an
integer, or the text of the double that was read. -/
theorem text_eq_iff {read : Reader} (hread : ReadsIntegers read) {literal : String} {n : Number}
    (h : read literal = some n) : n.text = literal ↔
      (∃ i : Int64, literal = toString i.toInt) ∨
        ∃ x, read literal = some (double x) ∧ literal = x.text Double.marked := by
  constructor
  · rintro rfl
    cases n with
    | integer i => exact .inl ⟨i, rfl⟩
    | double x => exact .inr ⟨x, h, rfl⟩
  · rintro (⟨i, rfl⟩ | ⟨x, hx, htext⟩)
    · obtain rfl := Option.some.inj (h.symm.trans (hread i))
      rfl
    · obtain rfl := Option.some.inj (h.symm.trans hx)
      exact htext.symm

/-! ### The reader that rounds -/

/-- The number nearest to a literal that is not read as an integer. -/
def nearest? (cs : List Char) : Option Number :=
  ((Decimal.parse? cs).bind Decimal.toDouble?).map double

theorem ofLiteral?_eq (literal : String) : ofLiteral? literal =
    match Decimal.integer? literal.toList with
    | none => nearest? literal.toList
    | some i =>
      if i = 0 && literal.toList.head? == some '-' then nearest? literal.toList
      else
        match toInt64? i with
        | none => nearest? literal.toList
        | some n => some (integer n) := by
  rw [nearest?, Option.map_bind]
  unfold ofLiteral?
  simp only
  cases Decimal.integer? literal.toList with
  | none => rfl
  | some i =>
    simp only
    cases toInt64? i <;> rfl

/-- A number is read back from its text. -/
theorem ofLiteral?_text (n : Number) : ofLiteral? n.text = some n := by
  cases n with
  | integer n =>
    have hinteger : Decimal.integer? (toString n.toInt).toList = some n.toInt :=
      Decimal.integer?_eq_some_iff.2 ⟨.ofInt n.toInt, Decimal.Numeral.text_ofInt _,
        Decimal.Numeral.value_ofInt _⟩
    -- zero with a sign is read as a double, but the integer zero is written without one
    have hzero : ¬(n.toInt = 0 && (toString n.toInt).toList.head? == some '-') := by
      simp only [Bool.and_eq_true, decide_eq_true_eq, beq_iff_eq, not_and]
      rintro hn
      rw [hn]
      decide
    rw [ofLiteral?_eq, text, hinteger]
    simp only [hzero, toInt64?_eq_some_iff.2 (rfl : n.toInt = n.toInt)]
    rfl
  | double x =>
    obtain ⟨hread, hinteger⟩ := Double.toDouble?_text_marked x
    rw [ofLiteral?_eq, text, hinteger]
    exact congrArg (Option.map double) hread

theorem readsIntegers_ofLiteral? : ReadsIntegers ofLiteral? :=
  fun n => ofLiteral?_text (integer n)

/-- What is read from a whole number: a double if it is no integer of 64 bits, or if it is a zero
behind a minus sign. -/
theorem ofLiteral?_numeral_cases (i : Numeral) :
    (∃ n : Int64, i.value = n.toInt ∧ ofLiteral? (String.ofList i.text) = some (integer n)) ∨
    ((¬IsInt64 i.value ∨ i.value = 0) ∧ ofLiteral? (String.ofList i.text) =
      (Literal.ofNumeral i).decimal.toDouble?.map double) := by
  have hinteger : Decimal.integer? i.text = some i.value :=
    Decimal.integer?_eq_some_iff.2 ⟨i, rfl, rfl⟩
  have hnearest : nearest? i.text = (Literal.ofNumeral i).decimal.toDouble?.map double := by
    rw [nearest?, ← Literal.text_ofNumeral, Literal.parse?_text, Option.bind_some]
  rw [ofLiteral?_eq, String.toList_ofList, hinteger]
  simp only
  split_ifs with hzero
  · rw [Bool.and_eq_true, decide_eq_true_eq] at hzero
    exact .inr ⟨.inr hzero.1, hnearest⟩
  · cases hi : toInt64? i.value with
    | none =>
      refine .inr ⟨.inl ?_, hnearest⟩
      rintro ⟨n, hn⟩
      rw [toInt64?_eq_some_iff.2 (by exact_mod_cast hn.symm : n.toInt = i.value)] at hi
      cases hi
    | some n => exact .inl ⟨n, (toInt64?_eq_some_iff.1 hi).symm, rfl⟩

theorem readsWhole_ofLiteral? (i : Numeral) : ReadsWhole ofLiteral? i where
  inside hi := by
    rcases ofLiteral?_numeral_cases i with ⟨n, hn, hread⟩ | ⟨hout | hzero, hread⟩
    · exact ⟨.integer n, hread, by rw [value, hn]⟩
    · exact absurd hi hout
    · -- zero is a double
      have hround : Double.RoundsTo (Literal.ofNumeral i).decimal.value (.zero false) := by
        rw [Literal.value_decimal, Literal.value_ofNumeral, hzero, Int.cast_zero,
          ← Double.value_zero false]
        exact Double.roundsTo_value _
      obtain ⟨x, hx, hvalue⟩ := Decimal.exists_toDouble?_iff.2 ⟨_, hround, rfl⟩
      refine ⟨.double x, by rw [hread, hx, Option.map_some], ?_⟩
      rw [value, hvalue, Double.value_zero, hzero, Int.cast_zero]
  outside hi hlt := by
    rcases ofLiteral?_numeral_cases i with ⟨n, hn, -⟩ | ⟨-, hread⟩
    · exact absurd ⟨n, by rw [hn]⟩ hi
    · obtain ⟨x, hround, -⟩ := Double.exists_roundsTo hlt
      rw [← Literal.value_ofNumeral, ← Literal.value_decimal] at hround ⊢
      obtain ⟨y, hy, -⟩ := Decimal.exists_toDouble?_iff.2 ⟨x, hround, rfl⟩
      exact ⟨y, by rw [hread, hy, Option.map_some], (Decimal.roundsTo_of_toDouble?_eq_some hy).1⟩
  beyond hle := by
    rcases ofLiteral?_numeral_cases i with ⟨n, hn, -⟩ | ⟨-, hread⟩
    · exact absurd (IsInt64.abs_lt_limit ⟨n, by rw [hn]⟩) (not_lt.2 hle)
    · rw [hread, Option.map_eq_none_iff, Decimal.toDouble?_eq_none_iff, Literal.value_decimal,
        Literal.value_ofNumeral]
      exact hle

end Json.Number

end PropertyFilter
