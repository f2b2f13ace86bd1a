import PropertyFilter.Proofs.Decimal.Pattern
import PropertyFilter.TypedValues

/-!
# The double of a text

The double of a text is read in two steps. A test of the characters keeps out the words that stand
for an infinite number or for none, and what is left is read by a reader of floating-point texts, to
which numbers beyond all doubles are infinite. Together the two steps read the decimal numbers that
have a double, and nothing else.

## Main results

* `Decimal.isPlain_text` — decimal numbers pass the test of the characters
* `Binary64.ofText?_of_isPlain` — what passes the test is no word
* `Scalar.doubleOfText?_eq` — the double of a text is that of the decimal number it writes
-/

namespace PropertyFilter

open Decimal (Literal)

namespace Decimal

/-- Decimal numbers have no letter of the words that are read. -/
theorem toLower_ne_of_isPlainChar {c : Char} (h : isPlainChar c) : c.toLower ≠ 'n' := by
  simp only [isPlainChar, Bool.or_eq_true, decide_eq_true_eq, isDigit_iff] at h
  obtain ((((hdigit | rfl) | rfl) | rfl) | rfl) | rfl := h
  · have hall : ['0', '1', '2', '3', '4', '5', '6', '7', '8', '9'].all (·.toLower != 'n') := by
      decide
    exact bne_iff_ne.1 (List.all_eq_true.1 hall c hdigit)
  all_goals decide

theorem IsDigits.all_isPlainChar {ds : List Char} (h : IsDigits ds) : ds.all isPlainChar :=
  List.all_eq_true.2 fun c hc => by simp [isPlainChar, h c hc]

theorem Sign.all_isPlainChar (s : Sign) : s.text.all isPlainChar := by
  cases s <;> decide

theorem Literal.all_isPlainChar_point {fraction : Option (List Char)}
    (h : ∀ ds ∈ fraction, IsDigits ds) : (pointText fraction).all isPlainChar := by
  cases fraction with
  | none => rfl
  | some ds =>
    rw [pointText, List.all_cons, (h ds rfl).all_isPlainChar]
    rfl

theorem Literal.all_isPlainChar_exponent (e : Option Exponent) :
    (exponentText e).all isPlainChar := by
  cases e with
  | none => rfl
  | some e =>
    rw [exponentText, Numeral.text, List.all_cons, List.all_append, e.power.sign.all_isPlainChar,
      e.power.isDigits.all_isPlainChar]
    rcases e.isMark with hmark | hmark <;> rw [hmark] <;> rfl

theorem Literal.mem_pointText {fraction : Option (List Char)} {c : Char}
    (h : c ∈ fraction.getD []) : c ∈ pointText fraction := by
  cases fraction with
  | none => exact h
  | some ds => exact List.mem_cons_of_mem _ h

theorem isPlain_text (l : Literal) : isPlain l.text := by
  have hall : l.text.all isPlainChar := by
    rw [Literal.text, List.all_append, List.all_append, List.all_append, l.sign.all_isPlainChar,
      l.whole_isDigits.all_isPlainChar, Literal.all_isPlainChar_point l.fraction_isDigits,
      Literal.all_isPlainChar_exponent]
    rfl
  -- a digit stands before or behind the point
  have hdigit : l.text.any Char.isDigit := by
    obtain ⟨c, hc⟩ := List.exists_mem_of_ne_nil _ l.ne_nil
    rw [List.any_eq_true]
    rcases List.mem_append.1 hc with hwhole | hplaces
    · exact ⟨c, by simp [Literal.text, hwhole], l.whole_isDigits c hwhole⟩
    · exact ⟨c, by simp [Literal.text, Literal.mem_pointText hplaces], l.places_isDigits c hplaces⟩
  rw [isPlain, hdigit, hall]
  rfl

/-- Texts with other characters are no decimal numbers. -/
theorem parse?_eq_none_of_isPlain {cs : List Char} (h : ¬isPlain cs) : parse? cs = none := by
  rw [Option.eq_none_iff_forall_ne_some]
  intro d hd
  obtain ⟨l, rfl, -⟩ := parse?_eq_some_iff.1 hd
  exact h (isPlain_text l)

end Decimal

/-- The numbers that have a double are rounded to it. -/
theorem Binary64.finite?_ofDecimal (d : Decimal) : (ofDecimal d).finite? = d.toDouble? := by
  rw [ofDecimal]
  cases d.toDouble? <;> rfl

/-- A plain text is none of the words that are read. -/
theorem Binary64.ofText?_of_isPlain {cs : List Char} (h : Decimal.isPlain cs) :
    ofText? cs = (Decimal.parse? cs).map ofDecimal := by
  have hword : ∀ word : List Char, 'n' ∈ word →
      (Decimal.takeSign cs).2.map Char.toLower ≠ word := by
    rintro word hmem rfl
    obtain ⟨c, hc, hlower⟩ := List.mem_map.1 hmem
    obtain ⟨s, -, hsign⟩ := Decimal.exists_sign cs
    have hplain := List.all_eq_true.1 (Bool.and_eq_true_iff.1 h).2 c
      (hsign ▸ List.mem_append_right _ hc)
    exact Decimal.toLower_ne_of_isPlainChar hplain hlower
  unfold ofText?
  simp only [hword _ (by decide : 'n' ∈ "inf".toList),
    hword _ (by decide : 'n' ∈ "infinity".toList), hword _ (by decide : 'n' ∈ "nan".toList),
    decide_false, Bool.or_self, Bool.false_eq_true, if_false]

/-- The double of a text is the one of the decimal number that the text writes, blanks around it
aside. -/
theorem Scalar.doubleOfText?_eq (s : String) :
    doubleOfText? s = (Decimal.parse? (Text.trim s.toList)).bind Decimal.toDouble? := by
  simp only [doubleOfText?]
  split_ifs with hplain
  · rw [Binary64.ofText?_of_isPlain hplain, Option.bind_map]
    exact Option.bind_congr fun d _ => Binary64.finite?_ofDecimal d
  · rw [Decimal.parse?_eq_none_of_isPlain hplain, Option.bind_none]

end PropertyFilter
