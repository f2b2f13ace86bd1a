import PropertyFilter.Decimal
import PropertyFilter.Double.Integer
import PropertyFilter.Double.Text

/-!
# The 64-bit binary format

The finite doubles, and what the format has besides them: two infinite numbers, and a value that is
no number. Tests and conversions answer for all of these. An infinite number is not whole, and what
is no number is neither whole nor in any range.

## Main definitions

* `Binary64` — a value of the format
* `Binary64.finite?` — the double that a value is, if it is finite
* `Binary64.text` — the text of a value in a layout
* `Binary64.IsWhole`, `Binary64.WithinInt64`, `Binary64.toInt64` — a value as an integer of 64 bits
* `Binary64.ofText?` — the value that a text writes
-/

namespace PropertyFilter

/-- A value of the 64-bit binary format. -/
inductive Binary64 where
  | finite (x : Double)
  | infinite (negative : Bool)
  | notANumber
deriving DecidableEq

namespace Binary64

instance : Coe Double Binary64 := ⟨finite⟩

/-- The double that a value is, if it is finite. -/
def finite? : Binary64 → Option Double
  | finite x => some x
  | _ => none

/-- The text of a value. Only numbers with digits are laid out. -/
def text (layout : Double.Layout) : Binary64 → String
  | finite x => x.text layout
  | infinite negative => if negative then "-inf" else "inf"
  | notANumber => "NaN"

/-- Whether nothing is behind the point. What is behind the point of an infinite number is no
number. -/
def IsWhole : Binary64 → Prop
  | finite x => x.fraction = 0
  | _ => False

instance : DecidablePred IsWhole
  | finite x => inferInstanceAs (Decidable (x.fraction = 0))
  | infinite _ => inferInstanceAs (Decidable False)
  | notANumber => inferInstanceAs (Decidable False)

/-- Whether a value lies among the integers of 64 bits. -/
def WithinInt64 : Binary64 → Prop
  | finite x => x.WithinInt64
  | _ => False

instance : DecidablePred WithinInt64
  | finite x => inferInstanceAs (Decidable x.WithinInt64)
  | infinite _ => inferInstanceAs (Decidable False)
  | notANumber => inferInstanceAs (Decidable False)

/-- The integer of 64 bits that a value becomes. An infinite number becomes the end of the integers
on its side, and what is no number becomes zero. -/
def toInt64 : Binary64 → Int64
  | finite x => x.toInt64
  | infinite negative => if negative then Int64.minValue else Int64.maxValue
  | notANumber => 0

/-- The value nearest to a decimal number, which is infinite beyond the largest double. -/
def ofDecimal (d : Decimal) : Binary64 := (d.toDouble?.map finite).getD (infinite d.negative)

/-- The value that a text writes. Words are read in upper and in lower case, behind an optional
sign. -/
def ofText? (cs : List Char) : Option Binary64 :=
  let (negative, unsigned) := Decimal.takeSign cs
  let word := unsigned.map Char.toLower
  if word = "inf".toList || word = "infinity".toList then some (infinite negative)
  else if word = "nan".toList then some notANumber
  else (Decimal.parse? cs).map ofDecimal

end Binary64

end PropertyFilter
