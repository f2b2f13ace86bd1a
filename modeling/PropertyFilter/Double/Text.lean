import PropertyFilter.Double.Shortest

/-!
# The text of a double

A double is written with its shortest digits, in one of two layouts. The plain layout writes
all digits out. The marked layout always shows that the number is no integer literal: whole
numbers end in `.0`, and very large and very small numbers have an exponent.

## Main definitions

* `Double.Layout` — the decisions of a layout
* `Double.plain`, `Double.marked` — the two layouts
* `Double.text` — the text of a double in a layout
-/

namespace PropertyFilter.Double

/-- How digits are laid out. -/
structure Layout where
  /-- The places of the point for which all digits are written; elsewhere an exponent is. -/
  isPositional : Int → Bool
  /-- What follows the digits of a whole number that has no exponent. -/
  wholeEnding : List Char

/-- All digits, and no point in a whole number. -/
def plain : Layout := ⟨fun _ => true, []⟩

/-- An exponent from `10 ^ 16` upwards and below `10 ^ -4`, and `.0` after other whole numbers. -/
def marked : Layout := ⟨fun point => -3 ≤ point && point ≤ 16, ['.', '0']⟩

/-- Digits with the point at its place, and zeros where no digits are. -/
def Digits.positional (d : Digits) (ending : List Char) : List Char :=
  let places := d.point.toNat
  if d.point ≤ 0 then ['0', '.'] ++ List.replicate (-d.point).toNat '0' ++ d.digits
  else if d.digits.length ≤ places then
    d.digits ++ List.replicate (places - d.digits.length) '0' ++ ending
  else d.digits.take places ++ '.' :: d.digits.drop places

/-- One digit before the point, and the power of ten that this makes necessary. -/
def Digits.exponential (d : Digits) : List Char :=
  let tail := d.digits.drop 1
  d.digits.take 1 ++ (if tail.isEmpty then [] else '.' :: tail) ++
    'e' :: (toString (d.point - 1)).toList

/-- The text of a double in a layout. -/
def text (layout : Layout) (x : Double) : String :=
  let d := x.shortest
  let body := if layout.isPositional d.point then d.positional layout.wholeEnding else d.exponential
  String.ofList (if x.negative then '-' :: body else body)

end PropertyFilter.Double
