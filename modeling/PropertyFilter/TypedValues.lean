import PropertyFilter.Outcome
import PropertyFilter.Property.Strategy
import PropertyFilter.Scalar
import PropertyFilter.Text.Blank

/-!
# Typed values

The values of a request as values of a property's type. One value that is not of the type
spoils them all.

## Main definitions

* `Scalar.toInteger?`, `Scalar.toDecimalText?`, `Scalar.toBool?` — one value as a value of a type
* `TypedValues` — the values of a request
* `TypedValues.ofScalars` — all values of a request as values of a type
-/

namespace PropertyFilter

namespace Scalar

/-- The integer of 64 bits that a number is: nothing is behind its point, and it lies among them. -/
def integerOfDouble? (x : Binary64) : Option Int64 :=
  if x.IsWhole ∧ x.WithinInt64 then some x.toInt64 else none

/-- The finite double that a text writes, blanks around it aside. The words for an infinite number
and for none are kept out by their characters, before the text is read. -/
def doubleOfText? (s : String) : Option Double :=
  let cs := Text.trim s.toList
  if Decimal.isPlain cs then (Binary64.ofText? cs).bind Binary64.finite? else none

/-- A value as an integer. A text may write it as an integer of any length, or as a decimal
number of which the nearest double counts. -/
def toInteger? : Scalar → Option Int64
  | bool _ => none
  | int n => some n
  | float x => integerOfDouble? x
  | text s =>
    match (Decimal.integer? (Text.trim s.toList)).bind Json.toInt64? with
    | some n => some n
    | none => (doubleOfText? s).bind fun x => integerOfDouble? x

/-- A value as the text of a decimal number. A text is kept as it is written, without blanks
around it. An infinite number is none. -/
def toDecimalText? : Scalar → Option String
  | bool _ => none
  | int n => some (toString n.toInt)
  | float x => x.finite?.map (Double.text Double.marked)
  | text s => (doubleOfText? s).map fun _ => String.ofList (Text.trim s.toList)

/-- A value as a truth value. -/
def toBool? : Scalar → Option Bool
  | bool b => some b
  | text s =>
    if s = "true" || s = "1" then some true
    else if s = "false" || s = "0" then some false
    else none
  | _ => none

end Scalar

/-- The values of a request, as values of a property's type. -/
inductive TypedValues where
  | strings (values : List String)
  | ints (values : List Int64)
  /-- Decimal numbers, as they are written. -/
  | floats (values : List String)
  | bool (value : Bool)
deriving DecidableEq

namespace TypedValues

/-- All values of a request as values of a type, or the reason why they are refused. Of several
truth values the first counts. -/
def ofScalars (kind : PropertyType) : List Scalar → Except IgnoredReason TypedValues
  | [] => .error .emptyValue
  | first :: rest =>
    match kind with
    | .string => .ok (strings ((first :: rest).map Scalar.display))
    | .int =>
      match (first :: rest).mapM Scalar.toInteger? with
      | some values => .ok (ints values)
      | none => .error .invalidNumeric
    | .float =>
      match (first :: rest).mapM Scalar.toDecimalText? with
      | some values => .ok (floats values)
      | none => .error .invalidNumeric
    | .bool =>
      match first.toBool? with
      | some value => .ok (bool value)
      | none => .error .invalidBoolean

end TypedValues

end PropertyFilter
