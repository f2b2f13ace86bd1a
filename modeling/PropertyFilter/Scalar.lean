import PropertyFilter.Binary64
import PropertyFilter.Json

/-!
# Request values

What a request gives for a property: one scalar, or several.

## Main definitions

* `Scalar` — a single value, as it came
* `Scalar.display` — a scalar as text
* `RequestValue` — one scalar or a collection
* `RequestValue.ofJson?` — the value that a JSON value writes
* `RequestValue.ofJsonWith?` — the same, with another reader of number literals
-/

namespace PropertyFilter

/-- A single value of a request. -/
inductive Scalar where
  | bool (b : Bool)
  | int (n : Int64)
  | float (x : Binary64)
  | text (s : String)
deriving DecidableEq

namespace Scalar

/-- A scalar as text. Numbers are written with all digits and without an exponent. -/
def display : Scalar → String
  | bool b => if b then "true" else "false"
  | int n => toString n.toInt
  | float x => x.text Double.plain
  | text s => s

/-- The scalar of a number. -/
def ofNumber : Json.Number → Scalar
  | .integer n => int n
  | .double x => float x

/-- The scalar that a JSON value writes, where `read` reads the literals of numbers. -/
def ofJsonWith? (read : Json.Number.Reader) : Json → Option Scalar
  | .bool b => some (bool b)
  | .number literal => (read literal).map ofNumber
  | .text s => some (text s)
  | _ => none

/-- The scalar that a JSON value writes. A number is an integer if it is one of 64 bits. -/
def ofJson? : Json → Option Scalar := ofJsonWith? Json.Number.ofLiteral?

end Scalar

/-- What a request gives for a property. -/
inductive RequestValue where
  | one (value : Scalar)
  | many (values : List Scalar)
deriving DecidableEq

namespace RequestValue

/-- The scalars of a value, in their order. -/
def toList : RequestValue → List Scalar
  | one value => [value]
  | many values => values

/-- The value that a JSON value writes, where `read` reads the literals of numbers. -/
def ofJsonWith? (read : Json.Number.Reader) : Json → Option RequestValue
  | .array items => (items.mapM (Scalar.ofJsonWith? read)).map many
  | j => (Scalar.ofJsonWith? read j).map one

/-- The value that a JSON value writes. -/
def ofJson? : Json → Option RequestValue := ofJsonWith? Json.Number.ofLiteral?

/-- The value that a JSON value writes, where the literal for a missing value stands for none. -/
def optionalOfJson? : Json → Option (Option RequestValue)
  | .null => some none
  | j => (ofJson? j).map some

end RequestValue

end PropertyFilter
