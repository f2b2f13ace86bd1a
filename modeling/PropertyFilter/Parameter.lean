import PropertyFilter.Json

/-!
# Bound parameters

The values that travel beside the SQL text. A float travels as the decimal text it was written
with, because stored JSON keeps such spellings apart.

## Main definitions

* `BoundValue`, `BoundParam` — a value, and a value with the name of its parameter
* `Predicate` — SQL text with the parameters that occur in it
-/

namespace PropertyFilter

/-- The value of a parameter. -/
inductive BoundValue where
  | int (n : Int64)
  /-- A decimal number, as it is written. -/
  | float (literal : String)
  | text (s : String)
deriving DecidableEq

namespace BoundValue

/-- The SQL type that a value is bound with. -/
def sqlType : BoundValue → String
  | int _ => "integer"
  | float _ => "float"
  | text _ => "string"

/-- A value in a report: a number for an integer, and a string for all others. -/
def toJson : BoundValue → Json
  | int n => .ofInt n.toInt
  | float literal => .text literal
  | text s => .text s

end BoundValue

/-- A named parameter and its value. -/
structure BoundParam where
  /-- The name by which SQL text refers to it. -/
  name : String
  /-- The value. -/
  value : BoundValue
deriving DecidableEq

/-- A parameter in a report. -/
def BoundParam.toJson (p : BoundParam) : Json :=
  .object [("name", .text p.name), ("value", p.value.toJson)]

/-- SQL text with the parameters that occur in it. -/
structure Predicate where
  /-- The text, with named parameters. -/
  sql : String
  /-- The parameters, in the order in which they are bound. -/
  params : List BoundParam
deriving DecidableEq

/-- A predicate in a report. -/
def Predicate.toJson (p : Predicate) : Json :=
  .object [("sql", .text p.sql), ("params", .array (p.params.map BoundParam.toJson))]

end PropertyFilter
