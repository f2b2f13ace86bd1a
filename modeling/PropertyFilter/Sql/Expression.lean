/-!
# SQL expressions

The text of the expressions that conditions are made of. Each function puts fixed text around
the texts it is given.

## Main definitions

* `Sql.slot`, `Sql.placeholder` — a parameter by name and by position
* `Sql.extract` — the text at a key of a JSON column
* `Sql.asText`, `Sql.lower`, `Sql.concat`, `Sql.literal` — the other expressions
-/

namespace PropertyFilter.Sql

/-- A parameter by its name. -/
def slot (name : String) : String := ":" ++ name

/-- A parameter by its position, the first being one. -/
def placeholder (position : Nat) : String := "$" ++ toString position

/-- The text at a key of a JSON column. -/
def extract (column key : String) : String := column ++ " #>> '\x7b" ++ key ++ "\x7d'"

/-- A value turned into text. -/
def asText (e : String) : String := e ++ "::TEXT"

/-- A text in lower case. -/
def lower (e : String) : String := "LOWER(" ++ e ++ ")"

/-- Texts one after the other. -/
def concat (es : List String) : String := "CONCAT(" ++ String.intercalate ", " es ++ ")"

/-- A text that holds no quote, as a literal. -/
def literal (s : String) : String := "'" ++ s ++ "'"

end PropertyFilter.Sql
