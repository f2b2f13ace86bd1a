import PropertyFilter.Text.Case
import PropertyFilter.Text.Split

/-!
# Database engines

The engines that a connection URL may name, and which of them can read JSON properties.

## Main definitions

* `Backend` — the engines
* `Backend.ofUrl?` — the engine of a connection URL
* `Backend.isJsonCapable` — whether filters can be compiled for an engine
-/

namespace PropertyFilter

/-- A database engine. -/
inductive Backend where
  | sqlite
  | postgres
  | mysql
  | duckdb
  | clickhouse
deriving DecidableEq, Repr

namespace Backend

/-- The name of an engine. -/
def name : Backend → String
  | sqlite => "sqlite"
  | postgres => "postgres"
  | mysql => "mysql"
  | duckdb => "duckdb"
  | clickhouse => "clickhouse"

/-- The engine of a name. -/
def ofName? : String → Option Backend
  | "sqlite" => some sqlite
  | "postgres" => some postgres
  | "mysql" => some mysql
  | "duckdb" => some duckdb
  | "clickhouse" => some clickhouse
  | _ => none

/-- The engine of a URL scheme in lower case. Two engines have a second scheme. -/
def ofScheme? : String → Option Backend
  | "postgresql" => some postgres
  | "mariadb" => some mysql
  | scheme => ofName? scheme

/-- The engine of a connection URL: the text before the first colon, in any case, names it. -/
def ofUrl? (url : String) : Option Backend :=
  match Text.cut ':' url.toList with
  | (scheme, some _) => ofScheme? (String.ofList (Text.lower scheme))
  | (_, none) => none

/-- Only one engine has the operators that the compiled conditions use. -/
def isJsonCapable : Backend → Bool
  | postgres => true
  | _ => false

@[simp] theorem ofName?_name (b : Backend) : ofName? b.name = some b := by
  cases b <;> rfl

@[simp] theorem isJsonCapable_iff {b : Backend} : b.isJsonCapable ↔ b = postgres := by
  cases b <;> simp [isJsonCapable]

end Backend

end PropertyFilter
