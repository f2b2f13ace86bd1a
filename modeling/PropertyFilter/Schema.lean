import PropertyFilter.Json
import PropertyFilter.SortedMap

/-!
# Schemas

Where the rows of a resource lie: a table, the alias it has in queries, and the types of its
mapped columns. A schema is written as an object, or as an array of its parts of which only
the table is needed.

## Main definitions

* `FieldType` — the types of columns
* `Schema` — a table, an alias and columns
* `Schema.ofJson?` — the schema that a JSON value writes
-/

namespace PropertyFilter

/-- The type of a column. -/
inductive FieldType where
  | json
  | jsonb
  | text
  | integer
  | bigint
  | float
  | boolean
  | timestamp
  | uuid
deriving DecidableEq, Repr

namespace FieldType

/-- The name of a type. -/
def name : FieldType → String
  | json => "json"
  | jsonb => "jsonb"
  | text => "text"
  | integer => "integer"
  | bigint => "bigint"
  | float => "float"
  | boolean => "boolean"
  | timestamp => "timestamp"
  | uuid => "uuid"

/-- The type of a name. -/
def ofName? : String → Option FieldType
  | "json" => some json
  | "jsonb" => some jsonb
  | "text" => some text
  | "integer" => some integer
  | "bigint" => some bigint
  | "float" => some float
  | "boolean" => some boolean
  | "timestamp" => some timestamp
  | "uuid" => some uuid
  | _ => none

/-- Whether columns of a type hold JSON documents. -/
def isJson : FieldType → Bool
  | json => true
  | jsonb => true
  | _ => false

@[simp] theorem ofName?_name (t : FieldType) : ofName? t.name = some t := by
  cases t <;> rfl

end FieldType

/-- The name that a value gives to one of several alternatives: a string, or an object whose only
member has that name and no value. With `emptyCounts`, an empty object is no value either. -/
def Json.alternative? (emptyCounts : Bool) : Json → Option String
  | .text s => some s
  | .object [(name, .null)] => some name
  | .object [(name, .object [])] => if emptyCounts then some name else none
  | _ => none

/-- Where the rows of a resource lie. -/
structure Schema where
  /-- The table. -/
  table : String
  /-- The name of the table inside queries. -/
  tableAlias : String
  /-- The mapped columns. -/
  columns : SortedMap FieldType

namespace Schema

/-- The alias of a table that is configured without one. -/
def defaultAlias : String := "o"

/-- Whether a column is mapped. -/
def isMapped (s : Schema) (column : String) : Bool := s.columns.contains column

/-- Whether a column is mapped and holds JSON documents. -/
def isJsonColumn (s : Schema) (column : String) : Bool :=
  (s.columns.get? column).any FieldType.isJson

/-- The same schema with one column more, or of another type. -/
def withColumn (s : Schema) (column : String) (type : FieldType) : Schema :=
  { s with columns := s.columns.insert column type }

/-- The columns that an object writes; of two with one name the later counts. -/
def columns? (emptyCounts : Bool) (j : Json) : Option (SortedMap FieldType) := do
  let members ← j.object?
  let entries ← members.mapM fun m => do
    some (m.1, ← FieldType.ofName? (← Json.alternative? emptyCounts m.2))
  some (.ofList entries)

/-- The schema made of its parts. -/
def ofParts? (emptyCounts : Bool) (table : Json) (tableAlias columns : Option Json) :
    Option Schema := do
  let table ← table.text?
  let tableAlias ← match tableAlias with
    | none => some defaultAlias
    | some j => j.text?
  let columns ← match columns with
    | none => some .empty
    | some j => columns? emptyCounts j
  some ⟨table, tableAlias, columns⟩

/-- The schema that the members of an object write. Members with other names are passed over. -/
def ofMembers? (emptyCounts : Bool) (members : List (String × Json)) : Option Schema := do
  let table ← Json.member? members "table"
  let tableAlias ← Json.member? members "alias"
  let columns ← Json.member? members "columns"
  ofParts? emptyCounts (← table) tableAlias columns

/-- The schema that a value writes. -/
def ofJson? : Json → Option Schema
  | .object members => ofMembers? false members
  | .array [table] => ofParts? false table none none
  | .array [table, tableAlias] => ofParts? false table (some tableAlias) none
  | .array [table, tableAlias, columns] => ofParts? false table (some tableAlias) (some columns)
  | _ => none

theorem isMapped_of_isJsonColumn {s : Schema} {column : String} (h : s.isJsonColumn column) :
    s.isMapped column := by
  unfold isJsonColumn at h
  unfold isMapped SortedMap.contains
  cases hc : s.columns.get? column <;> simp_all

end Schema

end PropertyFilter
