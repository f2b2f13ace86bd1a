import PropertyFilter.Json.Embedded
import PropertyFilter.Property.Entry
import PropertyFilter.Schema

/-!
# Settings files

The file that lists resources, read but not checked: a database URL, and for each resource its
schema and the entries of its properties.

## Main definitions

* `ResourceEntry` — a resource as it is written
* `SettingsFile` — the file
* `SettingsFile.parse?` — the file that a text writes
-/

namespace PropertyFilter

/-- A resource as it is written. -/
structure ResourceEntry where
  /-- Where the rows lie. -/
  schema : Schema
  /-- The entries of its properties. -/
  filters : SortedMap PropertyEntry

namespace ResourceEntry

/-- The entry of a property; the literal for a missing value stands for one without details. -/
def filter? : Json → Option PropertyEntry
  | .null => some .default
  | j => PropertyEntry.ofJson? j

/-- The entries of the properties; of two with one name the later counts. -/
def filters? (j : Json) : Option (SortedMap PropertyEntry) := do
  let members ← j.object?
  let entries ← members.mapM fun m => do some (m.1, ← filter? m.2)
  some (.ofList entries)

/-- The resource that a value writes. The parts of the schema stand beside the filters, and the
types of columns may be written as members with an empty object. -/
def ofJson? (j : Json) : Option ResourceEntry := do
  let members ← j.object?
  let filters ← match ← Json.member? members "filters" with
    | none => some .empty
    | some j => filters? j
  let rest := members.filter (·.1 != "filters")
  if rest.all (·.2.isSound) then
    some ⟨← Schema.ofMembers? true rest, filters⟩
  else none

end ResourceEntry

/-- A settings file. -/
structure SettingsFile where
  /-- The URL of the database. -/
  databaseUrl : Option String
  /-- The resources. -/
  resources : SortedMap ResourceEntry
  /-- Whatever else the file says at its top. -/
  rest : Json

namespace SettingsFile

/-- The file that says nothing. -/
def empty : SettingsFile := ⟨none, .empty, .null⟩

/-- The names at the top of the file that mean nothing, in the order of their first use. There
are none to speak of where an embedded text takes their place and writes no object. -/
def unknownNames? (file : SettingsFile) : Option (List String) :=
  file.rest.object?.map fun members => (members.map (·.1)).eraseDups

/-- The resources of a file; of two with one name the later counts. -/
def resources? : Json → Option (SortedMap ResourceEntry)
  | .null => some .empty
  | j => do
    let members ← j.object?
    let entries ← members.mapM fun m => do some (m.1, ← ResourceEntry.ofJson? m.2)
    some (.ofList entries)

/-- The value of the members that mean nothing. They make up an object; if that embeds a text, the
text alone counts and the members behind it need only be sound. -/
def rest? (members : List (String × Json)) : Option Json :=
  if members.all (·.2.isSound) then
    (Json.object (if Json.embeds members then members.take 1 else members)).resolve?
  else none

/-- The file that a value writes. -/
def ofJson? (j : Json) : Option SettingsFile := do
  let members ← j.object?
  let url ← Json.member? members "database_url"
  let resources ← Json.member? members "resources"
  let others := members.filter fun m => m.1 != "database_url" && m.1 != "resources"
  some ⟨← PropertyEntry.optionalText? (url.getD .null), ← resources? (resources.getD .null),
    ← rest? others⟩

/-- The file that a text writes. -/
def parse? (s : String) : Option SettingsFile := (Json.parse? s).bind ofJson?

end SettingsFile

end PropertyFilter
