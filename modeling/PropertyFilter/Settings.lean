import PropertyFilter.Resource
import PropertyFilter.Settings.File

/-!
# Settings

The resources that can be queried, checked, and the URL of the database.

## Main definitions

* `SettingsError` — why settings cannot be used
* `Settings.ofFile` — checks a file
* `Settings.resource` — looks a resource up

## Main results

* `Resource.ofEntry_eq_ok_iff`, `Settings.resource_eq_ok_iff` — when an entry is accepted, and when
  a resource is found
-/

namespace PropertyFilter

/-- Why settings cannot be used. -/
inductive SettingsError where
  | fileMissing (path : String)
  | fileUnreadable (path : String)
  | fileMalformed (path : String)
  | invalidFilters (resource : String) (cause : FilterError)
  | badTable (resource table : String)
  | badAlias (resource tableAlias : String)
  | badColumn (resource column : String)
  | unknownResource (name : String) (known : List String)
deriving DecidableEq, Repr

/-- An error in words. -/
def SettingsError.message : SettingsError → String
  | fileMissing path => "Config file not found: " ++ path
  | fileUnreadable path => "Failed to read config file: " ++ path
  | fileMalformed path => "Failed to parse config file: " ++ path
  | invalidFilters resource cause =>
    "Invalid filters for resource '" ++ resource ++ "': " ++ cause.message
  | badTable resource table =>
    "Configuration error: resources." ++ resource ++ ".table '" ++ table ++
      "' is not a valid identifier"
  | badAlias resource tableAlias =>
    "Configuration error: resources." ++ resource ++ ".alias '" ++ tableAlias ++
      "' is not a valid identifier"
  | badColumn resource column =>
    "Configuration error: resources." ++ resource ++ ".columns '" ++ column ++
      "' is not a valid identifier"
  | unknownResource name known =>
    "Unknown resource '" ++ name ++ "'. Configured resources: [" ++
      String.intercalate ", " known ++ "]"

/-- The resource that an entry describes, unless one of its properties is bad. -/
def Resource.ofEntry (name : String) (entry : ResourceEntry) : Except SettingsError Resource :=
  match FilterSet.ofEntries entry.filters.toList with
  | .ok filters => .ok ⟨name, entry.schema, filters⟩
  | .error cause => .error (.invalidFilters name cause)

theorem Resource.ofEntry_eq_ok_iff {name : String} {entry : ResourceEntry} {r : Resource} :
    ofEntry name entry = .ok r ↔
      ∃ filters, FilterSet.ofEntries entry.filters.toList = .ok filters ∧
        r = ⟨name, entry.schema, filters⟩ := by
  unfold ofEntry
  cases FilterSet.ofEntries entry.filters.toList <;> simp [eq_comm]

/-- The first name of a resource that cannot be written into SQL text: the table comes before
the alias, and the alias before the columns in their order. -/
def Resource.defect? (r : Resource) : Option SettingsError :=
  if !Sql.isIdentifier r.schema.table then some (.badTable r.name r.schema.table)
  else if !Sql.isIdentifier r.schema.tableAlias then some (.badAlias r.name r.schema.tableAlias)
  else (r.schema.columns.keys.find? fun c => !Sql.isIdentifier c).map (.badColumn r.name)

/-- Checked settings. -/
structure Settings where
  /-- The URL of the database. -/
  databaseUrl : Option String
  /-- The resources. -/
  resources : SortedMap Resource

namespace Settings

/-- Checks a file. The properties of all resources are checked before the names of any; a URL
that is given apart from the file takes precedence. -/
def ofFile (file : SettingsFile) (url : Option String) : Except SettingsError Settings := do
  let resources ← file.resources.toList.mapM fun e => Resource.ofEntry e.1 e.2
  match resources.findSome? Resource.defect? with
  | some defect => .error defect
  | none => .ok ⟨url.or file.databaseUrl, .ofList (resources.map fun r => (r.name, r))⟩

/-- The resource of a name. -/
def resource (s : Settings) (name : String) : Except SettingsError Resource :=
  match s.resources.get? name with
  | some r => .ok r
  | none => .error (.unknownResource name s.resources.keys)

theorem resource_eq_ok_iff {s : Settings} {name : String} {r : Resource} :
    s.resource name = .ok r ↔ s.resources.get? name = some r := by
  unfold resource
  cases s.resources.get? name <;> simp

/-- The events that are logged while settings are checked. -/
def warnings (s : Settings) : List LogEvent :=
  s.resources.values.flatMap fun r => FilterSet.warnings r.filters.toList

end Settings

/-- The event that is logged for names that mean nothing in a file, if there are any. -/
def SettingsFile.warning? (file : SettingsFile) : Option LogEvent :=
  match file.unknownNames? with
  | none => none
  | some [] => none
  | some names => some ⟨.warn, "Unknown fields in config file (possible typos)",
      [("fields", String.intercalate ", " names)]⟩

end PropertyFilter
