import PropertyFilter.Sql.Identifier
import PropertyFilter.Text.Split

/-!
# Key paths

The name of a filterable property is a path: a column, and the keys that lead from the JSON
document in it to the property, separated by dots. In SQL text the keys are separated by
commas, which is how an array literal separates its elements.

## Main definitions

* `KeyPath` — a column and a comma-separated key
* `KeyPath.ofProperty` — the path that a property name writes, whatever it holds
* `KeyPath.check` — the same for names that are safe to write into SQL text

## Main results

* `ofProperty_of_check` — a checked path is the path of its property
-/

namespace PropertyFilter

/-- A column and the keys below it. -/
structure KeyPath where
  /-- The name of the column. -/
  column : String
  /-- The keys, separated by commas. -/
  key : String
deriving DecidableEq, Repr

/-- What can be wrong with the name of a property. -/
inductive PathDefect where
  | badColumn (column : String)
  | missingKey
  | badKey (segment : String)
deriving DecidableEq, Repr

/-- What is wrong, in words. -/
def PathDefect.reason : PathDefect → String
  | badColumn column => "\"" ++ column ++ "\" is not a valid column name"
  | missingKey => "missing JSON key"
  | badKey segment => "\"" ++ segment ++ "\" is not a valid JSON key"

namespace KeyPath

/-- The path of a property name: the part before the first dot is the column, and the dots after
it become commas. -/
def ofProperty (property : String) : KeyPath :=
  match Text.cut '.' property.toList with
  | (column, some keys) =>
    ⟨String.ofList column, String.ofList ([','].intercalate (keys.splitOn '.'))⟩
  | (_, none) => ⟨property, ""⟩

/-- The keys of a path, in the way an array literal separates them. -/
def segments (p : KeyPath) : List String := (p.key.toList.splitOn ',').map String.ofList

/-- The path of a property name that is safe to write into SQL text, or the first defect: the
column comes before the keys, and the keys are looked at in their order. -/
def check (property : String) : Except PathDefect KeyPath :=
  let p := ofProperty property
  if !Sql.isIdentifier p.column then .error (.badColumn p.column)
  else if p.key.isEmpty then .error .missingKey
  else
    match p.segments.find? fun s => !Sql.isKeySegment s with
    | some s => .error (.badKey s)
    | none => .ok p

/-- A checked path is the path of its property. -/
theorem ofProperty_of_check {property : String} {p : KeyPath} (h : check property = .ok p) :
    p = ofProperty property := by
  simp only [check] at h
  split at h
  · simp at h
  · split at h
    · simp at h
    · split at h
      · simp at h
      · exact (Except.ok.inj h).symm

end KeyPath

end PropertyFilter
