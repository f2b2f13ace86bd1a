import PropertyFilter.FilterSet
import PropertyFilter.Request

/-!
# Descriptions

The names that requests may use, and what each of them stands for. A property that takes
several values is listed a second time, with brackets behind its name.

## Main definitions

* `Descriptor` — what a name stands for
* `FilterSet.describe` — the names of a filter set
-/

namespace PropertyFilter

/-- What a name in a request stands for. -/
structure Descriptor where
  /-- The property. -/
  property : String
  /-- What it holds. -/
  kind : PropertyType
  /-- The token of its strategy. -/
  strategyToken : String
  /-- Whether requests have to give a value. -/
  required : Bool
  /-- Whether the name collects several values. -/
  isCollection : Bool
deriving DecidableEq, Repr

/-- A descriptor in a report. -/
def Descriptor.toJson (d : Descriptor) : Json :=
  .object [("property", .text d.property), ("type", .text d.kind.token),
    ("strategy", .text d.strategyToken), ("required", .bool d.required),
    ("is_collection", .bool d.isCollection)]

/-- Whether a property is listed as taking several values: numbers do, and texts that are
compared as they are. -/
def Property.listsCollection (p : Property) : Bool :=
  match p.kind with
  | .int => true
  | .float => true
  | .string => p.strategyToken == MatchRule.exact.token
  | .bool => false

/-- The names under which a property is listed. -/
def Property.listedNames (p : Property) : List String :=
  p.name :: if p.listsCollection then [p.name ++ String.ofList Request.collectionSuffix] else []

/-- What a name stands for that a property is listed under. -/
def Property.descriptor (p : Property) (name : String) : Descriptor :=
  ⟨p.name, p.kind, p.strategyToken, p.required, Request.collectionSuffix.isSuffixOf name.toList⟩

/-- The names that requests may use. Where two properties are listed under one name, the one that
comes later in the order of names has it. -/
def FilterSet.describe (s : FilterSet) : SortedMap Descriptor :=
  .ofList (s.toList.flatMap fun p => p.listedNames.map fun name => (name, p.descriptor name))

end PropertyFilter
