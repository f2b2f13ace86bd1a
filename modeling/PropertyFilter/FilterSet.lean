import PropertyFilter.Property
import PropertyFilter.SortedMap

/-!
# Filter sets

The filterable properties of one resource, by name.

## Main definitions

* `FilterSet` — the properties
* `FilterSet.check` — checks a list of entries, up to the first bad one
* `FilterSet.ofEntries` — the set of a list of entries; of two with one name the later counts

## Main results

* `ofEntries_eq_ok_iff`, `ofEntries_eq_error_iff_check` — what becomes of a list of entries
* `get?_ofEntries_name` — a property is listed under its own name
-/

namespace PropertyFilter

/-- The filterable properties of one resource. -/
structure FilterSet where
  /-- The properties, each under its name. -/
  properties : SortedMap Property

namespace FilterSet

instance : Inhabited FilterSet := ⟨⟨.empty⟩⟩

/-- Checks entries in their order, and stops at the first that is bad. -/
def check (entries : List (String × PropertyEntry)) : Except FilterError (List Property) :=
  entries.mapM fun e => Property.ofEntry e.1 e.2

/-- The set of a list of checked properties; of two with one name the later counts. -/
def ofProperties (ps : List Property) : FilterSet := ⟨.ofList (ps.map fun p => (p.name, p))⟩

/-- The set of a list of entries, unless one of them is bad. -/
def ofEntries (entries : List (String × PropertyEntry)) : Except FilterError FilterSet :=
  (check entries).map ofProperties

/-- The events that are logged while properties are checked. -/
def warnings (ps : List Property) : List LogEvent := ps.filterMap Property.warning?

/-- The property of a name. -/
def get? (s : FilterSet) (name : String) : Option Property := s.properties.get? name

/-- The properties in the order of their names. -/
def toList (s : FilterSet) : List Property := s.properties.values

/-- The number of properties. -/
def size (s : FilterSet) : Nat := s.properties.size

/-- Whether there are no properties. -/
def isEmpty (s : FilterSet) : Bool := s.properties.isEmpty

/-- A property is listed under its own name. -/
theorem name_of_get?_ofProperties {ps : List Property} {name : String} {p : Property}
    (h : (ofProperties ps).get? name = some p) : p.name = name := by
  rw [get?, ofProperties, SortedMap.get?_ofList] at h
  obtain ⟨e, he, rfl⟩ := Option.map_eq_some_iff.1 h
  have hname := List.find?_some he
  have hmem := List.mem_of_find?_eq_some he
  rw [List.mem_reverse, List.mem_map] at hmem
  obtain ⟨q, _, rfl⟩ := hmem
  simpa using hname

variable {entries : List (String × PropertyEntry)} {s : FilterSet}

theorem ofEntries_eq_ok_iff :
    ofEntries entries = .ok s ↔ ∃ ps, check entries = .ok ps ∧ s = ofProperties ps := by
  unfold ofEntries
  cases check entries <;> simp [Except.map, eq_comm]

theorem ofEntries_eq_error_iff_check {e : FilterError} :
    ofEntries entries = .error e ↔ check entries = .error e := by
  unfold ofEntries
  cases check entries <;> simp [Except.map]

/-- A property is listed under its own name. -/
theorem get?_ofEntries_name {name : String} {p : Property} (h : ofEntries entries = .ok s)
    (hp : s.get? name = some p) : p.name = name := by
  obtain ⟨ps, -, rfl⟩ := ofEntries_eq_ok_iff.1 h
  exact name_of_get?_ofProperties hp

end FilterSet

end PropertyFilter
