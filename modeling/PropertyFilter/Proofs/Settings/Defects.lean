import PropertyFilter.Proofs.FilterSet.Entries
import PropertyFilter.Proofs.Settings

/-!
# Defects of settings files

A file is refused if one of its properties is bad, or if the table, the alias or a column of one of
its resources is no identifier. The error is that of the first bad property of the first resource
that has one. Only where no resource has any do the names count, those of the first resource with a
bad one: the table before the alias, and the alias before the columns. All orders are those of
bytes. A file that is not refused is loaded as it is written.

## Main definitions

* `Schema.IsInvalid`, `Schema.Defective` — the schemas with bad names, and which name is bad
* `SettingsFile.Defective` — the first defect of a file
* `Settings.Holds` — settings hold what a file says
* `Settings.ReportsDefects` — a file is loaded or refused as described

## Main results

* `Settings.ofFile_eq_error_iff` — the error of a file is its first defect
* `Settings.get?_ofFile_eq_some_iff` — the resources of settings are those of the file
* `Settings.reportsDefects` — every file is loaded or refused as described
-/

namespace PropertyFilter

/-! ### Names -/

namespace Schema

/-- A schema has a name that cannot be written into SQL text. -/
def IsInvalid (s : Schema) : Prop :=
  ¬Sql.isIdentifier s.table ∨ ¬Sql.isIdentifier s.tableAlias ∨
    ∃ column ∈ s.columns.keys, ¬Sql.isIdentifier column

/-- Which name of the schema of a resource is bad: the table is looked at first, then the alias, and
then the columns in their order. -/
inductive Defective (resource : String) (s : Schema) : SettingsError → Prop
  | table (htable : ¬Sql.isIdentifier s.table) : Defective resource s (.badTable resource s.table)
  | tableAlias (htable : Sql.isIdentifier s.table) (halias : ¬Sql.isIdentifier s.tableAlias) :
    Defective resource s (.badAlias resource s.tableAlias)
  | column {column : String} {type : FieldType} (htable : Sql.isIdentifier s.table)
      (halias : Sql.isIdentifier s.tableAlias)
      (hcolumn : s.columns.IsFirst (fun column _ => ¬Sql.isIdentifier column) column type) :
    Defective resource s (.badColumn resource column)

variable {s : Schema} {column resource : String}

/-- The first bad column in the list of columns is the first in the order of bytes. -/
theorem find?_keys_eq_some_iff : (s.columns.keys.find? fun c => !Sql.isIdentifier c) = some column ↔
    ∃ type, s.columns.IsFirst (fun column _ => ¬Sql.isIdentifier column) column type := by
  simp only [← SortedMap.firstOf_toList_iff]
  rw [SortedMap.keys, List.find?_map, Option.map_eq_some_iff]
  simp only [find?_eq_some_iff_firstOf, Function.comp_apply, Bool.not_eq_true', Prod.exists,
    exists_and_right, exists_eq_right, Bool.not_eq_true]

/-- A schema has a bad name if one of its names is the one that is found. -/
theorem isInvalid_iff : s.IsInvalid ↔ ∃ e, s.Defective resource e := by
  have hcolumns : (∃ column ∈ s.columns.keys, ¬Sql.isIdentifier column) ↔ ∃ column type,
      s.columns.IsFirst (fun column _ => ¬Sql.isIdentifier column) column type := by
    simp only [SortedMap.exists_isFirst_iff, SortedMap.mem_keys_iff, Option.isSome_iff_exists,
      exists_and_right]
  rw [IsInvalid, hcolumns]
  constructor
  · intro h
    by_cases htable : Sql.isIdentifier s.table
    · by_cases halias : Sql.isIdentifier s.tableAlias
      · obtain ⟨column, type, hcolumn⟩ := (h.resolve_left (not_not.2 htable)).resolve_left
          (not_not.2 halias)
        exact ⟨_, .column htable halias hcolumn⟩
      · exact ⟨_, .tableAlias htable halias⟩
    · exact ⟨_, .table htable⟩
  · rintro ⟨-, htable | ⟨-, halias⟩ | ⟨-, -, hcolumn⟩⟩
    · exact .inl htable
    · exact .inr (.inl halias)
    · exact .inr (.inr ⟨_, _, hcolumn⟩)

end Schema

/-- The defect of a resource is the bad name of its schema. -/
theorem Resource.defect?_eq_some_iff {r : Resource} {e : SettingsError} :
    r.defect? = some e ↔ r.schema.Defective r.name e := by
  unfold defect?
  constructor
  · intro h
    split at h
    · rename_i htable
      obtain rfl := Option.some.inj h
      exact .table (by simpa using htable)
    · rename_i htable
      split at h
      · rename_i halias
        obtain rfl := Option.some.inj h
        exact .tableAlias (by simpa using htable) (by simpa using halias)
      · rename_i halias
        obtain ⟨column, hcolumn, rfl⟩ := Option.map_eq_some_iff.1 h
        obtain ⟨type, hfirst⟩ := Schema.find?_keys_eq_some_iff.1 hcolumn
        exact .column (by simpa using htable) (by simpa using halias) hfirst
  · intro h
    cases h with
    | table htable => rw [if_pos (by simpa using htable)]
    | tableAlias htable halias =>
      rw [if_neg (by simpa using htable), if_pos (by simpa using halias)]
    | column htable halias hcolumn =>
      rw [if_neg (by simpa using htable), if_neg (by simpa using halias),
        Schema.find?_keys_eq_some_iff.2 ⟨_, hcolumn⟩]
      rfl

/-! ### Resources -/

/-- A resource lists a property that no property can be made of. -/
def ResourceEntry.ListsInvalid (entry : ResourceEntry) : Prop :=
  ∃ property listed, entry.filters.get? property = some listed ∧ Property.IsInvalid property listed

namespace Resource

variable {name : String} {entry : ResourceEntry} {r : Resource} {e : SettingsError}

/-- A resource is refused for its first bad property. -/
theorem ofEntry_eq_error_iff : ofEntry name entry = .error e ↔ ∃ property listed cause,
    entry.filters.IsFirst Property.IsInvalid property listed ∧
      Property.Defective property listed cause ∧ e = .invalidFilters name cause := by
  have hfilters : ofEntry name entry = .error e ↔ ∃ cause,
      FilterSet.ofEntries entry.filters.toList = .error cause ∧ e = .invalidFilters name cause := by
    unfold ofEntry
    cases FilterSet.ofEntries entry.filters.toList <;> simp [eq_comm]
  simp only [hfilters, FilterSet.ofEntries_eq_error_iff, SortedMap.firstOf_toList_iff]
  constructor
  · rintro ⟨cause, ⟨property, listed, hfirst, hcause⟩, he⟩
    exact ⟨property, listed, cause, hfirst, hcause, he⟩
  · rintro ⟨property, listed, cause, hfirst, hcause, he⟩
    exact ⟨cause, ⟨property, listed, hfirst, hcause⟩, he⟩

theorem exists_ofEntry_eq_error_iff :
    (∃ e, ofEntry name entry = .error e) ↔ entry.ListsInvalid := by
  simp only [ofEntry_eq_error_iff]
  constructor
  · rintro ⟨-, property, listed, -, hfirst, -⟩
    exact ⟨property, listed, hfirst.get?, hfirst.holds⟩
  · intro h
    obtain ⟨property, listed, hfirst⟩ := SortedMap.exists_isFirst_iff.2 h
    obtain ⟨cause, hcause⟩ := Property.isInvalid_iff.1 hfirst.holds
    exact ⟨_, property, listed, cause, hfirst, Property.ofEntry_eq_error_iff.1 hcause, rfl⟩

theorem name_of_ofEntry (h : ofEntry name entry = .ok r) : r.name = name := by
  obtain ⟨_, -, rfl⟩ := ofEntry_eq_ok_iff.1 h
  rfl

end Resource

/-- A value writes a resource that lists a property without details: the last of the members for the
property is the literal for a missing value. -/
def Json.ListsBare (j : Json) (property : String) : Prop :=
  ∃ members filters, j = .object members ∧
    Json.member? members "filters" = some (some (.object filters)) ∧
      LastOf (fun m => m.1 = property) filters (property, .null)

namespace ResourceEntry

variable {entry : ResourceEntry} {property : String}

/-- Of several members for a property the last one is read. -/
theorem get?_of_filters?_eq_some {members : List (String × Json)}
    {filters : SortedMap PropertyEntry} {j : Json} (h : filters? (.object members) = some filters)
    (hlast : LastOf (fun m => m.1 = property) members (property, j)) :
    ∃ listed, filter? j = some listed ∧ filters.get? property = some listed := by
  simp only [filters?, Json.object?, Option.bind_eq_bind, Option.bind_some,
    Option.bind_eq_some_iff, Option.some.injEq, Text.mapM_eq_some_iff] at h
  obtain ⟨entries, hentries, rfl⟩ := h
  rw [← firstOf_reverse_iff] at hlast
  obtain ⟨e, he, listed, hlisted, rfl⟩ := hlast.exists_of_forall₂ (Q := fun e => e.1 = property)
    (List.forall₂_reverse_iff.2 hentries) fun m e ⟨_, _, hme⟩ => by rw [← hme]
  exact ⟨listed, hlisted, SortedMap.get?_ofList_eq_some_iff.2 (firstOf_reverse_iff.1 he)⟩

/-- A property that is listed without details has the entry for this. -/
theorem get?_filters_of_listsBare {j : Json} (h : ofJson? j = some entry)
    (hbare : j.ListsBare property) : entry.filters.get? property = some .default := by
  obtain ⟨members, filters, rfl, hmember, hlast⟩ := hbare
  have hread : filters? (.object filters) = some entry.filters := by
    simp only [ofJson?, Json.object?, hmember, Option.bind_eq_bind, Option.bind_some,
      Option.bind_eq_some_iff, Option.ite_none_right_eq_some] at h
    obtain ⟨entries, hentries, -, schema, -, hentry⟩ := h
    rw [hentries, ← Option.some.inj hentry]
  obtain ⟨listed, hlisted, hget⟩ := get?_of_filters?_eq_some hread hlast
  obtain rfl : .default = listed := Option.some.inj hlisted
  exact hget

end ResourceEntry

/-- A resource is the one that an entry describes: its schema is left as it is, and its properties
are those that are configured. A property that is listed without details is a string that has to be
matched exactly, and requests may leave it out. -/
structure Resource.Described (name : String) (entry : ResourceEntry) (r : Resource) : Prop where
  name : r.name = name
  schema : r.schema = entry.schema
  keys : r.filters.properties.keys = entry.filters.keys
  configured : ∀ property p, r.filters.get? property = some p →
    ∃ listed, entry.filters.get? property = some listed ∧ p.Configured property listed
  bare : ∀ j property, ResourceEntry.ofJson? j = some entry → j.ListsBare property →
    r.filters.get? property =
      some ⟨property, .ofProperty property, .string, "exact", some ⟨.exact, true⟩, false⟩

/-- What the entry without details configures. -/
theorem Property.eq_of_configured_default {property : String} {p : Property}
    (h : p.Configured property .default) :
    p = ⟨property, .ofProperty property, .string, "exact", some ⟨.exact, true⟩, false⟩ := by
  obtain ⟨path, kind, hpath, hkind, rfl⟩ := ofEntry_eq_ok_iff.1 (ofEntry_eq_ok_iff_configured.2 h)
  obtain rfl := KeyPath.ofProperty_of_check hpath
  obtain rfl : PropertyType.string = kind := Option.some.inj hkind
  rfl

theorem Resource.described_of_ofEntry {name : String} {entry : ResourceEntry} {r : Resource}
    (h : ofEntry name entry = .ok r) : r.Described name entry := by
  obtain ⟨filters, hfilters, rfl⟩ := ofEntry_eq_ok_iff.1 h
  have hconfigured {property : String} {p : Property} : filters.get? property = some p ↔
      ∃ listed, entry.filters.get? property = some listed ∧ p.Configured property listed := by
    simp only [FilterSet.get?_ofEntries_eq_some_iff hfilters, SortedMap.lastOf_toList_iff]
  have hkeys : filters.properties.keys = entry.filters.keys := by
    obtain ⟨ps, hps, rfl⟩ := FilterSet.ofEntries_eq_ok_iff.1 hfilters
    exact SortedMap.keys_ofList_of_mapM (fun _ _ => Property.name_of_ofEntry) hps
  refine ⟨rfl, rfl, hkeys, fun property p => hconfigured.1, fun j property hj hbare => ?_⟩
  have hlisted := ResourceEntry.get?_filters_of_listsBare hj hbare
  -- the property is among the names, so it has been configured
  obtain ⟨p, hp⟩ : ∃ p, filters.get? property = some p := by
    rw [← Option.isSome_iff_exists]
    refine (SortedMap.mem_keys_iff _).1 ?_
    rw [hkeys, SortedMap.mem_keys_iff, hlisted]
    rfl
  obtain ⟨listed, hlisted', hp'⟩ := hconfigured.1 hp
  obtain rfl := Option.some.inj (hlisted.symm.trans hlisted')
  exact hp.trans (congrArg some (Property.eq_of_configured_default hp'))

/-! ### Files -/

/-- The first defect of a file. The properties of all resources come before the names of any, and
within each the first resource that has something wrong. -/
inductive SettingsFile.Defective (file : SettingsFile) : SettingsError → Prop
  | filters {name property : String} {entry : ResourceEntry} {listed : PropertyEntry}
      {cause : FilterError}
      (hresource : file.resources.IsFirst (fun _ entry => entry.ListsInvalid) name entry)
      (hproperty : entry.filters.IsFirst Property.IsInvalid property listed)
      (hcause : Property.Defective property listed cause) :
    Defective file (.invalidFilters name cause)
  | schema {name : String} {entry : ResourceEntry} {e : SettingsError}
      (hfilters : ∀ name entry, file.resources.get? name = some entry → ¬entry.ListsInvalid)
      (hresource : file.resources.IsFirst (fun _ entry => entry.schema.IsInvalid) name entry)
      (hname : entry.schema.Defective name e) :
    Defective file e

namespace Settings

variable {file : SettingsFile} {url : Option String} {s : Settings} {e : SettingsError}
  {resources : List Resource} {name : String}

/-- The resources of a file are refused for the first bad property of the first one that has any. -/
theorem mapM_ofEntry_eq_error_iff :
    (file.resources.toList.mapM fun e => Resource.ofEntry e.1 e.2) = .error e ↔
      ∃ name entry property listed cause,
        file.resources.IsFirst (fun _ entry => entry.ListsInvalid) name entry ∧
        entry.filters.IsFirst Property.IsInvalid property listed ∧
        Property.Defective property listed cause ∧ e = .invalidFilters name cause := by
  simp only [mapM_eq_error_iff, Prod.exists, Resource.exists_ofEntry_eq_error_iff,
    SortedMap.firstOf_toList_iff (P := fun _ entry => ResourceEntry.ListsInvalid entry)]
  simp only [Resource.ofEntry_eq_error_iff, exists_and_left]

/-- The first bad name of the resources that are made of a file is that of the first resource of the
file that has any. -/
theorem findSome?_defect?_eq_some_iff
    (h : (file.resources.toList.mapM fun e => Resource.ofEntry e.1 e.2) = .ok resources) :
    resources.findSome? Resource.defect? = some e ↔ ∃ name entry,
      file.resources.IsFirst (fun _ entry => entry.schema.IsInvalid) name entry ∧
        entry.schema.Defective name e := by
  have hmade : List.Forall₂ (fun e r => r.name = e.1 ∧ r.schema = e.2.schema)
      file.resources.toList resources := by
    refine (mapM_eq_ok_iff.1 h).imp fun e r hr => ?_
    obtain ⟨_, -, rfl⟩ := Resource.ofEntry_eq_ok_iff.1 hr
    exact ⟨rfl, rfl⟩
  simp only [findSome?_eq_some_iff_firstOf, Resource.defect?_eq_some_iff, ← Schema.isInvalid_iff,
    ← SortedMap.firstOf_toList_iff]
  constructor
  · rintro ⟨r, hr, he⟩
    obtain ⟨⟨name, entry⟩, hentry, hname, hschema⟩ := hr.exists_of_forall₂
      (Q := fun e => e.2.schema.IsInvalid) hmade.flip fun r e hre => by rw [hre.2]
    rw [hname, hschema] at he
    exact ⟨name, entry, hentry, he⟩
  · rintro ⟨name, entry, hentry, he⟩
    obtain ⟨r, hr, hname, hschema⟩ := hentry.exists_of_forall₂
      (Q := fun r => r.schema.IsInvalid) hmade fun e r hre => by rw [hre.2]
    exact ⟨r, hr, by rwa [hname, hschema]⟩

/-- The resources of a file can be made if none of them has a bad property. -/
theorem exists_mapM_ofEntry_eq_ok_iff :
    (∃ resources, (file.resources.toList.mapM fun e => Resource.ofEntry e.1 e.2) =
      .ok resources) ↔
        ∀ name entry, file.resources.get? name = some entry → ¬entry.ListsInvalid := by
  have hfails : (∃ e, (file.resources.toList.mapM fun e => Resource.ofEntry e.1 e.2) = .error e) ↔
      ∃ name entry, file.resources.get? name = some entry ∧ entry.ListsInvalid := by
    simp only [exists_mapM_eq_error_iff, Prod.exists, Resource.exists_ofEntry_eq_error_iff,
      SortedMap.mem_toList_iff]
  simp only [← not_and, ← not_exists, ← hfails]
  cases file.resources.toList.mapM fun e => Resource.ofEntry e.1 e.2 <;> simp

/-- The error of a file is its first defect. -/
theorem ofFile_eq_error_iff : ofFile file url = .error e ↔ file.Defective e := by
  have hphases : ofFile file url = .error e ↔
      (file.resources.toList.mapM fun e => Resource.ofEntry e.1 e.2) = .error e ∨
        ∃ resources, (file.resources.toList.mapM fun e => Resource.ofEntry e.1 e.2) =
          .ok resources ∧ resources.findSome? Resource.defect? = some e := by
    unfold ofFile
    cases file.resources.toList.mapM fun e => Resource.ofEntry e.1 e.2 with
    | error e' => simp [bind, Except.bind]
    | ok resources =>
      cases h : resources.findSome? Resource.defect? <;> simp [bind, Except.bind, h]
  rw [hphases]
  constructor
  · rintro (hfilters | ⟨resources, hresources, hdefect⟩)
    · obtain ⟨name, entry, property, listed, cause, hresource, hproperty, hcause, rfl⟩ :=
        mapM_ofEntry_eq_error_iff.1 hfilters
      exact .filters hresource hproperty hcause
    · obtain ⟨name, entry, hresource, hname⟩ :=
        (findSome?_defect?_eq_some_iff hresources).1 hdefect
      exact .schema (exists_mapM_ofEntry_eq_ok_iff.1 ⟨resources, hresources⟩) hresource hname
  · intro h
    cases h with
    | filters hresource hproperty hcause =>
      exact .inl (mapM_ofEntry_eq_error_iff.2
        ⟨_, _, _, _, _, hresource, hproperty, hcause, rfl⟩)
    | schema hfilters hresource hname =>
      obtain ⟨resources, hresources⟩ := exists_mapM_ofEntry_eq_ok_iff.2 hfilters
      exact .inr ⟨resources, hresources,
        (findSome?_defect?_eq_some_iff hresources).2 ⟨_, _, hresource, hname⟩⟩

/-- A file has a first defect if a property or a name of one of its resources is bad. -/
theorem exists_defective_iff : (∃ e, file.Defective e) ↔ ∃ name entry,
    file.resources.get? name = some entry ∧ (entry.ListsInvalid ∨ entry.schema.IsInvalid) := by
  constructor
  · rintro ⟨-, ⟨hresource, -, -⟩ | ⟨-, hresource, -⟩⟩
    · exact ⟨_, _, hresource.get?, .inl hresource.holds⟩
    · exact ⟨_, _, hresource.get?, .inr hresource.holds⟩
  · rintro ⟨name, entry, hentry, hbad⟩
    -- names only count where no property is bad
    by_cases hfilters : ∃ name entry, file.resources.get? name = some entry ∧ entry.ListsInvalid
    · obtain ⟨name, entry, hresource⟩ := SortedMap.exists_isFirst_iff.2 hfilters
      obtain ⟨property, listed, hproperty⟩ := SortedMap.exists_isFirst_iff.2 hresource.holds
      obtain ⟨cause, hcause⟩ := Property.isInvalid_iff.1 hproperty.holds
      exact ⟨_, .filters hresource hproperty (Property.ofEntry_eq_error_iff.1 hcause)⟩
    · simp only [not_exists, not_and] at hfilters
      have hschema : entry.schema.IsInvalid := hbad.resolve_left (hfilters name entry hentry)
      obtain ⟨name, entry, hresource⟩ := SortedMap.exists_isFirst_iff
        (P := fun _ entry => entry.schema.IsInvalid).2 ⟨name, entry, hentry, hschema⟩
      obtain ⟨e, he⟩ := Schema.isInvalid_iff.1 hresource.holds
      exact ⟨e, .schema hfilters hresource he⟩

/-- The resources of settings are those that the file describes. -/
theorem get?_ofFile_eq_some_iff (h : ofFile file url = .ok s) {r : Resource} :
    s.resources.get? name = some r ↔
      ∃ entry, file.resources.get? name = some entry ∧ Resource.ofEntry name entry = .ok r := by
  obtain ⟨resources, hresources, -, rfl⟩ := ofFile_eq_ok_iff.1 h
  simp only [SortedMap.get?_ofList_of_mapM (fun _ _ => Resource.name_of_ofEntry) hresources,
    SortedMap.lastOf_toList_iff]

/-- Settings hold what a file says, and the URL that is given apart from the file if there is
one. -/
structure Holds (s : Settings) (file : SettingsFile) (url : Option String) : Prop where
  databaseUrl : s.databaseUrl = url.or file.databaseUrl
  keys : s.resources.keys = file.resources.keys
  described : ∀ name r, s.resources.get? name = some r →
    ∃ entry, file.resources.get? name = some entry ∧ r.Described name entry

/-- Settings that are made of a file hold what it says. -/
theorem holds_of_ofFile (h : ofFile file url = .ok s) : s.Holds file url := by
  obtain ⟨resources, hresources, -, rfl⟩ := ofFile_eq_ok_iff.1 h
  refine ⟨rfl, SortedMap.keys_ofList_of_mapM (fun _ _ => Resource.name_of_ofEntry) hresources,
    fun name r hr => ?_⟩
  obtain ⟨entry, hentry, hmade⟩ := (get?_ofFile_eq_some_iff h).1 hr
  exact ⟨entry, hentry, Resource.described_of_ofEntry hmade⟩

/-- A file is refused for its first defect if a property or a name of one of its resources is bad,
and otherwise settings hold what it says. -/
structure ReportsDefects (file : SettingsFile) (url : Option String) : Prop where
  refused : (∃ e, ofFile file url = .error e) ↔ ∃ name entry,
    file.resources.get? name = some entry ∧ (entry.ListsInvalid ∨ entry.schema.IsInvalid)
  first : ∀ e, ofFile file url = .error e ↔ file.Defective e
  loaded : ∀ s, ofFile file url = .ok s → s.Holds file url

/-- Every file is loaded, or refused for its first defect. -/
theorem reportsDefects (file : SettingsFile) (url : Option String) : ReportsDefects file url where
  refused := by
    simp only [ofFile_eq_error_iff]
    exact exists_defective_iff
  first := fun _ => ofFile_eq_error_iff
  loaded := fun _ => holds_of_ofFile

/-- A bad property comes before the bad table of an earlier resource. -/
example : (ofFile ⟨none, .ofList [("items", ⟨⟨"1", "i", .empty⟩, .empty⟩),
    ("users", ⟨⟨"users", "u", .empty⟩, .ofList [("data", .default)]⟩)], .null⟩ none).map
      (·.resources.keys) = .error (.invalidFilters "users" (.invalidPath "data" .missingKey)) := rfl

end Settings

end PropertyFilter
