import PropertyFilter.Proofs.Description
import PropertyFilter.Proofs.Request.Effective
import PropertyFilter.Proofs.Settings.Defects

/-!
# Required properties

A request may leave out a property that the settings require. It is compiled all the same, and the
report tells: each required property is either listed as missing or has an outcome, and what decides
between the two is whether the request has a pair for it.

## Main definitions

* `ResourceEntry.Requires` — requests have to give a value for a property
* `Report.AccountsForRequired` — a report accounts for the required properties

## Main results

* `FilterSet.mem_missing_iff`, `FilterSet.missing_bytesBelow` — which properties are missing
* `Resource.exists_compile_eq_ok` — a report has outcomes for the properties of the request, and
  lists those that it leaves out
* `Settings.accountsForRequired_compile` — every report accounts for the required properties
-/

namespace PropertyFilter

/-- Requests have to give a value for a property. -/
def ResourceEntry.Requires (entry : ResourceEntry) (property : String) : Prop :=
  ∃ listed, entry.filters.get? property = some listed ∧ listed.required

/-- Requests have to give a value for a property of a set. -/
def FilterSet.Requires (s : FilterSet) (property : String) : Prop :=
  ∃ p, s.get? property = some p ∧ p.required

/-- What is required of a resource is what its entry requires. -/
theorem Resource.requires_iff_of_ofEntry {name property : String} {entry : ResourceEntry}
    {r : Resource} (h : ofEntry name entry = .ok r) :
    r.filters.Requires property ↔ entry.Requires property := by
  have hr := described_of_ofEntry h
  constructor
  · rintro ⟨p, hp, hrequired⟩
    obtain ⟨listed, hlisted, hp⟩ := hr.configured property p hp
    exact ⟨listed, hlisted, hp.required ▸ hrequired⟩
  · rintro ⟨listed, hlisted, hrequired⟩
    have hkey : property ∈ r.filters.properties.keys := by
      rw [hr.keys, SortedMap.mem_keys_iff, hlisted]
      rfl
    obtain ⟨p, hp⟩ := Option.isSome_iff_exists.1 ((SortedMap.mem_keys_iff _).1 hkey)
    obtain ⟨listed', hlisted', hconfigured⟩ := hr.configured property p hp
    obtain rfl := Option.some.inj (hlisted.symm.trans hlisted')
    exact ⟨p, hp, hconfigured.required ▸ hrequired⟩

/-! ### Missing properties -/

namespace FilterSet

variable {entries : List (String × PropertyEntry)} {s : FilterSet} {request : Request}
  {property : String}

/-- Properties are listed in the order of their names. -/
theorem map_name_toList (h : ofEntries entries = .ok s) :
    s.toList.map (·.name) = s.properties.keys := by
  rw [toList, SortedMap.values, List.map_map, SortedMap.keys]
  refine List.map_congr_left fun e he => ?_
  exact get?_ofEntries_name h (s.properties.mem_toList_iff.1 he)

/-- The properties that are missing are required, and the request has no value for them. -/
theorem mem_missing_iff (h : ofEntries entries = .ok s) :
    property ∈ s.missing request ↔ s.Requires property ∧ property ∉ request.keys := by
  simp only [missing, List.mem_map, List.mem_filter, Bool.and_eq_true, Bool.not_eq_true',
    SortedMap.contains, mem_toList_iff h, SortedMap.mem_keys_iff, Bool.not_eq_true]
  constructor
  · rintro ⟨p, ⟨hp, hrequired, habsent⟩, rfl⟩
    exact ⟨⟨p, hp, hrequired⟩, habsent⟩
  · rintro ⟨⟨p, hp, hrequired⟩, habsent⟩
    obtain rfl := get?_ofEntries_name h hp
    exact ⟨p, ⟨hp, hrequired, habsent⟩, rfl⟩

/-- The properties that are missing are listed in the order of their bytes. -/
theorem missing_bytesBelow (h : ofEntries entries = .ok s) :
    (s.missing request).Pairwise Text.BytesBelow := by
  have hall : (s.toList.map (·.name)).Pairwise Text.BytesBelow := by
    rw [map_name_toList h]
    exact s.properties.keys_bytesBelow
  exact hall.sublist (List.filter_sublist.map _)

end FilterSet

/-! ### Reports -/

/-- A report has outcomes for the properties of the request, and lists those that it leaves out. -/
theorem Resource.exists_compile_eq_ok (r : Resource) (pairs : List (String × String)) :
    ∃ draft report, r.compile pairs = .ok (draft, report) ∧
      report.outcomes.keys = (Request.ofPairs pairs).keys ∧
      report.missingRequired = r.filters.missing (Request.ofPairs pairs) := by
  obtain ⟨outcomes, draft, happly⟩ :=
    r.filters.exists_applyEach_new_eq_ok r.schema (Request.ofPairs pairs).toList
  exact ⟨draft, _, compile_of_applyEach happly, FilterSet.keys_ofList_of_applyEach happly, rfl⟩

/-- A report accounts for the required properties. Each of them is missing or has an outcome, and it
is missing if the request has no pair for it. -/
structure Report.AccountsForRequired (report : Report) (entry : ResourceEntry)
    (pairs : List (String × String)) : Prop where
  once : ∀ property, entry.Requires property →
    (property ∈ report.missingRequired ↔ property ∉ report.outcomes.keys)
  missing : ∀ property, entry.Requires property →
    (property ∈ report.missingRequired ↔ ∀ pair ∈ pairs, ¬Request.Addresses pair.1 property)
  listed : ∀ property ∈ report.missingRequired, entry.Requires property
  ordered : report.missingRequired.Pairwise Text.BytesBelow
  nodup : report.missingRequired.Nodup
  outcome : ∀ property, entry.Requires property → property ∉ report.missingRequired →
    ∃! o, (property, o) ∈ report.outcomes.toList

/-- A report accounts for the required properties if it has outcomes for the properties of the
request and lists those that it leaves out. -/
theorem Report.accountsForRequired_of_ofEntry {name : String} {entry : ResourceEntry} {r : Resource}
    {pairs : List (String × String)} {report : Report} (h : Resource.ofEntry name entry = .ok r)
    (hkeys : report.outcomes.keys = (Request.ofPairs pairs).keys)
    (hmissing : report.missingRequired = r.filters.missing (Request.ofPairs pairs)) :
    report.AccountsForRequired entry pairs := by
  obtain ⟨filters, hfilters, rfl⟩ := Resource.ofEntry_eq_ok_iff.1 h
  -- the request decides both about what is missing and about what has an outcome
  have hmem {property : String} : property ∈ report.missingRequired ↔
      entry.Requires property ∧ property ∉ report.outcomes.keys := by
    rw [hmissing, hkeys, FilterSet.mem_missing_iff hfilters, ← Resource.requires_iff_of_ofEntry h]
  have hordered : report.missingRequired.Pairwise Text.BytesBelow := by
    rw [hmissing]
    exact FilterSet.missing_bytesBelow hfilters
  have honce : ∀ property, entry.Requires property →
      (property ∈ report.missingRequired ↔ property ∉ report.outcomes.keys) :=
    fun property hproperty => hmem.trans (and_iff_right hproperty)
  refine ⟨honce, fun property hproperty => ?_, fun property hproperty => (hmem.1 hproperty).1,
    hordered, hordered.imp fun hbelow heq => ?_, fun property hproperty hpresent => ?_⟩
  · rw [honce property hproperty, hkeys, SortedMap.mem_keys_iff, Request.isSome_get?_ofPairs]
    simp only [not_exists, not_and]
  · subst heq
    exact String.lt_irrefl _ (Text.bytesBelow_iff.1 hbelow)
  · -- a map has one value under each of its names
    have hkey := not_not.1 (mt (honce property hproperty).2 hpresent)
    obtain ⟨o, ho⟩ := Option.isSome_iff_exists.1 ((SortedMap.mem_keys_iff _).1 hkey)
    refine ⟨o, report.outcomes.mem_toList_iff.2 ho, fun o' ho' => ?_⟩
    exact Option.some.inj ((report.outcomes.mem_toList_iff.1 ho').symm.trans ho)

/-- Every request for a resource is compiled, with a report that accounts for the properties that
the file requires. -/
theorem Settings.accountsForRequired_compile {file : SettingsFile} {url : Option String}
    {settings : Settings} {name : String} {r : Resource} (h : ofFile file url = .ok settings)
    (hr : settings.resource name = .ok r) (pairs : List (String × String)) :
    ∃ entry draft report, file.resources.get? name = some entry ∧
      r.compile pairs = .ok (draft, report) ∧ report.AccountsForRequired entry pairs := by
  obtain ⟨entry, hentry, hmade⟩ := (get?_ofFile_eq_some_iff h).1 (resource_eq_ok_iff.1 hr)
  obtain ⟨draft, report, hcompile, hkeys, hmissing⟩ := r.exists_compile_eq_ok pairs
  exact ⟨entry, draft, report, hentry, hcompile,
    Report.accountsForRequired_of_ofEntry hmade hkeys hmissing⟩

/-- A request gives one of two required properties, under its name with brackets behind it. -/
theorem Settings.accountsForRequired_compile_brackets :
    ∃ (file : SettingsFile) (settings : Settings) (r : Resource) (entry : ResourceEntry)
      (draft : Draft) (report : Report),
    file = ⟨none, .ofList [("items", ⟨⟨"items", "i", .ofList [("data", .json)]⟩,
      .ofList [("data.size", ⟨some "int", none, true⟩), ("data.name", ⟨none, none, true⟩)]⟩)],
      .null⟩ ∧
    ofFile file none = .ok settings ∧ settings.resource "items" = .ok r ∧
    file.resources.get? "items" = some entry ∧
    r.compile [("data.name[]", "red"), ("data.color", "red")] = .ok (draft, report) ∧
    report.AccountsForRequired entry [("data.name[]", "red"), ("data.color", "red")] := by
  have h : ofFile ⟨none, .ofList [("items", ⟨⟨"items", "i", .ofList [("data", .json)]⟩,
      .ofList [("data.size", ⟨some "int", none, true⟩), ("data.name", ⟨none, none, true⟩)]⟩)],
      .null⟩ none = .ok _ := rfl
  have hreport {r : Resource} (hr : resource _ "items" = .ok r) := accountsForRequired_compile h hr
  obtain ⟨entry, draft, report, hentry, hcompile, haccounts⟩ := hreport rfl _
  exact ⟨_, _, _, entry, draft, report, rfl, h, rfl, hentry, hcompile, haccounts⟩

end PropertyFilter
