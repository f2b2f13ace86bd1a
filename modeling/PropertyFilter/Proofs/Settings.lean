import PropertyFilter.Proofs.FilterSet
import PropertyFilter.Settings

/-!
# Checked settings

Every name that settings put into SQL text was checked: the table and its alias are
identifiers, and the properties have safe paths.

## Main definitions

* `Resource.IsSafe` — a resource whose names can be written into SQL text

## Main results

* `Settings.isSafe_of_ofFile` — the resources of checked settings are safe
-/

namespace PropertyFilter

/-- A resource whose names can be written into SQL text. -/
structure Resource.IsSafe (r : Resource) : Prop where
  table : Sql.isIdentifier r.schema.table
  tableAlias : Sql.isIdentifier r.schema.tableAlias
  filters : r.filters.IsSafe

theorem Resource.isIdentifier_of_defect? {r : Resource} (h : r.defect? = none) :
    Sql.isIdentifier r.schema.table ∧ Sql.isIdentifier r.schema.tableAlias := by
  unfold defect? at h
  split at h
  · simp at h
  · rename_i htable
    split at h
    · simp at h
    · rename_i halias
      exact ⟨by simpa using htable, by simpa using halias⟩

theorem Resource.isSafe_filters_of_ofEntry {name : String} {entry : ResourceEntry} {r : Resource}
    (h : ofEntry name entry = .ok r) : r.filters.IsSafe := by
  obtain ⟨filters, hfilters, rfl⟩ := ofEntry_eq_ok_iff.1 h
  exact FilterSet.isSafe_of_ofEntries hfilters

namespace Settings

variable {file : SettingsFile} {url : Option String} {settings : Settings} {name : String}
  {r : Resource}

/-- Checked settings hold checked resources, and nothing is wrong with the names of any. -/
theorem ofFile_eq_ok_iff : ofFile file url = .ok settings ↔ ∃ resources,
    file.resources.toList.mapM (fun e => Resource.ofEntry e.1 e.2) = .ok resources ∧
      (∀ r ∈ resources, r.defect? = none) ∧
      settings = ⟨url.or file.databaseUrl, .ofList (resources.map fun r => (r.name, r))⟩ := by
  unfold ofFile
  cases file.resources.toList.mapM fun e => Resource.ofEntry e.1 e.2 with
  | error e => simp [bind, Except.bind]
  | ok resources =>
    cases hdefect : resources.findSome? Resource.defect? with
    | some defect =>
      obtain ⟨r, hr, hsome⟩ := List.exists_of_findSome?_eq_some hdefect
      simp only [bind, Except.bind, hdefect, reduceCtorEq, Except.ok.injEq, exists_eq_left',
        false_iff]
      -- the defect that was found is one of a resource
      rintro ⟨hnone, -⟩
      simp [hnone r hr] at hsome
    | none =>
      have hnone : ∀ r ∈ resources, r.defect? = none := List.findSome?_eq_none_iff.1 hdefect
      simp only [bind, Except.bind, hdefect, Except.ok.injEq, exists_eq_left']
      exact ⟨fun h => ⟨hnone, h.symm⟩, fun h => h.2.symm⟩

/-- The resources of checked settings are safe. -/
theorem isSafe_of_ofFile (h : ofFile file url = .ok settings)
    (hr : settings.resource name = .ok r) : r.IsSafe := by
  obtain ⟨resources, hresources, hdefect, rfl⟩ := ofFile_eq_ok_iff.1 h
  have hmem : r ∈ resources := by
    have hget := SortedMap.mem_of_get?_ofList (resource_eq_ok_iff.1 hr)
    obtain ⟨r, hmem, heq⟩ := List.mem_map.1 hget
    exact (Prod.mk.inj heq).2 ▸ hmem
  obtain ⟨e, -, hentry⟩ := exists_mem_of_mapM_eq_ok hresources hmem
  obtain ⟨htable, halias⟩ := Resource.isIdentifier_of_defect? (hdefect r hmem)
  exact ⟨htable, halias, Resource.isSafe_filters_of_ofEntry hentry⟩

end Settings

end PropertyFilter
