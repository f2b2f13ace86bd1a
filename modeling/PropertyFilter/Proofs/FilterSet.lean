import PropertyFilter.FilterSet
import PropertyFilter.Proofs.Checking
import PropertyFilter.Proofs.KeyPath

/-!
# Checked filter sets

Every property of a checked filter set comes from an entry that passed, so it has a safe path.

## Main definitions

* `FilterSet.IsSafe` — a filter set whose properties have safe paths

## Main results

* `FilterSet.isSafe_of_ofEntries` — checked filter sets are safe
-/

namespace PropertyFilter

namespace FilterSet

/-- A filter set whose properties have safe paths. -/
def IsSafe (s : FilterSet) : Prop := ∀ name p, s.get? name = some p → p.path.IsSafe

variable {s : FilterSet} {entries : List (String × PropertyEntry)} {name : String} {p : Property}

/-- Every property of a checked filter set was checked under its own name. -/
theorem exists_ofEntry_of_ofEntries (h : ofEntries entries = .ok s) (hp : s.get? name = some p) :
    ∃ entry, (name, entry) ∈ entries ∧ Property.ofEntry name entry = .ok p := by
  obtain ⟨ps, hps, rfl⟩ := ofEntries_eq_ok_iff.1 h
  -- the property is stored under the name that its entry has
  obtain ⟨q, hq, heq⟩ := List.mem_map.1 (SortedMap.mem_of_get?_ofList hp)
  obtain ⟨rfl, rfl⟩ := Prod.mk.inj heq
  obtain ⟨e, he, hofEntry⟩ := exists_mem_of_mapM_eq_ok hps hq
  rw [Property.name_of_ofEntry hofEntry]
  exact ⟨e.2, he, hofEntry⟩

/-- Checked filter sets are safe. -/
theorem isSafe_of_ofEntries (h : ofEntries entries = .ok s) : s.IsSafe := by
  intro name p hp
  obtain ⟨entry, -, hentry⟩ := exists_ofEntry_of_ofEntries h hp
  obtain ⟨path, kind, hpath, -, rfl⟩ := Property.ofEntry_eq_ok_iff.1 hentry
  exact (KeyPath.check_eq_ok_iff.1 hpath).2

end FilterSet

end PropertyFilter
