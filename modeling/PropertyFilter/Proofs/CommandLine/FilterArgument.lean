import PropertyFilter.CommandLine
import PropertyFilter.Proofs.FilterSet
import PropertyFilter.Proofs.Request.Effective

/-!
# Filters on the command line

A filter argument is a name and a value with an equals sign between them, and the first equals sign
is the one that counts. So a property can be given any value if its name has no equals sign. The
keys of a property may hold one, though, and then no arguments give it a value.

## Main definitions

* `CommandLine.requested` — the request that filter arguments make
* `CommandLine.CanAsk` — filter arguments can give a property a value
* `CommandLine.RoundTrips` — what is written for a property is read back

## Main results

* `Request.splitPair_append` — a name without an equals sign is read back with its value
* `CommandLine.roundTrips_iff` — the properties that can be given values are those without an
  equals sign
* `CommandLine.not_roundTrips_equals` — a property with an equals sign
-/

namespace PropertyFilter

/-- What is cut off in front of a separator does not hold it. -/
theorem Text.sep_notMem_cut (sep : Char) (cs : List Char) : sep ∉ (cut sep cs).1 := by
  induction cs with
  | nil => exact List.not_mem_nil
  | cons c cs ih =>
    rw [cut]
    split_ifs with hc
    · exact List.not_mem_nil
    · exact List.not_mem_cons_of_ne_of_not_mem (Ne.symm hc) ih

theorem KeyPath.ne_empty_of_check {property : String} {path : KeyPath}
    (h : check property = .ok path) : property ≠ "" := by
  rintro rfl
  cases h

namespace Request

variable {name : String}

/-- A name without an equals sign is read back with its value. -/
theorem splitPair_append (h : '=' ∉ name.toList) (value : String) :
    splitPair (name ++ "=" ++ value) = (name, value) := by
  have hwritten : (name ++ "=" ++ value).toList = name.toList ++ '=' :: value.toList := by simp
  rw [splitPair, hwritten, Text.cut_append_cons h]
  simp

/-- No name that is read has an equals sign. -/
theorem equals_notMem_splitPair (written : String) : '=' ∉ (splitPair written).1.toList := by
  simpa [splitPair] using Text.sep_notMem_cut '=' written.toList

end Request

namespace CommandLine

variable {property : String} {path : KeyPath} {pair : String × String}

/-- The request that filter arguments make. -/
def requested (written : List String) : Except UsageError Request :=
  (written.mapM filterPair).map Request.ofPairs

/-- Some filter arguments give a property a value. -/
def CanAsk (property value : String) : Prop :=
  ∃ written request asked, requested written = .ok request ∧
    request.get? property = some asked ∧ asked.toList = [.text value]

/-- What is written for a property is read back, with any value, and so the property can be given
any value. -/
structure RoundTrips (property : String) : Prop where
  plain : ∀ value, filterPair (property ++ "=" ++ value) = .ok (property, value)
  collected : ∀ value, filterPair (property ++ "[]=" ++ value) = .ok (property ++ "[]", value)
  canAsk : ∀ value, CanAsk property value

/-! ### Names without an equals sign -/

/-- A name without an equals sign is read back with its value. -/
theorem filterPair_append (hne : property ≠ "") (h : '=' ∉ property.toList) (value : String) :
    filterPair (property ++ "=" ++ value) = .ok (property, value) := by
  simp [filterPair, Request.splitPair_append h, hne]

theorem filterPair_append_brackets (h : '=' ∉ property.toList) (value : String) :
    filterPair (property ++ "[]=" ++ value) = .ok (property ++ "[]", value) := by
  have hbrackets : '=' ∉ (property ++ "[]").toList := by simpa using h
  have hwritten : property ++ "[]=" ++ value = property ++ "[]" ++ "=" ++ value := by
    simp [← String.toList_inj]
  rw [hwritten]
  exact filterPair_append (by simp) hbrackets value

/-- Brackets behind its name give a property a list of one value. -/
theorem canAsk_of_notMem (h : '=' ∉ property.toList) (value : String) : CanAsk property value := by
  have hlist : (Request.ofPairs [(property ++ "[]", value)]).toList =
      [(property, .many [.text value])] :=
    Request.toList_ofPairs_collected (Request.collected?_append property)
      (List.cons_ne_nil value [])
  refine ⟨[property ++ "[]=" ++ value], _, _, ?_, SortedMap.get?_of_toList_eq hlist, rfl⟩
  have hread : [property ++ "[]=" ++ value].mapM filterPair = .ok [(property ++ "[]", value)] :=
    mapM_cons_eq_ok_iff.2 ⟨_, _, filterPair_append_brackets h value, rfl, rfl⟩
  rw [requested, hread]
  rfl

theorem roundTrips_of_notMem (hne : property ≠ "") (h : '=' ∉ property.toList) :
    RoundTrips property where
  plain := filterPair_append hne h
  collected := filterPair_append_brackets h
  canAsk := canAsk_of_notMem h

/-! ### Names with an equals sign -/

theorem equals_notMem_of_filterPair {written : String} (h : filterPair written = .ok pair) :
    '=' ∉ pair.1.toList := by
  simp only [filterPair] at h
  split_ifs at h
  obtain rfl := Except.ok.inj h
  exact Request.equals_notMem_splitPair written

/-- No filter arguments make a request for a property with an equals sign. -/
theorem get?_requested {written : List String} {request : Request}
    (h : requested written = .ok request) (hmem : '=' ∈ property.toList) :
    request.get? property = none := by
  cases hread : written.mapM filterPair with
  | error e =>
    rw [requested, hread] at h
    cases h
  | ok pairs =>
    rw [requested, hread] at h
    obtain rfl := Except.ok.inj h
    rw [← Option.not_isSome_iff_eq_none, Request.isSome_get?_ofPairs]
    rintro ⟨pair, hpair, haddresses⟩
    obtain ⟨argument, -, hargument⟩ := exists_mem_of_mapM_eq_ok hread hpair
    -- a name for the property holds all that the property holds
    refine equals_notMem_of_filterPair hargument ?_
    obtain hname | ⟨-, hname⟩ := haddresses
    · rw [hname, String.toList_append]
      exact List.mem_append_left _ hmem
    · rwa [hname]

theorem not_canAsk_of_mem (h : '=' ∈ property.toList) (value : String) :
    ¬CanAsk property value := by
  rintro ⟨written, request, asked, hrequest, hasked, -⟩
  rw [get?_requested hrequest h] at hasked
  cases hasked

/-! ### Properties that can be filtered -/

/-- What is written for a property of the configuration is read back just if its name has no equals
sign; with one, there is no way to give it a value. -/
theorem roundTrips_iff (h : KeyPath.check property = .ok path) :
    (RoundTrips property ↔ '=' ∉ property.toList) ∧
      ('=' ∈ property.toList → ∀ value, ¬CanAsk property value) := by
  refine ⟨⟨fun hroundTrips hmem => ?_, roundTrips_of_notMem (KeyPath.ne_empty_of_check h)⟩,
    fun hmem => not_canAsk_of_mem hmem⟩
  exact not_canAsk_of_mem hmem "" (hroundTrips.canAsk "")

/-- A property without an equals sign, and one that has it in its key. -/
theorem roundTrips_iff_size :
    KeyPath.check "data.size" = .ok ⟨"data", "size"⟩ ∧ RoundTrips "data.size" ∧
      KeyPath.check "data.a=b" = .ok ⟨"data", "a=b"⟩ ∧ ∀ value, ¬CanAsk "data.a=b" value := by
  have hsize : KeyPath.check "data.size" = .ok ⟨"data", "size"⟩ := rfl
  have hequals : KeyPath.check "data.a=b" = .ok ⟨"data", "a=b"⟩ := rfl
  exact ⟨hsize, (roundTrips_iff hsize).1.2 (by decide), hequals,
    (roundTrips_iff hequals).2 (by decide)⟩

/-- A key with an equals sign passes the check, but the argument for it names another property. -/
theorem not_roundTrips_equals : KeyPath.check "config.a=b" = .ok ⟨"config", "a=b"⟩ ∧
    filterPair ("config.a=b" ++ "=" ++ "x") = .ok ("config.a", "b=x") ∧
      ¬RoundTrips "config.a=b" := by
  have hread : filterPair ("config.a=b" ++ "=" ++ "x") = .ok ("config.a", "b=x") := rfl
  refine ⟨rfl, hread, fun h => ?_⟩
  have hname := (Prod.mk.inj (Except.ok.inj (hread.symm.trans (h.plain "x")))).1
  exact absurd hname (by decide)

end CommandLine

end PropertyFilter
