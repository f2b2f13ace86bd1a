import PropertyFilter.Proofs.FilterSet

/-!
# Entries of filter sets

The entries of a filter set are checked in the order in which they are listed, and the first bad
one decides what the error is, even if a later entry with the same name would have taken its place.
If none is bad, each name that is listed has the property that its last entry configures.

## Main definitions

* `Property.IsInvalid`, `Property.Defective` — the bad entries, and what is wrong with them
* `Property.Configured` — a property is the one that an entry configures
* `FilterSet.Holds` — a filter set holds what a list of entries configures
* `FilterSet.ChecksInOrder` — a list of entries is checked in its order

## Main results

* `Property.ofEntry_eq_ok_iff_configured`, `Property.ofEntry_eq_error_iff` — what becomes of an
  entry
* `FilterSet.ofEntries_eq_error_iff` — the error of a list is that of its first bad entry
* `FilterSet.get?_ofEntries_eq_some_iff` — the property of a name is that of its last entry
* `FilterSet.checksInOrder` — every list of entries is checked in its order
-/

namespace PropertyFilter

theorem PropertyType.ofToken?_eq_none_iff {token : String} :
    ofToken? token = none ↔ ∀ kind : PropertyType, kind.token ≠ token := by
  rw [Option.eq_none_iff_forall_ne_some]
  exact forall_congr' fun kind => not_congr (ofToken?_eq_some_iff.trans eq_comm)

/-! ### One entry -/

namespace Property

/-- An entry is bad: its name is no path that can be written into SQL text, or its type has a token
that is the token of none. -/
def IsInvalid (name : String) (entry : PropertyEntry) : Prop :=
  (∃ defect, KeyPath.check name = .error defect) ∨
    ∃ token, entry.kind = some token ∧ ∀ kind : PropertyType, kind.token ≠ token

/-- What is wrong with an entry. Its name is looked at before its type. -/
inductive Defective (name : String) (entry : PropertyEntry) : FilterError → Prop
  | path {defect : PathDefect} (hpath : KeyPath.check name = .error defect) :
    Defective name entry (.invalidPath name defect)
  | kind {path : KeyPath} {token : String} (hpath : KeyPath.check name = .ok path)
      (htoken : entry.kind = some token) (hunknown : ∀ kind : PropertyType, kind.token ≠ token) :
    Defective name entry (.unsupportedType name token)

/-- A property is the one that an entry configures. What the entry leaves out is a string that has
to be matched exactly. -/
structure Configured (property : String) (entry : PropertyEntry) (p : Property) : Prop where
  name : p.name = property
  path : p.path = KeyPath.ofProperty property
  safe : p.path.IsSafe
  kind : p.kind.token = entry.kind.getD "string"
  strategyToken : p.strategyToken = entry.strategy.getD "exact"
  strategy : ∀ strategy, p.strategy = some strategy ↔ p.strategyToken = strategy.token
  required : p.required = entry.required

variable {name : String} {entry : PropertyEntry} {p : Property} {e : FilterError}

/-- The type that an entry gives is the one of its token. -/
theorem elim_ofToken?_eq_some_iff {kind : PropertyType} :
    entry.kind.elim (some PropertyType.default) PropertyType.ofToken? = some kind ↔
      kind.token = entry.kind.getD "string" := by
  cases entry.kind with
  | none => cases kind <;> decide
  | some token => exact PropertyType.ofToken?_eq_some_iff.trans eq_comm

/-- An entry is accepted as the property that it configures. -/
theorem ofEntry_eq_ok_iff_configured : ofEntry name entry = .ok p ↔ p.Configured name entry := by
  rw [ofEntry_eq_ok_iff]
  constructor
  · rintro ⟨path, kind, hpath, hkind, rfl⟩
    obtain ⟨rfl, hsafe⟩ := KeyPath.check_eq_ok_iff.1 hpath
    exact ⟨rfl, rfl, hsafe, elim_ofToken?_eq_some_iff.1 hkind, rfl,
      fun _ => Strategy.ofToken?_eq_some_iff, rfl⟩
  · intro h
    have hstrategy : p.strategy = Strategy.ofToken? p.strategyToken :=
      Option.ext fun strategy => (h.strategy strategy).trans Strategy.ofToken?_eq_some_iff.symm
    have htoken : p.strategyToken = entry.strategy.getD Strategy.defaultToken := h.strategyToken
    refine ⟨p.path, p.kind, KeyPath.check_eq_ok_iff.2 ⟨h.path, h.safe⟩,
      elim_ofToken?_eq_some_iff.2 h.kind, ?_⟩
    rw [← htoken, ← hstrategy, ← h.name, ← h.required]

theorem ofEntry_of_defective (h : Defective name entry e) : ofEntry name entry = .error e := by
  unfold ofEntry
  cases h with
  | path hpath =>
    rw [hpath]
    rfl
  | kind hpath htoken hunknown =>
    simp only [hpath, htoken, PropertyType.ofToken?_eq_none_iff.2 hunknown]
    rfl

/-- Something is wrong with an entry, or it configures a property. -/
theorem exists_defective_or_ofEntry_eq_ok (name : String) (entry : PropertyEntry) :
    (∃ e, Defective name entry e) ∨ ∃ p, ofEntry name entry = .ok p := by
  cases hpath : KeyPath.check name with
  | error defect => exact .inl ⟨_, .path hpath⟩
  | ok path =>
    cases hkind : entry.kind.elim (some PropertyType.default) PropertyType.ofToken? with
    | some kind => exact .inr ⟨_, ofEntry_eq_ok_iff.2 ⟨path, kind, hpath, hkind, rfl⟩⟩
    | none =>
      cases htoken : entry.kind with
      | none => simp [htoken] at hkind
      | some token =>
        rw [htoken] at hkind
        exact .inl ⟨_, .kind hpath htoken (PropertyType.ofToken?_eq_none_iff.1 hkind)⟩

/-- An entry is refused for what is wrong with it. -/
theorem ofEntry_eq_error_iff : ofEntry name entry = .error e ↔ Defective name entry e := by
  refine ⟨fun h => ?_, ofEntry_of_defective⟩
  rcases exists_defective_or_ofEntry_eq_ok name entry with ⟨e', he'⟩ | ⟨p, hp⟩
  · obtain rfl := Except.error.inj (h.symm.trans (ofEntry_of_defective he'))
    exact he'
  · rw [hp] at h
    cases h

/-- The bad entries are those that are refused. -/
theorem isInvalid_iff : IsInvalid name entry ↔ ∃ e, ofEntry name entry = .error e := by
  simp only [ofEntry_eq_error_iff]
  constructor
  · intro h
    cases hpath : KeyPath.check name with
    | error defect => exact ⟨_, .path hpath⟩
    | ok path =>
      rcases h with ⟨defect, hdefect⟩ | ⟨token, htoken, hunknown⟩
      · exact absurd (hpath.symm.trans hdefect) nofun
      · exact ⟨_, .kind hpath htoken hunknown⟩
  · rintro ⟨-, hpath | ⟨-, htoken, hunknown⟩⟩
    · exact .inl ⟨_, hpath⟩
    · exact .inr ⟨_, htoken, hunknown⟩

end Property

/-! ### Lists of entries -/

namespace FilterSet

variable {s : FilterSet} {entries : List (String × PropertyEntry)} {name : String} {p : Property}
  {e : FilterError}

/-- The error of a list of entries is that of its first bad entry. -/
theorem ofEntries_eq_error_iff : ofEntries entries = .error e ↔ ∃ name entry,
    FirstOf (fun e => Property.IsInvalid e.1 e.2) entries (name, entry) ∧
      Property.Defective name entry e := by
  simp only [ofEntries_eq_error_iff_check, check, mapM_eq_error_iff, Prod.exists,
    Property.isInvalid_iff, Property.ofEntry_eq_error_iff]

/-- A list of entries is refused if one of them is bad. -/
theorem exists_ofEntries_eq_error_iff : (∃ e, ofEntries entries = .error e) ↔
    ∃ name entry, (name, entry) ∈ entries ∧ Property.IsInvalid name entry := by
  simp only [ofEntries_eq_error_iff_check, check, exists_mapM_eq_error_iff, Prod.exists,
    Property.isInvalid_iff]

/-- The property of a name is the one that its last entry configures. -/
theorem get?_ofEntries_eq_some_iff (h : ofEntries entries = .ok s) : s.get? name = some p ↔
    ∃ entry, LastOf (fun e => e.1 = name) entries (name, entry) ∧ p.Configured name entry := by
  obtain ⟨ps, hps, rfl⟩ := ofEntries_eq_ok_iff.1 h
  simp only [← Property.ofEntry_eq_ok_iff_configured]
  exact SortedMap.get?_ofList_of_mapM (fun e p => Property.name_of_ofEntry) hps

/-- A filter set holds what a list of entries configures: the names are those that are listed, and
under each of them stands the property of the last entry with that name. -/
structure Holds (s : FilterSet) (entries : List (String × PropertyEntry)) : Prop where
  keys : ∀ name, name ∈ s.properties.keys ↔ ∃ entry, (name, entry) ∈ entries
  last : ∀ name p, s.get? name = some p →
    ∃ entry, LastOf (fun e => e.1 = name) entries (name, entry) ∧ p.Configured name entry
  column : ∀ name p, s.get? name = some p → Sql.isIdentifier p.path.column
  key : ∀ name p, s.get? name = some p → p.path.key ≠ ""
  unknown : ∀ name p, s.get? name = some p →
    (p.strategy = none ↔ ∀ strategy : Strategy, p.strategyToken ≠ strategy.token)

/-- A list of entries is checked in its order. It is refused if one of its entries is bad, for what
is wrong with the first of these; otherwise a filter set holds what it configures. -/
structure ChecksInOrder (entries : List (String × PropertyEntry)) : Prop where
  refused : (∃ e, ofEntries entries = .error e) ↔
    ∃ name entry, (name, entry) ∈ entries ∧ Property.IsInvalid name entry
  first : ∀ e, ofEntries entries = .error e ↔ ∃ name entry,
    FirstOf (fun e => Property.IsInvalid e.1 e.2) entries (name, entry) ∧
      Property.Defective name entry e
  accepted : ∀ s, ofEntries entries = .ok s → s.Holds entries

/-- A filter set that is made of a list of entries holds what they configure. -/
theorem holds_of_ofEntries (h : ofEntries entries = .ok s) : s.Holds entries := by
  have hlast : ∀ name p, s.get? name = some p →
      ∃ entry, LastOf (fun e => e.1 = name) entries (name, entry) ∧ p.Configured name entry :=
    fun name p => (get?_ofEntries_eq_some_iff h).1
  have hsafe : ∀ name p, s.get? name = some p → p.path.IsSafe := fun name p hp => by
    obtain ⟨entry, -, hconfigured⟩ := hlast name p hp
    exact hconfigured.safe
  refine ⟨fun name => ?_, hlast, fun name p hp => (hsafe name p hp).column, fun name p hp => ?_,
    fun name p hp => ?_⟩
  · obtain ⟨ps, hps, rfl⟩ := ofEntries_eq_ok_iff.1 h
    exact SortedMap.mem_keys_ofList_of_mapM (fun _ _ => Property.name_of_ofEntry) hps
  · simpa using (hsafe name p hp).isEmpty_key
  · obtain ⟨entry, -, hconfigured⟩ := hlast name p hp
    rw [Option.eq_none_iff_forall_ne_some]
    exact forall_congr' fun strategy => not_congr (hconfigured.strategy strategy)

/-- Every list of entries is checked in its order. -/
theorem checksInOrder (entries : List (String × PropertyEntry)) : ChecksInOrder entries where
  refused := exists_ofEntries_eq_error_iff
  first := fun _ => ofEntries_eq_error_iff
  accepted := fun _ => holds_of_ofEntries

/-- A bad entry is not saved by a later one with the same name. -/
example : (ofEntries [("data.size", ⟨some "number", none, false⟩),
    ("data.size", ⟨some "int", none, false⟩)]).map (·.toList) =
      .error (.unsupportedType "data.size" "number") := rfl

end FilterSet

end PropertyFilter
