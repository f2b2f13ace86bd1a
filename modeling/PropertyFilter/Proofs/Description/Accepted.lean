import PropertyFilter.Proofs.Description
import PropertyFilter.Proofs.Draft

/-!
# Described names are accepted

Values of the right type are accepted under every name that a filter set is described by: one value
under a plain name, and any number of them under a name for lists. Properties whose strategy is not
known are described as well, but all their values are refused.

## Main results

* `Plan.exists_ofValues_eq_ok` — when values of the right type make a plan
* `FilterSet.compile_of_strategy_eq_none` — without a known strategy, every value is refused
* `FilterSet.compile_described` — what becomes of a value under a name that is described
-/

namespace PropertyFilter

/-! ### Values that make a plan -/

/-- Values of the right type make a plan, unless they are several texts and only exact texts can be
several. -/
theorem Plan.exists_ofValues_eq_ok {target : Plan.Target} {strategy : Strategy}
    {kind : PropertyType} {scalars : List Scalar} {values : TypedValues}
    (h : TypedValues.ofScalars kind scalars = .ok values)
    (hseveral : kind = .string → strategy.rule = .exact ∨ scalars.length = 1) :
    ∃ plan, ofValues target strategy values = .ok plan := by
  have hkind : values.kind = kind := TypedValues.kind_of_ofScalars h
  cases values with
  | ints numbers => exact ⟨_, rfl⟩
  | floats literals => exact ⟨_, rfl⟩
  | bool b => exact ⟨_, rfl⟩
  | strings texts =>
    obtain rfl : PropertyType.string = kind := hkind
    have htexts : texts.length = scalars.length := TypedValues.count_of_ofScalars h
    rcases hseveral rfl with hexact | hone
    · -- exact texts are accepted, be it one or several
      change ∃ plan, ofStrings target strategy texts = .ok plan
      unfold ofStrings
      split
      · exact ⟨_, rfl⟩
      · rw [hexact]
        exact ⟨_, rfl⟩
    · obtain ⟨text, rfl⟩ := List.length_eq_one_iff.1 (htexts.trans hone)
      exact ⟨_, rfl⟩

namespace FilterSet

variable {entries : List (String × PropertyEntry)} {s : FilterSet} {name : String} {p : Property}
  {d : Descriptor} {schema : Schema} {draft : Draft} {value : RequestValue}

/-- Without a known strategy, every value for a property in a JSON column is refused. -/
theorem compile_of_strategy_eq_none (hp : s.get? name = some p) (h : p.strategy = none)
    (hbackend : draft.query.backend.isJsonCapable) (hcolumn : schema.isJsonColumn p.path.column) :
    s.compile schema draft name (some value) =
      .ok (.ignored (.invalidStrategy p.strategyToken), draft) := by
  have hmapped := Schema.isMapped_of_isJsonColumn hcolumn
  have hplan : p.plan draft.query.tableAlias value =
      .error (.invalidStrategy p.strategyToken) := by
    rw [Property.plan, h]
  rw [compile_eq_judge]
  simp [judge, hbackend, hp, hmapped, hcolumn, hplan, Except.map]

/-- A checked property has the strategy of its token and lies where its name says. -/
theorem strategy_and_path_of_get? (h : ofEntries entries = .ok s) (hp : s.get? name = some p) :
    p.strategy = Strategy.ofToken? p.strategyToken ∧ p.path = KeyPath.ofProperty p.name := by
  obtain ⟨entry, -, hentry⟩ := exists_ofEntry_of_ofEntries h hp
  obtain ⟨path, kind, hpath, -, rfl⟩ := Property.ofEntry_eq_ok_iff.1 hentry
  exact ⟨rfl, KeyPath.ofProperty_of_check hpath⟩

/-- A property that is listed as taking several values has them compared exactly. -/
theorem rule_eq_exact_of_listsCollection {strategy : Strategy} (h : p.listsCollection)
    (hkind : p.kind = .string) (hstrategy : Strategy.ofToken? p.strategyToken = some strategy) :
    strategy.rule = .exact := by
  rw [Property.listsCollection, hkind] at h
  have htoken : p.strategyToken = MatchRule.exact.token := by simpa using h
  have hexact : Strategy.ofToken? p.strategyToken = some ⟨.exact, true⟩ := by rw [htoken]; rfl
  obtain rfl := Option.some.inj (hexact.symm.trans hstrategy)
  rfl

/-- What becomes of values under a name that is described. If the strategy is known, one value of
the right type is accepted, and so are several where the name is one for lists; nothing is said of
two or more texts under a property's own name, which can be a name for lists by its spelling alone.
If the strategy is not known, whatever is given is refused. -/
theorem compile_described (h : ofEntries entries = .ok s) (hd : s.describe.get? name = some d)
    (hbackend : draft.query.backend = .postgres)
    (hcolumn : schema.isJsonColumn (KeyPath.ofProperty d.property).column) (value : RequestValue) :
    match Strategy.ofToken? d.strategyToken with
    | none => s.compile schema draft d.property (some value) =
        .ok (.ignored (.invalidStrategy d.strategyToken), draft)
    | some strategy =>
      (∃ values, TypedValues.ofScalars d.kind value.toList = .ok values) →
        (d.isCollection = false → value.toList.length = 1) →
        (name = d.property → d.isCollection → d.kind = .string →
          strategy.rule = .exact ∨ value.toList.length = 1) →
        ∃ predicate draft', s.compile schema draft d.property (some value) =
          .ok (.applied predicate, draft') := by
  obtain ⟨p, hp, hlisted, rfl⟩ := exists_of_get?_describe h hd
  obtain ⟨hstrategy, hpath⟩ := strategy_and_path_of_get? h hp
  have hcapable : draft.query.backend.isJsonCapable := by rw [hbackend]; rfl
  have hjson : schema.isJsonColumn p.path.column := hpath ▸ hcolumn
  change match Strategy.ofToken? p.strategyToken with
    | none => _
    | some strategy => _
  rw [← hstrategy]
  cases hknown : p.strategy with
  | none => exact compile_of_strategy_eq_none hp hknown hcapable hjson
  | some strategy =>
    rintro ⟨values, hvalues⟩ hsingle hown
    have hrule : p.kind = .string → strategy.rule = .exact ∨ value.toList.length = 1 := by
      intro hkind
      cases hflag : (p.descriptor name).isCollection with
      | false => exact .inr (hsingle hflag)
      | true =>
        rcases Property.mem_listedNames_iff.1 hlisted with hname | ⟨hlists, -⟩
        · exact hown hname hflag hkind
        · exact .inl (rule_eq_exact_of_listsCollection hlists hkind (hstrategy ▸ hknown))
    obtain ⟨plan, hofValues⟩ : ∃ plan,
        Plan.ofValues (p.target draft.query.tableAlias) strategy values = .ok plan :=
      Plan.exists_ofValues_eq_ok hvalues hrule
    have hplan : p.plan draft.query.tableAlias value = .ok plan :=
      Property.plan_eq_ok_iff.2 ⟨strategy, values, hknown, hvalues, hofValues⟩
    have hjudge := judge_eq_accepted_iff.2 ⟨hcapable, value, p, rfl, hp, hjson, hplan, rfl⟩
    exact ⟨_, _, compile_of_accepted hjudge⟩

/-- Several numbers under the name for lists, where the strategy is one for texts. -/
theorem compile_described_levels : ∃ s,
    ofEntries [("data.level", ⟨some "int", some "partial", false⟩)] = .ok s ∧
      s.describe.get? "data.level[]" = some ⟨"data.level", .int, "partial", false, true⟩ ∧
      ∃ predicate draft', s.compile ⟨"items", "i", .ofList [("data", .jsonb)]⟩
        (Draft.new "items" "i" .postgres) "data.level" (some (.many [.int 1, .int 2])) =
          .ok (.applied predicate, draft') := by
  obtain ⟨s, h⟩ : ∃ s, ofEntries [("data.level", ⟨some "int", some "partial", false⟩)] = .ok s :=
    ⟨_, rfl⟩
  have hdescribed : s.describe.get? "data.level[]" =
      some ⟨"data.level", .int, "partial", false, true⟩ := by
    obtain rfl := Except.ok.inj h
    rfl
  have hcolumn : Schema.isJsonColumn ⟨"items", "i", .ofList [("data", .jsonb)]⟩
      (KeyPath.ofProperty "data.level").column := rfl
  have hbackend : (Draft.new "items" "i" .postgres).query.backend = .postgres := rfl
  have hvalues : TypedValues.ofScalars .int (RequestValue.many [.int 1, .int 2]).toList =
      .ok (.ints [1, 2]) := rfl
  have haccepted := compile_described h hdescribed hbackend hcolumn (.many [.int 1, .int 2])
  exact ⟨s, h, hdescribed, haccepted ⟨_, hvalues⟩ (by decide) (by decide)⟩

/-- A number whose strategy is not known is refused under its name, and so are two texts under a
name that ends in brackets by itself. Both names are described. -/
theorem not_accepted_fuzzy : ∃ s, ofEntries [("data.level", ⟨some "int", some "fuzzy", false⟩),
      ("data.tags[]", ⟨none, some "partial", false⟩)] = .ok s ∧
    s.describe.get? "data.level" = some ⟨"data.level", .int, "fuzzy", false, false⟩ ∧
    TypedValues.ofScalars .int [.int 1] = .ok (.ints [1]) ∧
    (s.compile ⟨"items", "i", .ofList [("data", .jsonb)]⟩ (Draft.new "items" "i" .postgres)
      "data.level" (some (.one (.int 1)))).map (·.1) = .ok (.ignored (.invalidStrategy "fuzzy")) ∧
    s.describe.get? "data.tags[]" = some ⟨"data.tags[]", .string, "partial", false, true⟩ ∧
    TypedValues.ofScalars .string [.text "a", .text "b"] = .ok (.strings ["a", "b"]) ∧
    (s.compile ⟨"items", "i", .ofList [("data", .jsonb)]⟩ (Draft.new "items" "i" .postgres)
      "data.tags[]" (some (.many [.text "a", .text "b"]))).map (·.1) =
        .ok (.ignored (.unsupportedMultiValueStrategy "partial")) := by
  have h : ofEntries [("data.level", ⟨some "int", some "fuzzy", false⟩),
    ("data.tags[]", ⟨none, some "partial", false⟩)] = .ok _ := rfl
  exact ⟨_, h, rfl, rfl, rfl, rfl, rfl, rfl⟩

end FilterSet

end PropertyFilter
