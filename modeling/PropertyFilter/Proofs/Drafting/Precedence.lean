import PropertyFilter.Proofs.Description.Accepted
import PropertyFilter.Proofs.Drafting
import PropertyFilter.Proofs.TypedValues.Accepted

/-!
# What keeps filters from being applied

A filter is applied unless something stands in its way, and of several things that do, the first
decides what is returned. Each obstacle is a statement about the configuration, the schema, the
engine and the value, and their order is fixed.

## Main definitions

* `Obstacle` — what can stand in the way of a filter
* `Obstacle.inOrder` — the obstacles in the order in which they count
* `FilterSet.Obstructs` — an obstacle stands in the way of a filter
* `FilterSet.ObstructsFirst` — it is the first one to do so
* `FilterSet.Answers` — what is returned because of an obstacle
* `FilterSet.Decides` — the first obstacle decides a result, or there is none

## Main results

* `Drafting.perform_compile_of_isJsonColumn` — a filter for a JSON column does what its plan says
* `Drafting.answers_compile_iff` — the first obstacle decides, and without one a filter is applied
-/

namespace PropertyFilter

/-- What can stand in the way of a filter. -/
inductive Obstacle where
  /-- The engine is not the one that filters are compiled for. -/
  | engine
  /-- There is no value. -/
  | noValue
  /-- The property is not configured. -/
  | notEnabled
  /-- Its column is not mapped. -/
  | notMapped
  /-- Its column holds no JSON documents. -/
  | notJson
  /-- Its strategy is not known. -/
  | strategy
  /-- The value is an empty list. -/
  | noElement
  /-- An element is no number of the type. -/
  | number
  /-- The first element is no truth value. -/
  | truthValue
  /-- There are several texts where one is looked for. -/
  | severalTexts
deriving DecidableEq

namespace Obstacle

/-- The obstacles in the order in which they count. -/
def inOrder : List Obstacle :=
  [engine, noValue, notEnabled, notMapped, notJson, strategy, noElement, number, truthValue,
    severalTexts]

/-- The obstacle that a result tells of. -/
def of? : Except FilterError Outcome → Option Obstacle
  | .error _ => some engine
  | .ok (.skipped .nullValue) => some noValue
  | .ok (.skipped .propertyNotEnabled) => some notEnabled
  | .ok (.skipped .columnNotMapped) => some notMapped
  | .ok (.skipped .columnNotJson) => some notJson
  | .ok (.ignored (.invalidStrategy _)) => some strategy
  | .ok (.ignored .emptyValue) => some noElement
  | .ok (.ignored .invalidNumeric) => some number
  | .ok (.ignored .invalidBoolean) => some truthValue
  | .ok (.ignored (.unsupportedMultiValueStrategy _)) => some severalTexts
  | .ok (.applied _) => none

end Obstacle

namespace FilterSet

section Definitions

variable (s : FilterSet) (schema : Schema) (backend : Backend) (property : String)
  (value : Option RequestValue)

/-- An obstacle stands in the way of the filter of a property. -/
def Obstructs : Obstacle → Prop
  | .engine => backend ≠ .postgres
  | .noValue => value = none
  | .notEnabled => s.get? property = none
  | .notMapped => ∃ p ∈ s.get? property, schema.columns.get? p.path.column = none
  | .notJson => ∃ p ∈ s.get? property, ∃ type ∈ schema.columns.get? p.path.column,
      type ≠ .json ∧ type ≠ .jsonb
  | .strategy => ∃ p ∈ s.get? property, ∀ strategy : Strategy, p.strategyToken ≠ strategy.token
  | .noElement => ∃ v ∈ value, v.toList = []
  | .number => ∃ p ∈ s.get? property, (p.kind = .int ∨ p.kind = .float) ∧
      ∃ v ∈ value, ∃ e ∈ v.toList, ¬e.IsNumber p.kind
  | .truthValue => ∃ p ∈ s.get? property, p.kind = .bool ∧
      ∃ v ∈ value, ∃ e ∈ v.toList.head?, e ∉ Scalar.truthValues
  | .severalTexts => ∃ p ∈ s.get? property, p.kind = .string ∧
      (∀ strategy : Strategy, p.strategyToken = strategy.token → strategy.rule ≠ .exact) ∧
        ∃ v ∈ value, 2 ≤ v.toList.length

/-- An obstacle is the first one that stands in the way. -/
def ObstructsFirst (o : Obstacle) : Prop :=
  ∃ before after, Obstacle.inOrder = before ++ o :: after ∧
    (∀ o' ∈ before, ¬s.Obstructs schema backend property value o') ∧
      s.Obstructs schema backend property value o

/-- What is returned because of an obstacle. -/
def Answers : Obstacle → Except FilterError Outcome → Prop
  | .engine, r => r = .error (.invalidPlatform backend)
  | .noValue, r => r = .ok (.skipped .nullValue)
  | .notEnabled, r => r = .ok (.skipped .propertyNotEnabled)
  | .notMapped, r => r = .ok (.skipped .columnNotMapped)
  | .notJson, r => r = .ok (.skipped .columnNotJson)
  | .strategy, r => ∃ p ∈ s.get? property, r = .ok (.ignored (.invalidStrategy p.strategyToken))
  | .noElement, r => r = .ok (.ignored .emptyValue)
  | .number, r => r = .ok (.ignored .invalidNumeric)
  | .truthValue, r => r = .ok (.ignored .invalidBoolean)
  | .severalTexts, r => ∃ p ∈ s.get? property, ∃ strategy : Strategy,
      p.strategyToken = strategy.token ∧
        r = .ok (.ignored (.unsupportedMultiValueStrategy strategy.rule.token))

/-- The first obstacle decides what is returned, and without one a filter is applied. -/
def Decides (r : Except FilterError Outcome) : Prop :=
  (∃ o, s.ObstructsFirst schema backend property value o ∧ s.Answers backend property o r) ∨
    (∀ o, ¬s.Obstructs schema backend property value o) ∧ ∃ predicate, r = .ok (.applied predicate)

end Definitions

variable {s : FilterSet} {schema : Schema} {backend : Backend} {property : String}
  {value : Option RequestValue} {o o' : Obstacle} {r : Except FilterError Outcome}

/-- What is returned tells the obstacle. -/
theorem Answers.of?_eq (h : s.Answers backend property o r) : Obstacle.of? r = some o := by
  cases o with
  | strategy =>
    obtain ⟨p, -, rfl⟩ := h
    rfl
  | severalTexts =>
    obtain ⟨p, -, strategy, -, rfl⟩ := h
    rfl
  | _ =>
    obtain rfl := h
    rfl

/-- Of two obstacles only one is the first. -/
theorem ObstructsFirst.unique (h : s.ObstructsFirst schema backend property value o)
    (h' : s.ObstructsFirst schema backend property value o') : o = o' := by
  obtain ⟨before, after, hsplit, hbefore, ho⟩ := h
  obtain ⟨before', after', hsplit', hbefore', ho'⟩ := h'
  rw [hsplit] at hsplit'
  -- one of the two is not behind the other
  rcases List.append_eq_append_iff.1 hsplit' with ⟨between, rfl, hrest⟩ | ⟨between, rfl, hrest⟩
  · cases between with
    | nil => exact (List.cons.inj hrest).1
    | cons _ _ =>
      obtain ⟨rfl, -⟩ := List.cons.inj hrest
      exact absurd ho (hbefore' o (by simp))
  · cases between with
    | nil => exact (List.cons.inj hrest).1.symm
    | cons _ _ =>
      obtain ⟨rfl, -⟩ := List.cons.inj hrest
      exact absurd ho' (hbefore o' (by simp))

section Configured

variable {p : Property} {strategy : Strategy} {entries : List (String × PropertyEntry)}

theorem obstructs_noElement_iff (s : FilterSet) (schema : Schema) (backend : Backend)
    (property : String) (v : RequestValue) :
    s.Obstructs schema backend property (some v) .noElement ↔ v.toList = [] := by
  simp [Obstructs]

theorem obstructs_number_iff (schema : Schema) (backend : Backend)
    (hp : s.get? property = some p) (v : RequestValue) :
    s.Obstructs schema backend property (some v) .number ↔
      (p.kind = .int ∨ p.kind = .float) ∧ ∃ e ∈ v.toList, ¬e.IsNumber p.kind := by
  simp [Obstructs, hp]

theorem obstructs_truthValue_iff (schema : Schema) (backend : Backend)
    (hp : s.get? property = some p) (v : RequestValue) :
    s.Obstructs schema backend property (some v) .truthValue ↔
      p.kind = .bool ∧ ∃ e ∈ v.toList.head?, e ∉ Scalar.truthValues := by
  simp [Obstructs, hp]

/-- The strategy of a configured property is the one that its token names. -/
theorem strategyToken_eq_token_iff (h : ofEntries entries = .ok s) (hp : s.get? property = some p) :
    p.strategyToken = strategy.token ↔ p.strategy = some strategy := by
  rw [← Strategy.ofToken?_eq_some_iff, (strategy_and_path_of_get? h hp).1]

theorem obstructs_strategy_iff (schema : Schema) (backend : Backend)
    (h : ofEntries entries = .ok s) (hp : s.get? property = some p) (value : Option RequestValue) :
    s.Obstructs schema backend property value .strategy ↔ p.strategy = none := by
  simp [Obstructs, hp, strategyToken_eq_token_iff h hp, Option.eq_none_iff_forall_ne_some]

theorem obstructs_severalTexts_iff (schema : Schema) (backend : Backend)
    (h : ofEntries entries = .ok s) (hp : s.get? property = some p)
    (hstrategy : p.strategy = some strategy) (v : RequestValue) :
    s.Obstructs schema backend property (some v) .severalTexts ↔
      p.kind = .string ∧ strategy.rule ≠ .exact ∧ 2 ≤ v.toList.length := by
  simp [Obstructs, hp, strategyToken_eq_token_iff h hp, hstrategy]

end Configured

end FilterSet

/-! ### Plans of properties -/

/-- Several texts are refused where they are not compared as a whole. -/
theorem Plan.ofStrings_several {target : Target} {strategy : Strategy} {texts : List String}
    (hrule : strategy.rule ≠ .exact) (hseveral : 2 ≤ texts.length) :
    ofStrings target strategy texts =
      .error (.unsupportedMultiValueStrategy strategy.rule.token) := by
  have hsingle : ∀ text, texts ≠ [text] := by
    rintro text rfl
    simp at hseveral
  unfold ofStrings
  split
  · exact absurd rfl (hsingle _)
  · split
    · contradiction
    · rfl

namespace Property

variable {p : Property} {strategy : Strategy}

theorem plan_eq_bind (hstrategy : p.strategy = some strategy) (tableAlias : String)
    (value : RequestValue) :
    p.plan tableAlias value = (TypedValues.ofScalars p.kind value.toList).bind
      (Plan.ofValues (p.target tableAlias) strategy) := by
  rw [plan, hstrategy]
  rfl

/-- What becomes of a value under a known strategy. -/
theorem plan_cases (hstrategy : p.strategy = some strategy) (tableAlias : String)
    (value : RequestValue) :
    (value.toList = [] ∧ p.plan tableAlias value = .error .emptyValue) ∨
    (value.toList ≠ [] ∧ (p.kind = .int ∨ p.kind = .float) ∧
      (∃ e ∈ value.toList, ¬e.IsNumber p.kind) ∧
        p.plan tableAlias value = .error .invalidNumeric) ∨
    (p.kind = .bool ∧ (∃ e ∈ value.toList.head?, e ∉ Scalar.truthValues) ∧
      p.plan tableAlias value = .error .invalidBoolean) ∨
    (p.kind = .string ∧ strategy.rule ≠ .exact ∧ 2 ≤ value.toList.length ∧
      p.plan tableAlias value =
        .error (.unsupportedMultiValueStrategy strategy.rule.token)) ∨
    (value.toList ≠ [] ∧
      (p.kind = .int ∨ p.kind = .float → ∀ e ∈ value.toList, e.IsNumber p.kind) ∧
      (p.kind = .bool → ∀ e ∈ value.toList.head?, e ∈ Scalar.truthValues) ∧
      (p.kind = .string → strategy.rule ≠ .exact → value.toList.length < 2) ∧
      ∃ plan, p.plan tableAlias value = .ok plan) := by
  rw [plan_eq_bind hstrategy]
  rcases TypedValues.ofScalars_cases p.kind value.toList with ⟨hnil, herror⟩ |
    ⟨hne, hkind, hbad, herror⟩ | ⟨hkind, hbad, herror⟩ | ⟨hne, hnumbers, htruth, typed, hok⟩
  · exact .inl ⟨hnil, by rw [herror]; rfl⟩
  · exact .inr (.inl ⟨hne, hkind, hbad, by rw [herror]; rfl⟩)
  · exact .inr (.inr (.inl ⟨hkind, hbad, by rw [herror]; rfl⟩))
  · rw [hok]
    by_cases hseveral : p.kind = .string ∧ strategy.rule ≠ .exact ∧ 2 ≤ value.toList.length
    · obtain ⟨hkind, hrule, hlength⟩ := hseveral
      refine .inr (.inr (.inr (.inl ⟨hkind, hrule, hlength, ?_⟩)))
      obtain ⟨v, vs, hvs⟩ := List.exists_cons_of_ne_nil hne
      rw [hvs, hkind] at hok
      obtain rfl := Except.ok.inj hok
      refine Plan.ofStrings_several hrule ?_
      rwa [List.length_map, ← hvs]
    · have hfew : p.kind = .string → strategy.rule ≠ .exact → value.toList.length < 2 :=
        fun hkind hrule => not_le.1 fun hlength => hseveral ⟨hkind, hrule, hlength⟩
      refine .inr (.inr (.inr (.inr ⟨hne, hnumbers, htruth, hfew, ?_⟩)))
      refine Plan.exists_ofValues_eq_ok hok fun hkind => or_iff_not_imp_left.2 fun hrule => ?_
      have hpos := List.length_pos_iff.2 hne
      have := hfew hkind hrule
      omega

end Property

namespace Drafting

variable {s : FilterSet} {schema : Schema} {d : Draft} {property : String} {p : Property}
  {value : RequestValue}

/-- The filter of a property in a JSON column does what the plan of its value says. -/
theorem perform_compile_of_isJsonColumn (hbackend : d.query.backend.isJsonCapable)
    (hp : s.get? property = some p) (hcolumn : schema.isJsonColumn p.path.column) :
    (compile s schema property (some value)).perform d =
      match p.plan d.query.tableAlias value with
      | .error reason => (.ok (.ignored reason), d)
      | .ok plan => (.ok (.applied (d.takeUp p.path.column plan).1),
        (d.takeUp p.path.column plan).2) := by
  have hmapped := Schema.isMapped_of_isJsonColumn hcolumn
  unfold compile
  rw [perform_bind_of_ok perform_get]
  simp only [hbackend, hp, hmapped, hcolumn, Bool.not_true, Bool.false_eq_true, if_false]
  exact perform_compileProperty p value

theorem perform_compile_of_skipped {value : Option RequestValue} {reason : SkipReason}
    (h : s.judge schema d.query.backend d.query.tableAlias property value =
      .ok (.skipped reason)) :
    (compile s schema property value).perform d = (.ok (.skipped reason), d) := by
  rw [perform_compile, FilterSet.compile_eq_judge, h]
  rfl

section Readable

variable {entries : List (String × PropertyEntry)} {type : FieldType}

/-- Nothing but the strategy and the value stands in the way of a property whose column can be
read. -/
theorem not_obstructs_of_isJsonColumn (hbackend : d.query.backend = .postgres)
    (hp : s.get? property = some p) (htype : schema.columns.get? p.path.column = some type)
    (hjson : type = .json ∨ type = .jsonb) (value : RequestValue) :
    ∀ o ∈ [Obstacle.engine, .noValue, .notEnabled, .notMapped, .notJson],
      ¬s.Obstructs schema d.query.backend property (some value) o := by
  have hnotJson : ¬(type ≠ .json ∧ type ≠ .jsonb) := by
    rw [← not_or]
    exact not_not_intro hjson
  simp [FilterSet.Obstructs, hbackend, hp, htype, hnotJson]

/-- Under a known strategy, the first obstacle is found in the value. -/
theorem decides_plan_of_strategy {strategy : Strategy} (h : FilterSet.ofEntries entries = .ok s)
    (hp : s.get? property = some p) (hstrategy : p.strategy = some strategy)
    (hreadable : ∀ o ∈ [Obstacle.engine, .noValue, .notEnabled, .notMapped, .notJson],
      ¬s.Obstructs schema d.query.backend property (some value) o) :
    s.Decides schema d.query.backend property (some value)
      (match p.plan d.query.tableAlias value with
      | .error reason => .ok (.ignored reason)
      | .ok plan => .ok (.applied (d.takeUp p.path.column plan).1)) := by
  have hknown : ¬s.Obstructs schema d.query.backend property (some value) .strategy := by
    rw [FilterSet.obstructs_strategy_iff schema _ h hp, hstrategy]
    exact Option.some_ne_none strategy
  have hnoElement := FilterSet.obstructs_noElement_iff s schema d.query.backend property value
  have hnumber := FilterSet.obstructs_number_iff schema d.query.backend hp value
  have htruthValue := FilterSet.obstructs_truthValue_iff schema d.query.backend hp value
  have hseveralTexts :=
    FilterSet.obstructs_severalTexts_iff schema d.query.backend h hp hstrategy value
  rcases p.plan_cases hstrategy d.query.tableAlias value with ⟨hnil, hplan⟩ |
    ⟨hne, hkind, hbad, hplan⟩ | ⟨hkind, hbad, hplan⟩ | ⟨hkind, hexact, hseveral, hplan⟩ |
    ⟨hne, hnumbers, htruth, hfew, plan, hplan⟩
  all_goals rw [hplan]
  -- what an earlier case excludes is an obstacle that does not stand before the one found
  · left
    refine ⟨.noElement, ⟨[.engine, .noValue, .notEnabled, .notMapped, .notJson, .strategy], _,
      rfl, ?_, hnoElement.2 hnil⟩, rfl⟩
    simp_all
  · left
    refine ⟨.number, ⟨[.engine, .noValue, .notEnabled, .notMapped, .notJson, .strategy,
      .noElement], _, rfl, ?_, hnumber.2 ⟨hkind, hbad⟩⟩, rfl⟩
    simp_all
  · left
    have hne : value.toList ≠ [] := by
      rintro hnil
      simp [hnil] at hbad
    refine ⟨.truthValue, ⟨[.engine, .noValue, .notEnabled, .notMapped, .notJson, .strategy,
      .noElement, .number], _, rfl, ?_, htruthValue.2 ⟨hkind, hbad⟩⟩, rfl⟩
    simp_all
  · left
    have hne : value.toList ≠ [] := by
      rintro hnil
      simp [hnil] at hseveral
    refine ⟨.severalTexts, ⟨[.engine, .noValue, .notEnabled, .notMapped, .notJson, .strategy,
      .noElement, .number, .truthValue], _, rfl, ?_, hseveralTexts.2 ⟨hkind, hexact, hseveral⟩⟩,
      p, hp, strategy, (FilterSet.strategyToken_eq_token_iff h hp).2 hstrategy, rfl⟩
    simp_all
  · right
    refine ⟨?_, _, rfl⟩
    intro o
    cases o with
    | strategy => exact hknown
    | noElement =>
      rw [hnoElement]
      exact hne
    | number =>
      rw [hnumber]
      rintro ⟨hkind, e, he, hbad⟩
      exact hbad (hnumbers hkind e he)
    | truthValue =>
      rw [htruthValue]
      rintro ⟨hkind, e, he, hbad⟩
      exact hbad (htruth hkind e he)
    | severalTexts =>
      rw [hseveralTexts]
      rintro ⟨hkind, hexact, hseveral⟩
      exact absurd (hfew hkind hexact) (not_lt.2 hseveral)
    | _ => exact hreadable _ (by simp)

/-- Where the column of a property can be read, the first obstacle is found in its strategy or in
the value. -/
theorem decides_of_isJsonColumn (h : FilterSet.ofEntries entries = .ok s)
    (hbackend : d.query.backend = .postgres) (hp : s.get? property = some p)
    (htype : schema.columns.get? p.path.column = some type)
    (hjson : type = .json ∨ type = .jsonb) :
    s.Decides schema d.query.backend property (some value)
      ((compile s schema property (some value)).perform d).1 := by
  have hcolumn : schema.isJsonColumn p.path.column := by
    rcases hjson with rfl | rfl <;> rw [Schema.isJsonColumn, htype] <;> rfl
  have hreadable := not_obstructs_of_isJsonColumn hbackend hp htype hjson value
  rw [perform_compile_of_isJsonColumn (Backend.isJsonCapable_iff.2 hbackend) hp hcolumn]
  cases hstrategy : p.strategy with
  | none =>
    -- the strategy is looked at before the value
    left
    refine ⟨.strategy, ⟨_, _, rfl, hreadable,
      (FilterSet.obstructs_strategy_iff schema _ h hp _).2 hstrategy⟩, p, hp, ?_⟩
    rw [Property.plan, hstrategy]
  | some strategy =>
    have hdecides := decides_plan_of_strategy h hp hstrategy hreadable
    cases hplan : p.plan d.query.tableAlias value <;> rwa [hplan] at hdecides

end Readable

/-- The first obstacle of a filter decides what is returned. -/
theorem decides_compile {entries : List (String × PropertyEntry)}
    (h : FilterSet.ofEntries entries = .ok s) (schema : Schema) (d : Draft) (property : String)
    (value : Option RequestValue) :
    s.Decides schema d.query.backend property value
      ((compile s schema property value).perform d).1 := by
  by_cases hbackend : d.query.backend = .postgres
  swap
  · left
    refine ⟨.engine, ⟨[], _, rfl, nofun, hbackend⟩, ?_⟩
    rw [perform_compile, FilterSet.compile_eq_judge,
      FilterSet.judge_of_not_isJsonCapable (by rwa [Backend.isJsonCapable_iff])]
    rfl
  have hcapable : d.query.backend.isJsonCapable := Backend.isJsonCapable_iff.2 hbackend
  cases value with
  | none =>
    left
    refine ⟨.noValue, ⟨[.engine], _, rfl, by simp [FilterSet.Obstructs, hbackend], rfl⟩, ?_⟩
    have hjudge : s.judge schema d.query.backend d.query.tableAlias property none =
        .ok (.skipped .nullValue) := by simp [FilterSet.judge, hcapable]
    rw [perform_compile_of_skipped hjudge]
    rfl
  | some value =>
    cases hp : s.get? property with
    | none =>
      left
      refine ⟨.notEnabled, ⟨[.engine, .noValue], _, rfl, ?_, hp⟩, ?_⟩
      · simp [FilterSet.Obstructs, hbackend]
      · have hjudge : s.judge schema d.query.backend d.query.tableAlias property (some value) =
            .ok (.skipped .propertyNotEnabled) := by simp [FilterSet.judge, hcapable, hp]
        rw [perform_compile_of_skipped hjudge]
        rfl
    | some p =>
      cases htype : schema.columns.get? p.path.column with
      | none =>
        have hunmapped : schema.isMapped p.path.column = false := by
          simp [Schema.isMapped, SortedMap.contains, htype]
        left
        refine ⟨.notMapped, ⟨[.engine, .noValue, .notEnabled], _, rfl, ?_, p, hp, htype⟩, ?_⟩
        · simp [FilterSet.Obstructs, hbackend, hp]
        · have hjudge : s.judge schema d.query.backend d.query.tableAlias property (some value) =
              .ok (.skipped .columnNotMapped) := by simp [FilterSet.judge, hcapable, hp, hunmapped]
          rw [perform_compile_of_skipped hjudge]
          rfl
      | some type =>
        by_cases hjson : type = .json ∨ type = .jsonb
        · exact decides_of_isJsonColumn h hbackend hp htype hjson
        · have hmapped : schema.isMapped p.path.column := by
            simp [Schema.isMapped, SortedMap.contains, htype]
          have hcolumn : schema.isJsonColumn p.path.column = false := by
            rw [Schema.isJsonColumn, htype]
            cases type <;> simp_all [FieldType.isJson]
          left
          refine ⟨.notJson, ⟨[.engine, .noValue, .notEnabled, .notMapped], _, rfl, ?_, p, hp, type,
            htype, not_or.1 hjson⟩, ?_⟩
          · simp [FilterSet.Obstructs, hbackend, hp, htype]
          · have hjudge : s.judge schema d.query.backend d.query.tableAlias property
                (some value) = .ok (.skipped .columnNotJson) := by
              simp [FilterSet.judge, hcapable, hp, hmapped, hcolumn]
            rw [perform_compile_of_skipped hjudge]
            rfl

/-- Filters are answered by the first obstacle, and applied exactly when there is none. -/
theorem answers_compile_iff {entries : List (String × PropertyEntry)}
    (h : FilterSet.ofEntries entries = .ok s) (schema : Schema) (d : Draft) (property : String)
    (value : Option RequestValue) :
    (∀ o, s.Answers d.query.backend property o ((compile s schema property value).perform d).1 ↔
      s.ObstructsFirst schema d.query.backend property value o) ∧
    ((∃ predicate, ((compile s schema property value).perform d).1 = .ok (.applied predicate)) ↔
      ∀ o, ¬s.Obstructs schema d.query.backend property value o) := by
  -- a result tells its obstacle, and only one obstacle is the first
  obtain ⟨first, hfirst, hanswers⟩ | ⟨hnone, predicate, happlied⟩ :=
    decides_compile h schema d property value
  · refine ⟨fun o => ⟨fun ho => ?_, fun ho => ?_⟩, ?_, fun hnone => ?_⟩
    · obtain rfl : o = first := Option.some.inj (ho.of?_eq.symm.trans hanswers.of?_eq)
      exact hfirst
    · rwa [ho.unique hfirst]
    · rintro ⟨predicate, happlied⟩
      have := hanswers.of?_eq
      rw [happlied] at this
      cases this
    · obtain ⟨_, _, _, _, hobstructs⟩ := hfirst
      exact absurd hobstructs (hnone first)
  · refine ⟨fun o => ⟨fun ho => ?_, ?_⟩, fun _ => hnone, fun _ => ⟨predicate, happlied⟩⟩
    · have := ho.of?_eq
      rw [happlied] at this
      cases this
    · rintro ⟨_, _, _, _, hobstructs⟩
      exact absurd hobstructs (hnone o)

/-- An empty list under an unknown strategy, for a property that holds integers. -/
theorem answers_compile_unknown_strategy :
    ∃ s, FilterSet.ofEntries [("data.age", ⟨some "int", some "fuzzy", false⟩)] = .ok s ∧
      ((compile s ⟨"items", "i", .ofList [("data", .json)]⟩ "data.age" (some (.many []))).perform
          (Draft.new "items" "i" .postgres)).1 = .ok (.ignored (.invalidStrategy "fuzzy")) ∧
      s.ObstructsFirst ⟨"items", "i", .ofList [("data", .json)]⟩ .postgres "data.age"
        (some (.many [])) .strategy := by
  have h : FilterSet.ofEntries [("data.age", ⟨some "int", some "fuzzy", false⟩)] = .ok _ := rfl
  have hresult := (answers_compile_iff h ⟨"items", "i", .ofList [("data", .json)]⟩
    (Draft.new "items" "i" .postgres) "data.age" (some (.many []))).1 .strategy
  exact ⟨_, h, rfl, hresult.1 ⟨_, rfl, rfl⟩⟩

/-- A text that writes the number just below all integers of 64 bits is no obstacle for a property
that holds integers, since it is rounded to the least of them. -/
theorem answers_compile_below :
    (∀ n : Int64, ¬Decimal.Writes "-9223372036854775809" n.toInt) ∧
    ∃ s, FilterSet.ofEntries [("data.age", ⟨some "int", none, false⟩)] = .ok s ∧ ∃ predicate,
      ((compile s ⟨"items", "i", .ofList [("data", .json)]⟩ "data.age"
          (some (.one (.text "-9223372036854775809")))).perform
        (Draft.new "items" "i" .postgres)).1 = .ok (.applied predicate) := by
  constructor
  · rintro n ⟨l, htext, hvalue⟩
    have hdecimal : some l.decimal = some ⟨true, 9223372036854775809, 0⟩ := by
      rw [← l.parse?_text, htext]
      rfl
    have hbelow : l.value = (-9223372036854775809 : ℤ) := by
      rw [← l.value_decimal, Option.some.inj hdecimal]
      norm_num [Decimal.value, signed]
    have hn : n.toInt = -9223372036854775809 := by exact_mod_cast hvalue.symm.trans hbelow
    have := n.le_toInt
    omega
  · obtain ⟨s, p, h, hp, hkind, hstrategy, hcolumn⟩ : ∃ s p,
        FilterSet.ofEntries [("data.age", ⟨some "int", none, false⟩)] = .ok s ∧
        s.get? "data.age" = some p ∧ p.kind = .int ∧ p.strategy = some ⟨.exact, true⟩ ∧
        Schema.isJsonColumn ⟨"items", "i", .ofList [("data", .json)]⟩ p.path.column :=
      ⟨_, _, rfl, rfl, rfl, rfl, rfl⟩
    have hvalues : TypedValues.ofScalars .int [.text "-9223372036854775809"] =
        .ok (.ints [Int64.minValue]) := rfl
    have hplan : p.plan (Draft.new "items" "i" .postgres).query.tableAlias
        (.one (.text "-9223372036854775809")) = .ok _ :=
      Property.plan_eq_ok_iff.2 ⟨_, _, hstrategy, hkind ▸ hvalues, rfl⟩
    refine ⟨s, h, ?_⟩
    rw [perform_compile_of_isJsonColumn rfl hp hcolumn, hplan]
    exact ⟨_, rfl⟩

end Drafting

end PropertyFilter
