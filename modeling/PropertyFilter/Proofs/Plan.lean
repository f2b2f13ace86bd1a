import PropertyFilter.Compile
import PropertyFilter.Proofs.Text.Joined

/-!
# Templates of plans

The template of a plan is fixed by the property, the alias of the table and the number of
values. The values themselves have no part in it.

## Main definitions

* `Condition.slots` — what the comparisons of a condition compare with
* `Test.known` — the tests that templates are made of
* `Plan.templateFor` — the template for a number of values of a type

## Main results

* `Property.template_of_plan` — the template of every plan is the one for its number of values
* `Plan.mem_slots_templateFor` — a template has a slot for every value and no others
* `Plan.reads_of_mem_templateFor` — its comparisons read the target, with a known test
-/

namespace PropertyFilter

/-! ### Slots of conditions -/

namespace Condition

variable {σ τ : Type} {c : Condition σ}

/-- What the comparisons of a condition compare with. -/
def slots (c : Condition σ) : List σ := c.comparisons.map (·.slot)

@[simp] theorem comparisons_map (f : σ → τ) :
    (c.map f).comparisons = c.comparisons.map (·.map f) := by
  cases c <;> rfl

@[simp] theorem slots_map (f : σ → τ) : (c.map f).slots = c.slots.map f := by
  simp [slots, Comparison.map]

end Condition

/-- The tests that templates are made of. -/
def Test.known : List Test :=
  [.equal, .like "%" "%", .like "" "%", .like "%" "", .like "% " "%"]

/-- The comparisons of a strategy are of one text with one slot; only their tests differ. -/
theorem Strategy.exists_test_of_mem_condition {σ : Type} {s : Strategy} {column key : String}
    {slot : σ} {c : Comparison σ} (h : c ∈ (s.condition column key slot).comparisons) :
    ∃ test ∈ Test.known, (s.rule = .exact → test = .equal) ∧
      c = ⟨column, key, !s.caseSensitive, test, false, slot⟩ := by
  unfold condition at h
  cases hrule : s.rule <;>
    simp only [hrule, Condition.comparisons, List.mem_cons, List.not_mem_nil, or_false] at h
  case atWordStart =>
    -- the one rule that needs two comparisons
    rcases h with rfl | rfl
    · exact ⟨_, by decide, by simp, rfl⟩
    · exact ⟨_, by decide, by simp, rfl⟩
  all_goals exact ⟨_, by decide, by simp, h⟩

/-! ### Types of values -/

namespace TypedValues

/-- The type that values are of. -/
def kind : TypedValues → PropertyType
  | strings _ => .string
  | ints _ => .int
  | floats _ => .float
  | bool _ => .bool

/-- Values that are accepted for a type are of that type. -/
theorem kind_of_ofScalars {kind : PropertyType} {scalars : List Scalar} {values : TypedValues}
    (h : ofScalars kind scalars = .ok values) : values.kind = kind := by
  cases scalars with
  | nil => simp [ofScalars] at h
  | cons first rest =>
    cases kind with
    | string =>
      obtain rfl := Except.ok.inj h
      rfl
    | _ =>
      -- the other types may turn values down
      rw [ofScalars] at h
      split at h
      · obtain rfl := Except.ok.inj h
        rfl
      · simp at h

/-- How many values there are. -/
def count : TypedValues → Nat
  | strings values => values.length
  | ints values => values.length
  | floats values => values.length
  | bool _ => 1

/-- All values that are accepted are kept, but of truth values only one. -/
theorem count_of_ofScalars {kind : PropertyType} {scalars : List Scalar} {values : TypedValues}
    (h : ofScalars kind scalars = .ok values) :
    values.count = if kind = .bool then 1 else scalars.length := by
  cases scalars with
  | nil => simp [ofScalars] at h
  | cons first rest =>
    cases kind with
    | string =>
      obtain rfl := Except.ok.inj h
      simp [count]
    | int =>
      rw [ofScalars] at h
      split at h
      · rename_i numbers hread
        obtain rfl := Except.ok.inj h
        exact (Text.mapM_eq_some_iff.1 hread).length_eq.symm
      · simp at h
    | float =>
      rw [ofScalars] at h
      split at h
      · rename_i literals hread
        obtain rfl := Except.ok.inj h
        exact (Text.mapM_eq_some_iff.1 hread).length_eq.symm
      · simp at h
    | bool =>
      rw [ofScalars] at h
      split at h
      · obtain rfl := Except.ok.inj h
        rfl
      · simp at h

end TypedValues

/-! ### Filling a plan -/

namespace Plan

variable {plan : Plan} {names : List String}

/-- The condition that names make of a plan. -/
def condition (plan : Plan) (names : List String) : Condition String :=
  plan.template.map fun i => names.getD i ""

theorem sql_fill : (plan.fill names).sql = (plan.condition names).sql Sql.slot := rfl

/-- A predicate has one parameter for each name. -/
theorem map_name_params_fill (h : names.length = plan.values.length) :
    (plan.fill names).params.map (·.name) = names := by
  apply List.ext_getElem
  · simp [fill, h]
  · intro i _ hi
    simp [fill]

/-- It carries the values of the plan in their order. -/
theorem map_value_params_fill (h : names.length = plan.values.length) :
    (plan.fill names).params.map (·.value) = plan.values := by
  apply List.ext_getElem
  · simp [fill, h]
  · intro i _ hi
    simp [fill]

end Plan

/-! ### Templates -/

namespace Plan

variable {target : Target} {strategy : Strategy} {kind : PropertyType} {count : Nat}

/-- The template for a number of values of a type. -/
def templateFor (target : Target) (strategy : Strategy) (kind : PropertyType) (count : Nat) :
    Condition Nat :=
  match kind with
  | .string =>
    if count = 1 then strategy.condition target.column target.key 0
    else .anyOf (equalities target (!strategy.caseSensitive) false count)
  | .bool => .anyOf (equalities target false false count)
  | _ =>
    if count = 1 then .single ⟨target.column, target.key, false, .equal, true, 0⟩
    else .anyOf (equalities target false true count)

theorem length_equalities {foldsCase castsSlot : Bool} :
    (equalities target foldsCase castsSlot count).length = count := by
  simp [equalities]

theorem template_ofStrings {texts : List String} {plan : Plan}
    (h : ofStrings target strategy texts = .ok plan) :
    plan.template = templateFor target strategy .string plan.values.length := by
  unfold ofStrings at h
  split at h
  · obtain rfl := Except.ok.inj h
    rfl
  · rename_i hsingle
    split at h
    · obtain rfl := Except.ok.inj h
      -- a single text was dealt with in the first case
      have hlength : texts.length ≠ 1 := fun hone => by
        obtain ⟨s, rfl⟩ := List.length_eq_one_iff.1 hone
        exact hsingle s rfl
      simp [templateFor, hlength]
    · simp at h

theorem values_ofNumbers (values : List BoundValue) :
    (ofNumbers target values).values = values := by
  unfold ofNumbers comparing
  split <;> rfl

/-- Several equalities, or none, are a choice. -/
theorem comparing_of_length_ne_one {foldsCase castsSlot : Bool} {values : List BoundValue}
    (h : values.length ≠ 1) : comparing target foldsCase castsSlot values =
      ⟨.anyOf (equalities target foldsCase castsSlot values.length), values⟩ := by
  unfold comparing
  split
  · next c hc =>
    have hlength := congrArg List.length hc
    rw [length_equalities] at hlength
    exact absurd hlength h
  · rfl

/-- A plan has a slot value for every value. -/
theorem length_values_of_ofValues {values : TypedValues} {plan : Plan}
    (h : ofValues target strategy values = .ok plan) : plan.values.length = values.count := by
  cases values with
  | strings texts =>
    change ofStrings target strategy texts = .ok plan at h
    unfold ofStrings at h
    split at h
    · obtain rfl := Except.ok.inj h
      rfl
    · split at h
      · obtain rfl := Except.ok.inj h
        simp [TypedValues.count]
      · simp at h
  | ints numbers =>
    obtain rfl := Except.ok.inj h
    simp [values_ofNumbers, TypedValues.count]
  | floats literals =>
    obtain rfl := Except.ok.inj h
    simp [values_ofNumbers, TypedValues.count]
  | bool b =>
    obtain rfl := Except.ok.inj h
    rfl

theorem template_ofNumbers (values : List BoundValue) (h : kind = .int ∨ kind = .float) :
    (ofNumbers target values).template =
      templateFor target strategy kind (ofNumbers target values).values.length := by
  rw [values_ofNumbers]
  by_cases hone : values.length = 1
  · rcases h with rfl | rfl <;> rw [hone, ofNumbers, comparing, hone] <;> rfl
  · rw [ofNumbers, comparing_of_length_ne_one hone]
    rcases h with rfl | rfl <;> simp [templateFor, hone]

/-- The template of an accepted plan is the one for its number of values. -/
theorem template_of_ofValues {values : TypedValues} {plan : Plan}
    (h : ofValues target strategy values = .ok plan) :
    plan.template = templateFor target strategy values.kind plan.values.length := by
  cases values with
  | strings texts => exact template_ofStrings h
  | ints numbers =>
    obtain rfl := Except.ok.inj h
    exact template_ofNumbers _ (.inl rfl)
  | floats literals =>
    obtain rfl := Except.ok.inj h
    exact template_ofNumbers _ (.inr rfl)
  | bool b =>
    obtain rfl := Except.ok.inj h
    rfl

/-! ### What templates hold -/

theorem slots_equalities {foldsCase castsSlot : Bool} :
    (Condition.anyOf (equalities target foldsCase castsSlot count)).slots = List.range count := by
  simp [Condition.slots, Condition.comparisons, equalities, Function.comp_def]

theorem mem_slots_condition {i : Nat} :
    i ∈ (strategy.condition target.column target.key 0).slots ↔ i < 1 := by
  unfold Strategy.condition
  split <;> simp [Condition.slots, Condition.comparisons]

/-- A template has a slot for every value and no others. -/
theorem mem_slots_templateFor {i : Nat} :
    i ∈ (templateFor target strategy kind count).slots ↔ i < count := by
  have hsingle : i ∈ (Condition.single (⟨target.column, target.key, false, .equal, true, 0⟩ :
      Comparison Nat)).slots ↔ i < 1 := by
    simp [Condition.slots, Condition.comparisons]
  unfold templateFor
  split
  · split
    · rename_i hone
      rw [mem_slots_condition, hone]
    · rw [slots_equalities, List.mem_range]
  · rw [slots_equalities, List.mem_range]
  · split
    · rename_i hone
      rw [hsingle, hone]
    · rw [slots_equalities, List.mem_range]

/-- A template has a comparison for every slot, but two for a text that is looked for at the start
of words. -/
theorem slots_templateFor : (templateFor target strategy kind count).slots =
    if kind = .string ∧ strategy.rule = .atWordStart ∧ count = 1 then [0, 0]
    else List.range count := by
  unfold templateFor
  cases kind with
  | string =>
    by_cases hone : count = 1
    · subst hone
      unfold Strategy.condition
      cases strategy.rule <;> rfl
    · simp [hone, slots_equalities]
  | bool => simp [slots_equalities]
  | int =>
    by_cases hone : count = 1
    · subst hone
      rfl
    · simp [hone, slots_equalities]
  | float =>
    by_cases hone : count = 1
    · subst hone
      rfl
    · simp [hone, slots_equalities]

/-- A comparison that reads a target, with a known test. -/
structure Reads (target : Target) {σ : Type} (c : Comparison σ) : Prop where
  column : c.column = target.column
  key : c.key = target.key
  test : c.test ∈ Test.known

/-- What stands in the slot does not matter to what is read. -/
theorem Reads.map {σ τ : Type} {c : Comparison σ} (h : Reads target c) (f : σ → τ) :
    Reads target (c.map f) :=
  ⟨h.column, h.key, h.test⟩

theorem reads_of_mem_equalities {foldsCase castsSlot : Bool} {c : Comparison Nat}
    (h : c ∈ equalities target foldsCase castsSlot count) : Reads target c := by
  obtain ⟨i, -, rfl⟩ := List.mem_map.1 h
  exact ⟨rfl, rfl, by simp [Test.known]⟩

theorem reads_of_mem_condition {c : Comparison Nat}
    (h : c ∈ (strategy.condition target.column target.key 0).comparisons) : Reads target c := by
  obtain ⟨test, htest, -, rfl⟩ := Strategy.exists_test_of_mem_condition h
  exact ⟨rfl, rfl, htest⟩

/-- The comparisons of a template read its target. -/
theorem reads_of_mem_templateFor {c : Comparison Nat}
    (h : c ∈ (templateFor target strategy kind count).comparisons) : Reads target c := by
  unfold templateFor at h
  split at h
  · split at h
    · exact reads_of_mem_condition h
    · exact reads_of_mem_equalities h
  · exact reads_of_mem_equalities h
  · split at h
    · obtain rfl := List.mem_singleton.1 h
      exact ⟨rfl, rfl, by simp [Test.known]⟩
    · exact reads_of_mem_equalities h

end Plan

/-! ### Plans of properties -/

namespace Property

variable {p : Property} {tableAlias : String} {value : RequestValue} {plan : Plan}

/-- Where the stored text of a property lies in the rows of a table. -/
def target (p : Property) (tableAlias : String) : Plan.Target :=
  ⟨tableAlias ++ "." ++ p.path.column, p.path.key⟩

/-- A value makes a plan if the strategy is known and accepts the value as one of the type. -/
theorem plan_eq_ok_iff : p.plan tableAlias value = .ok plan ↔ ∃ strategy values,
    p.strategy = some strategy ∧ TypedValues.ofScalars p.kind value.toList = .ok values ∧
      Plan.ofValues (p.target tableAlias) strategy values = .ok plan := by
  unfold Property.plan
  cases p.strategy with
  | none => simp
  | some strategy =>
    cases TypedValues.ofScalars p.kind value.toList with
    | error e => simp [Except.bind]
    | ok values => simp [Except.bind, target]

/-- The template of every plan of a property is the one for its number of values. -/
theorem template_of_plan (h : p.plan tableAlias value = .ok plan) :
    ∃ strategy, p.strategy = some strategy ∧ plan.template =
      Plan.templateFor (p.target tableAlias) strategy p.kind plan.values.length := by
  obtain ⟨strategy, values, hstrategy, hvalues, hplan⟩ := plan_eq_ok_iff.1 h
  refine ⟨strategy, hstrategy, ?_⟩
  rw [← TypedValues.kind_of_ofScalars hvalues]
  exact Plan.template_of_ofValues hplan

end Property

end PropertyFilter
