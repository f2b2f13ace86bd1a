import Mathlib.Logic.Relation
import PropertyFilter.Proofs.FilterSet
import PropertyFilter.Proofs.Plan
import PropertyFilter.Request

/-!
# Runs on a draft

What any sequence of calls can do to a draft. Whatever the calls are, each step takes up the
plan of a configured property or tells the client something.

## Main definitions

* `Call`, `FilterSet.call`, `FilterSet.run` — calls, and the draft after one and after many
* `Draft.Step` — the two things that can happen to a draft

## Main results

* `Draft.frame_of_reflTransGen` — no step changes the table, its alias or the engine
* `FilterSet.judge_eq_accepted_iff` — when a filter is accepted
* `FilterSet.exists_applyEach_eq_ok` — applying a request succeeds if the engine can read JSON
* `FilterSet.reflTransGen_run` — every run consists of steps
-/

namespace PropertyFilter

open Relation

/-! ### Taking up a plan -/

namespace Draft

variable {s : FilterSet} {d d' : Draft} {seed : String} {plan : Plan}

/-- The names that a plan is filled with. -/
def freshNames (d : Draft) (seed : String) (plan : Plan) : List String :=
  (d.names.take seed plan.values.length).1

@[simp] theorem length_freshNames : (d.freshNames seed plan).length = plan.values.length :=
  NameSource.length_take _ _ _

@[simp] theorem predicates_takeUp : (d.takeUp seed plan).2.query.predicates =
    d.query.predicates ++ [(d.takeUp seed plan).1.sql] := by
  simp [takeUp, Query.register_eq]

@[simp] theorem params_takeUp : (d.takeUp seed plan).2.query.params =
    d.query.params ++ (d.takeUp seed plan).1.params := by
  simp [takeUp, Query.register_eq]

@[simp] theorem table_takeUp : (d.takeUp seed plan).2.query.table = d.query.table := by
  simp [takeUp, Query.register_eq]

@[simp] theorem tableAlias_takeUp :
    (d.takeUp seed plan).2.query.tableAlias = d.query.tableAlias := by
  simp [takeUp, Query.register_eq]

@[simp] theorem backend_takeUp : (d.takeUp seed plan).2.query.backend = d.query.backend := by
  simp [takeUp, Query.register_eq]

@[simp] theorem count_takeUp :
    (d.takeUp seed plan).2.names.count = d.names.count + plan.values.length := rfl

theorem map_name_params_takeUp :
    (d.takeUp seed plan).1.params.map (·.name) = d.freshNames seed plan :=
  Plan.map_name_params_fill length_freshNames

theorem length_params_takeUp : (d.takeUp seed plan).1.params.length = plan.values.length := by
  have hnames : (d.takeUp seed plan).1.params.map (·.name) = d.freshNames seed plan :=
    map_name_params_takeUp
  rw [← List.length_map (·.name), hnames, length_freshNames]

theorem sql_takeUp : (d.takeUp seed plan).1.sql =
    (plan.condition (d.freshNames seed plan)).sql Sql.slot := Plan.sql_fill

/-- The two things that can happen to a draft under a filter set: it takes up the plan of a
property, or the client is told about one. -/
inductive Step (s : FilterSet) (d : Draft) : Draft → Prop where
  | takeUp {name : String} {p : Property} {value : RequestValue} {plan : Plan}
      (hp : s.get? name = some p) (hplan : p.plan d.query.tableAlias value = .ok plan) :
      Step s d (d.takeUp p.path.column plan).2
  | tell (property : String) (o : Outcome) : Step s d (d.tell property o)

/-- No step changes what the query is about. -/
theorem Step.frame (h : Step s d d') : d'.query.table = d.query.table ∧
    d'.query.tableAlias = d.query.tableAlias ∧ d'.query.backend = d.query.backend := by
  cases h with
  | takeUp hp hplan => exact ⟨table_takeUp, tableAlias_takeUp, backend_takeUp⟩
  | tell property o => exact ⟨rfl, rfl, rfl⟩

theorem frame_of_reflTransGen (h : ReflTransGen (Step s) d d') :
    d'.query.table = d.query.table ∧ d'.query.tableAlias = d.query.tableAlias ∧
      d'.query.backend = d.query.backend := by
  induction h with
  | refl => exact ⟨rfl, rfl, rfl⟩
  | tail _ hstep ih =>
    obtain ⟨htable, halias, hbackend⟩ := hstep.frame
    exact ⟨htable.trans ih.1, halias.trans ih.2.1, hbackend.trans ih.2.2⟩

end Draft

/-! ### Calls -/

/-- A call that adds filters to a draft. -/
inductive Call where
  | compile (property : String) (value : Option RequestValue)
  | filterProperty (property : String) (value : Option RequestValue)
  | apply (request : Request)

namespace FilterSet

/-- The draft after a call. Only the engine makes a call fail, at its first filter, and then the
draft is as it was. -/
def call (s : FilterSet) (schema : Schema) (d : Draft) : Call → Draft
  | .compile property value => ((s.compile schema d property value).map (·.2)).toOption.getD d
  | .filterProperty property value =>
    ((s.filterProperty schema d property value).map (·.2)).toOption.getD d
  | .apply request => ((s.apply schema d request).map (·.2)).toOption.getD d

/-- The draft after several calls. -/
def run (s : FilterSet) (schema : Schema) (d : Draft) (calls : List Call) : Draft :=
  calls.foldl (s.call schema) d

variable {s : FilterSet} {schema : Schema} {d d' : Draft} {property seed : String}
  {value : Option RequestValue} {plan : Plan} {o : Outcome}

/-- A filter is accepted if the engine can read JSON, there is a value for a configured property
in a JSON column, and the value makes a plan. -/
theorem judge_eq_accepted_iff {backend : Backend} {tableAlias : String} :
    s.judge schema backend tableAlias property value = .ok (.accepted seed plan) ↔
      backend.isJsonCapable ∧ ∃ v p, value = some v ∧ s.get? property = some p ∧
        schema.isJsonColumn p.path.column ∧ p.plan tableAlias v = .ok plan ∧
        seed = p.path.column := by
  constructor
  · intro h
    -- every branch but the last one has another verdict
    unfold judge at h
    split at h
    · simp at h
    · rename_i hbackend
      split at h
      · simp at h
      · rename_i v
        split at h
        · simp at h
        · rename_i p hp
          split at h
          · simp at h
          · split at h
            · simp at h
            · rename_i hjson
              split at h
              · simp at h
              · rename_i plan' hplan
                obtain ⟨rfl, rfl⟩ : p.path.column = seed ∧ plan' = plan := by simpa using h
                exact ⟨by simpa using hbackend, v, p, rfl, hp, by simpa using hjson, hplan, rfl⟩
  · rintro ⟨hbackend, v, p, rfl, hp, hjson, hplan, rfl⟩
    have hmapped := Schema.isMapped_of_isJsonColumn hjson
    simp [judge, hbackend, hp, hmapped, hjson, hplan]

/-- An accepted filter is applied. -/
theorem compile_of_accepted
    (h : s.judge schema d.query.backend d.query.tableAlias property value =
      .ok (.accepted seed plan)) :
    s.compile schema d property value =
      .ok (.applied (d.takeUp seed plan).1, (d.takeUp seed plan).2) := by
  rw [compile_eq_judge, h]
  rfl

/-- Compiling leaves a draft as it is, or takes up the plan of an accepted filter. -/
theorem compile_cases (h : s.compile schema d property value = .ok (o, d')) :
    (o.predicate? = none ∧ d' = d) ∨ ∃ seed plan,
      s.judge schema d.query.backend d.query.tableAlias property value =
        .ok (.accepted seed plan) ∧
      o = .applied (d.takeUp seed plan).1 ∧ d' = (d.takeUp seed plan).2 := by
  rw [compile_eq_judge] at h
  cases hjudge : s.judge schema d.query.backend d.query.tableAlias property value with
  | error e => simp [hjudge, Except.map] at h
  | ok verdict =>
    rw [hjudge] at h
    cases verdict with
    | skipped reason =>
      obtain ⟨rfl, rfl⟩ : Outcome.skipped reason = o ∧ d = d' := by simpa [Except.map] using h
      exact .inl ⟨rfl, rfl⟩
    | ignored reason =>
      obtain ⟨rfl, rfl⟩ : Outcome.ignored reason = o ∧ d = d' := by simpa [Except.map] using h
      exact .inl ⟨rfl, rfl⟩
    | accepted seed plan =>
      obtain ⟨rfl, rfl⟩ := Prod.mk.inj (Except.ok.inj h)
      exact .inr ⟨seed, plan, rfl, rfl, rfl⟩

/-- A filter with a notice is a filter, and then what the client is told. -/
theorem filterProperty_eq_ok_iff : s.filterProperty schema d property value = .ok (o, d') ↔
    ∃ d₁, s.compile schema d property value = .ok (o, d₁) ∧ d' = d₁.tell property o := by
  unfold filterProperty
  cases s.compile schema d property value with
  | error e => simp [Except.map]
  | ok result =>
    obtain ⟨o₁, d₁⟩ := result
    simp only [Except.map, Except.ok.injEq, Prod.mk.injEq]
    constructor
    · rintro ⟨rfl, rfl⟩
      exact ⟨d₁, ⟨rfl, rfl⟩, rfl⟩
    · rintro ⟨_, ⟨rfl, rfl⟩, rfl⟩
      exact ⟨rfl, rfl⟩

/-- Values are applied one after the other, each to the draft that the one before it leaves. -/
theorem applyEach_cons_eq_ok_iff {entry : String × RequestValue}
    {entries : List (String × RequestValue)} {outcomes : List (String × Outcome)} :
    s.applyEach schema d (entry :: entries) = .ok (outcomes, d') ↔ ∃ o d₁ os,
      s.filterProperty schema d entry.1 (some entry.2) = .ok (o, d₁) ∧
        s.applyEach schema d₁ entries = .ok (os, d') ∧ outcomes = (entry.1, o) :: os := by
  rw [applyEach]
  cases s.filterProperty schema d entry.1 (some entry.2) with
  | error e => simp
  | ok result =>
    obtain ⟨o, d₁⟩ := result
    cases hrest : s.applyEach schema d₁ entries with
    | error e => simp [hrest, Except.map]
    | ok rest =>
      obtain ⟨os, d₂⟩ := rest
      simp only [hrest, Except.map, Except.ok.injEq, Prod.mk.injEq]
      constructor
      · rintro ⟨rfl, rfl⟩
        exact ⟨o, d₁, os, ⟨rfl, rfl⟩, hrest, rfl⟩
      · rintro ⟨_, _, _, ⟨rfl, rfl⟩, hos, rfl⟩
        obtain ⟨rfl, rfl⟩ := Prod.mk.inj (Except.ok.inj (hrest.symm.trans hos))
        exact ⟨rfl, rfl⟩

/-! ### Runs consist of steps -/

theorem reflTransGen_compile (h : s.compile schema d property value = .ok (o, d')) :
    ReflTransGen (Draft.Step s) d d' := by
  rcases compile_cases h with ⟨-, rfl⟩ | ⟨seed, plan, hjudge, -, rfl⟩
  · exact .refl
  · obtain ⟨-, v, p, -, hp, -, hplan, rfl⟩ := judge_eq_accepted_iff.1 hjudge
    exact .single (.takeUp hp hplan)

theorem reflTransGen_filterProperty
    (h : s.filterProperty schema d property value = .ok (o, d')) :
    ReflTransGen (Draft.Step s) d d' := by
  obtain ⟨d₁, hcompile, rfl⟩ := filterProperty_eq_ok_iff.1 h
  exact (reflTransGen_compile hcompile).tail (.tell property o)

theorem reflTransGen_applyEach {entries : List (String × RequestValue)}
    {outcomes : List (String × Outcome)}
    (h : s.applyEach schema d entries = .ok (outcomes, d')) :
    ReflTransGen (Draft.Step s) d d' := by
  induction entries generalizing d outcomes with
  | nil =>
    obtain ⟨-, rfl⟩ : [] = outcomes ∧ d = d' := by simpa [applyEach] using h
    exact .refl
  | cons entry entries ih =>
    obtain ⟨o, d₁, os, hfilter, hrest, rfl⟩ := applyEach_cons_eq_ok_iff.1 h
    exact (reflTransGen_filterProperty hfilter).trans (ih hrest)

theorem reflTransGen_call (c : Call) : ReflTransGen (Draft.Step s) d (s.call schema d c) := by
  cases c with
  | compile property value =>
    rw [call]
    cases h : s.compile schema d property value with
    | error e => exact .refl
    | ok result => exact reflTransGen_compile h
  | filterProperty property value =>
    rw [call]
    cases h : s.filterProperty schema d property value with
    | error e => exact .refl
    | ok result => exact reflTransGen_filterProperty h
  | apply request =>
    rw [call]
    cases h : s.apply schema d request with
    | error e => exact .refl
    | ok result => exact reflTransGen_applyEach h

/-- Every run consists of steps. -/
theorem reflTransGen_run (calls : List Call) :
    ReflTransGen (Draft.Step s) d (s.run schema d calls) := by
  induction calls generalizing d with
  | nil => exact .refl
  | cons c calls ih =>
    -- the other calls start from the draft that the first one leaves
    exact (reflTransGen_call c).trans ih

theorem tableAlias_run (calls : List Call) :
    (s.run schema d calls).query.tableAlias = d.query.tableAlias :=
  (Draft.frame_of_reflTransGen (reflTransGen_run calls)).2.1

/-! ### Calls succeed where the engine can read JSON, and nowhere else -/

theorem judge_of_not_isJsonCapable {backend : Backend} {tableAlias : String}
    (h : ¬ backend.isJsonCapable) (value : Option RequestValue) :
    s.judge schema backend tableAlias property value = .error (.invalidPlatform backend) := by
  unfold judge
  rw [if_pos (by rw [Bool.eq_false_iff.2 h]; rfl)]

theorem filterProperty_of_not_isJsonCapable (h : ¬ d.query.backend.isJsonCapable) :
    s.filterProperty schema d property value = .error (.invalidPlatform d.query.backend) := by
  rw [filterProperty, compile_eq_judge, judge_of_not_isJsonCapable h]
  rfl

theorem exists_judge_eq_ok {backend : Backend} {tableAlias : String} (h : backend.isJsonCapable) :
    ∃ v, s.judge schema backend tableAlias property value = .ok v := by
  unfold judge
  rw [if_neg (by simp [h])]
  split
  · exact ⟨_, rfl⟩
  · split
    · exact ⟨_, rfl⟩
    · split
      · exact ⟨_, rfl⟩
      · split
        · exact ⟨_, rfl⟩
        · split
          · exact ⟨_, rfl⟩
          · exact ⟨_, rfl⟩

theorem exists_compile_eq_ok (h : d.query.backend.isJsonCapable) :
    ∃ o d', s.compile schema d property value = .ok (o, d') := by
  obtain ⟨v, hv⟩ : ∃ v, s.judge schema d.query.backend d.query.tableAlias property value = .ok v :=
    exists_judge_eq_ok h
  rw [compile_eq_judge, hv]
  cases v with
  | skipped reason => exact ⟨_, _, rfl⟩
  | ignored reason => exact ⟨_, _, rfl⟩
  | accepted seed plan => exact ⟨_, _, rfl⟩

theorem exists_filterProperty_eq_ok (h : d.query.backend.isJsonCapable) :
    ∃ o d', s.filterProperty schema d property value = .ok (o, d') := by
  obtain ⟨o, d₁, hcompile⟩ : ∃ o d₁, s.compile schema d property value = .ok (o, d₁) :=
    exists_compile_eq_ok h
  exact ⟨o, d₁.tell property o, filterProperty_eq_ok_iff.2 ⟨d₁, hcompile, rfl⟩⟩

/-- Applying a request succeeds where the engine can read JSON. -/
theorem exists_applyEach_eq_ok {entries : List (String × RequestValue)}
    (h : d.query.backend.isJsonCapable) :
    ∃ outcomes d', s.applyEach schema d entries = .ok (outcomes, d') := by
  induction entries generalizing d with
  | nil => exact ⟨_, _, rfl⟩
  | cons entry entries ih =>
    obtain ⟨o, d₁, hfilter⟩ : ∃ o d₁, s.filterProperty schema d entry.1 (some entry.2) =
        .ok (o, d₁) := exists_filterProperty_eq_ok h
    -- the first filter leaves the engine as it is, so the others succeed too
    have hbackend := (Draft.frame_of_reflTransGen (reflTransGen_filterProperty hfilter)).2.2
    obtain ⟨outcomes, d₂, hrest⟩ := ih (hbackend ▸ h)
    exact ⟨_, d₂, applyEach_cons_eq_ok_iff.2 ⟨o, _, outcomes, hfilter, hrest, rfl⟩⟩

/-- Applying a request to a new query on the table of a schema succeeds. -/
theorem exists_applyEach_new_eq_ok (s : FilterSet) (schema : Schema)
    (entries : List (String × RequestValue)) : ∃ outcomes d',
    s.applyEach schema (.new schema.table schema.tableAlias .postgres) entries =
      .ok (outcomes, d') :=
  exists_applyEach_eq_ok rfl

end FilterSet

end PropertyFilter
