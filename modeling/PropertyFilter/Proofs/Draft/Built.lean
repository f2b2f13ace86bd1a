import PropertyFilter.Proofs.Condition.Tokens
import PropertyFilter.Proofs.Draft
import PropertyFilter.Proofs.Query.Names

/-!
# Drafts and the conditions in them

A draft that was built from nothing holds the texts of safe conditions, and a parameter for each
of their slots. The names of the parameters are numbered, so that they differ.

## Main definitions

* `Draft.Numbered` — a draft whose parameters have different names, with numbers that are used up
* `Draft.Built` — a draft that holds given conditions

## Main results

* `Draft.Numbered.reflTransGen` — steps never use a name twice
* `Draft.Built.takeUp` — taking up a plan of a safe property adds its condition
* `FilterSet.exists_built_run` — what any run of a safe filter set builds
-/

namespace PropertyFilter

open Sql Relation

/-! ### Conditions of plans -/

namespace Property

variable {p : Property} {tableAlias : String} {value : RequestValue} {plan : Plan}
  {names : List String}

/-- The condition of a plan has a slot for every name and no others. -/
theorem mem_slots_of_plan (h : p.plan tableAlias value = .ok plan)
    (hnames : names.length = plan.values.length) (name : String) :
    name ∈ (plan.condition names).slots ↔ name ∈ names := by
  obtain ⟨strategy, -, htemplate⟩ := template_of_plan h
  rw [Plan.condition, htemplate, Condition.slots_map, List.mem_map]
  simp only [Plan.mem_slots_templateFor, ← hnames]
  constructor
  · rintro ⟨i, hi, rfl⟩
    simp [hi]
  · intro hname
    obtain ⟨i, hi, rfl⟩ := List.getElem_of_mem hname
    exact ⟨i, hi, by simp [hi]⟩

/-- The comparisons of a plan read where the property lies. -/
theorem reads_of_plan (h : p.plan tableAlias value = .ok plan) :
    ∀ c ∈ (plan.condition names).comparisons, Plan.Reads (p.target tableAlias) c := by
  obtain ⟨strategy, -, htemplate⟩ := template_of_plan h
  rw [Plan.condition, htemplate, Condition.comparisons_map, List.forall_mem_map]
  exact fun c hc => (Plan.reads_of_mem_templateFor hc).map _

theorem isSafe_of_plan (hpath : p.path.IsSafe) (h : p.plan tableAlias value = .ok plan) :
    (plan.condition names).IsSafe tableAlias :=
  fun comparison hmem => ⟨p.path, hpath, reads_of_plan h comparison hmem⟩

end Property

/-! ### Names that are not used twice -/

namespace Draft

/-- A draft whose parameters have different names, each with a number below the count. -/
structure Numbered (d : Draft) : Prop where
  below : ∀ name ∈ d.query.params.map (·.name), ∃ seed number,
    number < d.names.count ∧ name = NameSource.nameAt seed number
  nodup : (d.query.params.map (·.name)).Nodup

namespace Numbered

variable {s : FilterSet} {d d' : Draft} {plan : Plan}

theorem new (table tableAlias : String) (backend : Backend) :
    (Draft.new table tableAlias backend).Numbered where
  below := by simp [Draft.new, Query.new]
  nodup := List.nodup_nil

/-- New names come after all names so far. -/
theorem disjoint_freshNames (hd : d.Numbered) (seed : String) :
    (d.query.params.map (·.name)).Disjoint (d.freshNames seed plan) := by
  intro name hold hnew
  obtain ⟨seed', number, hlt, rfl⟩ := hd.below name hold
  obtain ⟨i, -, heq⟩ := NameSource.mem_take.1 hnew
  -- old names have numbers below the count, and new ones start there
  have hnumber : number = d.names.count + i := NameSource.eq_of_nameAt_eq heq
  omega

theorem takeUp (hd : d.Numbered) (seed : String) (plan : Plan) :
    (d.takeUp seed plan).2.Numbered where
  below := by
    rw [params_takeUp, List.map_append, map_name_params_takeUp, count_takeUp,
      List.forall_mem_append]
    constructor
    · -- names so far keep their numbers, and the count has grown
      intro name hname
      obtain ⟨seed', number, hlt, heq⟩ := hd.below name hname
      exact ⟨seed', number, by omega, heq⟩
    · intro name hname
      obtain ⟨i, hi, heq⟩ := NameSource.mem_take.1 hname
      exact ⟨seed, d.names.count + i, by omega, heq⟩
  nodup := by
    rw [params_takeUp, List.map_append, map_name_params_takeUp]
    exact hd.nodup.append (NameSource.nodup_take _ _ _) (hd.disjoint_freshNames seed)

theorem step (hd : d.Numbered) (h : Step s d d') : d'.Numbered := by
  cases h with
  | takeUp hp hplan => exact hd.takeUp _ _
  | tell property o => exact ⟨hd.below, hd.nodup⟩

/-- Steps never use a name twice. -/
theorem reflTransGen (hd : d.Numbered) (h : ReflTransGen (Step s) d d') : d'.Numbered := by
  induction h with
  | refl => exact hd
  | tail _ hstep ih => exact ih.step hstep

end Numbered

end Draft

/-! ### What a draft holds -/

namespace Draft

/-- A draft that holds conditions, and a parameter for every slot of them. -/
structure Built (d : Draft) (conditions : List (Condition String)) : Prop where
  predicates : d.query.predicates = conditions.map (·.sql Sql.slot)
  isSafe : ∀ c ∈ conditions, c.IsSafe d.query.tableAlias
  mem_names : ∀ name, name ∈ d.query.params.map (·.name) ↔ ∃ c ∈ conditions, name ∈ c.slots
  numbered : ∀ name ∈ d.query.params.map (·.name), ∃ seed number,
    isIdentifier seed ∧ number < d.names.count ∧ name = NameSource.nameAt seed number
  nodup : (d.query.params.map (·.name)).Nodup

variable {s : FilterSet} {d d' : Draft} {conditions : List (Condition String)} {p : Property}
  {value : RequestValue} {plan : Plan}

theorem built_new (table tableAlias : String) (backend : Backend) :
    (Draft.new table tableAlias backend).Built [] where
  predicates := rfl
  isSafe := by simp
  mem_names := by simp [Draft.new, Query.new]
  numbered := by simp [Draft.new, Query.new]
  nodup := List.nodup_nil

/-- The names of the parameters can be read back. -/
theorem Built.isIdentifier_name (hd : d.Built conditions) {name : String}
    (h : name ∈ d.query.params.map (·.name)) : isIdentifier name := by
  obtain ⟨seed, number, hseed, -, rfl⟩ := hd.numbered name h
  exact NameSource.isIdentifier_nameAt_of_isIdentifier hseed

theorem Built.mem_names_of_mem_slots (hd : d.Built conditions) {c : Condition String}
    {name : String} (hc : c ∈ conditions) (h : name ∈ c.slots) :
    name ∈ d.query.params.map (·.name) :=
  (hd.mem_names name).2 ⟨c, hc, h⟩

theorem Built.whereClause_eq_none_iff (hd : d.Built conditions) :
    d.query.whereClause = none ↔ conditions = [] := by
  simp [Query.whereClause, hd.predicates]

theorem Built.isNumbered (hd : d.Built conditions) : d.Numbered where
  below := fun name hname =>
    let ⟨seed, number, _, hlt, heq⟩ := hd.numbered name hname
    ⟨seed, number, hlt, heq⟩
  nodup := hd.nodup

/-- Taking up a plan of a safe property adds its condition. -/
theorem Built.takeUp (hd : d.Built conditions) (hpath : p.path.IsSafe)
    (hplan : p.plan d.query.tableAlias value = .ok plan) :
    (d.takeUp p.path.column plan).2.Built
      (conditions ++ [plan.condition (d.freshNames p.path.column plan)]) where
  predicates := by rw [predicates_takeUp, hd.predicates, sql_takeUp, List.map_append]; rfl
  isSafe := by
    rw [tableAlias_takeUp, List.forall_mem_append]
    exact ⟨hd.isSafe, by simpa using Property.isSafe_of_plan hpath hplan⟩
  mem_names := by
    intro name
    rw [params_takeUp, List.map_append, map_name_params_takeUp, List.mem_append, hd.mem_names,
      ← Property.mem_slots_of_plan hplan length_freshNames]
    simp [or_and_right, exists_or]
  numbered := by
    rw [params_takeUp, List.map_append, map_name_params_takeUp, count_takeUp,
      List.forall_mem_append]
    constructor
    · -- names so far keep their numbers, and the count has grown
      intro name hname
      obtain ⟨seed, number, hseed, hlt, heq⟩ := hd.numbered name hname
      exact ⟨seed, number, hseed, by omega, heq⟩
    · intro name hname
      obtain ⟨i, hi, heq⟩ := NameSource.mem_take.1 hname
      exact ⟨p.path.column, d.names.count + i, hpath.column, by omega, heq⟩
  nodup := (hd.isNumbered.takeUp _ _).nodup

/-- Telling the client leaves the query and the names alone. -/
theorem Built.tell (hd : d.Built conditions) (property : String) (o : Outcome) :
    (d.tell property o).Built conditions :=
  ⟨hd.predicates, hd.isSafe, hd.mem_names, hd.numbered, hd.nodup⟩

/-- A step of a safe filter set keeps the conditions, and may add one. -/
theorem Built.step (hs : s.IsSafe) (hd : d.Built conditions) (h : Step s d d') :
    ∃ conditions', d'.Built conditions' := by
  cases h with
  | takeUp hp hplan => exact ⟨_, hd.takeUp (hs _ _ hp) hplan⟩
  | tell property o => exact ⟨conditions, hd.tell property o⟩

/-- What the steps of a safe filter set build. -/
theorem Built.reflTransGen (hs : s.IsSafe) (hd : d.Built conditions)
    (h : ReflTransGen (Step s) d d') : ∃ conditions', d'.Built conditions' := by
  induction h with
  | refl => exact ⟨conditions, hd⟩
  | tail _ hstep ih =>
    obtain ⟨_, hbuilt⟩ := ih
    exact hbuilt.step hs hstep

end Draft

/-- What any run of a safe filter set builds. -/
theorem FilterSet.exists_built_run {s : FilterSet} (hs : s.IsSafe) (schema : Schema)
    (table tableAlias : String) (backend : Backend) (calls : List Call) :
    ∃ conditions, (s.run schema (Draft.new table tableAlias backend) calls).Built conditions :=
  (Draft.built_new table tableAlias backend).reflTransGen hs (reflTransGen_run calls)

end PropertyFilter
