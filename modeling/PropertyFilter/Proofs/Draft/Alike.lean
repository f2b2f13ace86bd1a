import Mathlib.Data.List.Forall2
import PropertyFilter.Proofs.Draft

/-!
# Values stay out of the text

Two requests whose filters are applied with equally many values build the same text. Only the
values that are bound can differ, and why filters were not applied.

## Main definitions

* `Draft.Alike`, `Outcome.Alike` — drafts and outcomes that differ in nothing else
* `FilterSet.valueCount?` — for how many values a filter is accepted

## Main results

* `Draft.Alike.takeUp` — plans for equally many values keep drafts alike
* `FilterSet.alike_compile` — so does compiling a filter for equally many values
* `FilterSet.alikeResult_apply` — and so does applying a request
-/

namespace PropertyFilter

/-! ### What may differ -/

/-- Predicates that differ in nothing but the values of their parameters. -/
structure Predicate.Alike (p q : Predicate) : Prop where
  sql : p.sql = q.sql
  names : p.params.map (·.name) = q.params.map (·.name)

/-- Outcomes that differ in nothing but values, or in why a filter was not applied. -/
inductive Outcome.Alike : Outcome → Outcome → Prop where
  | applied {p q : Predicate} (h : p.Alike q) : Alike (.applied p) (.applied q)
  | notApplied {o o' : Outcome} (h : o.predicate? = none) (h' : o'.predicate? = none) : Alike o o'

/-- Outcomes of the same properties that are alike. -/
def AlikeOutcomes : List (String × Outcome) → List (String × Outcome) → Prop :=
  List.Forall₂ fun x y => x.1 = y.1 ∧ x.2.Alike y.2

/-- Drafts that differ in nothing but the values of their parameters and what the client has been
told. -/
structure Draft.Alike (d e : Draft) : Prop where
  table : d.query.table = e.query.table
  tableAlias : d.query.tableAlias = e.query.tableAlias
  backend : d.query.backend = e.query.backend
  predicates : d.query.predicates = e.query.predicates
  params : d.query.params.map (·.name) = e.query.params.map (·.name)
  names : d.names = e.names

namespace FilterSet

/-- The number of values of an accepted filter. -/
def valueCount? (s : FilterSet) (schema : Schema) (backend : Backend) (tableAlias property : String)
    (value : Option RequestValue) : Option Nat :=
  match s.judge schema backend tableAlias property value with
  | .ok (.accepted _ plan) => some plan.values.length
  | _ => none

end FilterSet

/-! ### Taking up plans for equally many values -/

namespace Draft.Alike

variable {d e : Draft} {seed : String} {plan plan' : Plan}

theorem of_eq (hquery : d.query = e.query) (hnames : d.names = e.names) : d.Alike e := by
  constructor <;> simp [hquery, hnames]

theorem toSql_eq (h : d.Alike e) (select : String) :
    d.query.toSql select = e.query.toSql select := by
  simp only [Query.toSql, Query.whereClause, h.table, h.tableAlias, h.predicates, h.params]

theorem tell (h : d.Alike e) (property : String) (o o' : Outcome) :
    (d.tell property o).Alike (e.tell property o') :=
  ⟨h.table, h.tableAlias, h.backend, h.predicates, h.params, h.names⟩

theorem freshNames_eq (h : d.Alike e) (hcount : plan.values.length = plan'.values.length) :
    d.freshNames seed plan = e.freshNames seed plan' := by
  rw [freshNames, freshNames, h.names, hcount]

/-- Plans with one template and equally many values make the same text. -/
theorem predicate_takeUp (h : d.Alike e) (htemplate : plan.template = plan'.template)
    (hcount : plan.values.length = plan'.values.length) :
    (d.takeUp seed plan).1.Alike (e.takeUp seed plan').1 where
  sql := by
    rw [sql_takeUp, sql_takeUp, Plan.condition, Plan.condition, htemplate,
      h.freshNames_eq hcount]
  names := by
    rw [map_name_params_takeUp, map_name_params_takeUp, h.freshNames_eq hcount]

/-- Taking up such plans keeps drafts alike. -/
theorem takeUp (h : d.Alike e) (htemplate : plan.template = plan'.template)
    (hcount : plan.values.length = plan'.values.length) :
    (d.takeUp seed plan).2.Alike (e.takeUp seed plan').2 := by
  have hpredicate : (d.takeUp seed plan).1.Alike (e.takeUp seed plan').1 :=
    h.predicate_takeUp htemplate hcount
  constructor
  · rw [table_takeUp, table_takeUp, h.table]
  · rw [tableAlias_takeUp, tableAlias_takeUp, h.tableAlias]
  · rw [backend_takeUp, backend_takeUp, h.backend]
  · rw [predicates_takeUp, predicates_takeUp, h.predicates, hpredicate.sql]
  · rw [params_takeUp, params_takeUp, List.map_append, List.map_append, h.params,
      hpredicate.names]
  · have hsource : (e.takeUp seed plan').2.names =
        ⟨e.names.count + plan'.values.length⟩ := rfl
    rw [hsource, ← h.names, ← hcount]
    rfl

end Draft.Alike

/-! ### Calls on alike drafts -/

/-- Results of calls that failed for one reason, or left alike drafts behind. -/
inductive Draft.AlikeResult {α : Type} (R : α → α → Prop) :
    Except FilterError (α × Draft) → Except FilterError (α × Draft) → Prop where
  | error (err : FilterError) : AlikeResult R (.error err) (.error err)
  | ok {a b : α} {d e : Draft} (h : R a b) (hdrafts : d.Alike e) :
      AlikeResult R (.ok (a, d)) (.ok (b, e))

/-- What is told about alike outcomes does not show in the query. -/
theorem Draft.AlikeResult.tell {x y : Except FilterError (Outcome × Draft)}
    (h : AlikeResult Outcome.Alike x y) (property : String) :
    AlikeResult Outcome.Alike (x.map fun (o, d) => (o, d.tell property o))
      (y.map fun (o, d) => (o, d.tell property o)) := by
  cases h with
  | error err => exact .error err
  | ok houtcome hdrafts => exact .ok houtcome (hdrafts.tell property _ _)

/-- Alike outcomes go in front of alike lists. -/
theorem Draft.AlikeResult.cons {x y : Except FilterError (List (String × Outcome) × Draft)}
    {o o' : Outcome} (h : AlikeResult AlikeOutcomes x y) (name : String) (ho : o.Alike o') :
    AlikeResult AlikeOutcomes (x.map fun (os, d) => ((name, o) :: os, d))
      (y.map fun (os, d) => ((name, o') :: os, d)) := by
  cases h with
  | error err => exact .error err
  | ok houtcomes hdrafts => exact .ok (houtcomes.cons ⟨rfl, ho⟩) hdrafts

namespace FilterSet

open Draft (AlikeResult)

variable {s : FilterSet} {schema : Schema} {d e : Draft} {property : String}

/-- Filters of one property with equally many values have one template. -/
theorem template_eq_of_accepted {backend : Backend} {tableAlias seed seed' : String}
    {value value' : Option RequestValue} {plan plan' : Plan}
    (h : s.judge schema backend tableAlias property value = .ok (.accepted seed plan))
    (h' : s.judge schema backend tableAlias property value' = .ok (.accepted seed' plan'))
    (hcount : plan.values.length = plan'.values.length) :
    seed = seed' ∧ plan.template = plan'.template := by
  obtain ⟨-, v, p, -, hp, -, hplan, rfl⟩ := judge_eq_accepted_iff.1 h
  obtain ⟨-, v', p', -, hp', -, hplan', rfl⟩ := judge_eq_accepted_iff.1 h'
  -- both plans are of the property that is configured under the name
  obtain rfl : p = p' := Option.some.inj (hp.symm.trans hp')
  obtain ⟨strategy, hstrategy, htemplate⟩ := Property.template_of_plan hplan
  obtain ⟨strategy', hstrategy', htemplate'⟩ := Property.template_of_plan hplan'
  obtain rfl : strategy = strategy' := Option.some.inj (hstrategy.symm.trans hstrategy')
  exact ⟨rfl, by rw [htemplate, htemplate', hcount]⟩

/-- Compiling a filter for equally many values keeps drafts alike. -/
theorem alike_compile (h : d.Alike e) {value value' : Option RequestValue}
    (hcount : s.valueCount? schema d.query.backend d.query.tableAlias property value =
      s.valueCount? schema d.query.backend d.query.tableAlias property value') :
    AlikeResult Outcome.Alike (s.compile schema d property value)
      (s.compile schema e property value') := by
  rw [compile_eq_judge, compile_eq_judge, ← h.backend, ← h.tableAlias]
  by_cases hbackend : d.query.backend.isJsonCapable
  · obtain ⟨verdict, hverdict⟩ :
        ∃ v, s.judge schema d.query.backend d.query.tableAlias property value = .ok v :=
      exists_judge_eq_ok hbackend
    obtain ⟨verdict', hverdict'⟩ :
        ∃ v, s.judge schema d.query.backend d.query.tableAlias property value' = .ok v :=
      exists_judge_eq_ok hbackend
    -- the counts tell whether filters are accepted, so either both are or none is
    simp only [valueCount?, hverdict, hverdict'] at hcount
    rw [hverdict, hverdict']
    cases verdict with
    | accepted seed plan =>
      cases verdict' with
      | accepted seed' plan' =>
        have hlength : plan.values.length = plan'.values.length := by simpa using hcount
        obtain ⟨rfl, htemplate⟩ := template_eq_of_accepted hverdict hverdict' hlength
        exact .ok (.applied (h.predicate_takeUp htemplate hlength)) (h.takeUp htemplate hlength)
      | _ => simp at hcount
    | skipped reason =>
      cases verdict' with
      | accepted seed' plan' => simp at hcount
      | _ => exact .ok (.notApplied rfl rfl) h
    | ignored reason =>
      cases verdict' with
      | accepted seed' plan' => simp at hcount
      | _ => exact .ok (.notApplied rfl rfl) h
  · rw [judge_of_not_isJsonCapable hbackend, judge_of_not_isJsonCapable hbackend]
    exact .error _

theorem alike_filterProperty (h : d.Alike e) {value value' : Option RequestValue}
    (hcount : s.valueCount? schema d.query.backend d.query.tableAlias property value =
      s.valueCount? schema d.query.backend d.query.tableAlias property value') :
    AlikeResult Outcome.Alike (s.filterProperty schema d property value)
      (s.filterProperty schema e property value') :=
  (alike_compile h hcount).tell property

/-- Applying filters for equally many values, property by property, keeps drafts alike. -/
theorem alike_applyEach {entries entries' : List (String × RequestValue)} (h : d.Alike e)
    (hnames : entries.map (·.1) = entries'.map (·.1))
    (hcount : ∀ x ∈ entries, ∀ y ∈ entries', x.1 = y.1 →
      s.valueCount? schema d.query.backend d.query.tableAlias x.1 (some x.2) =
        s.valueCount? schema d.query.backend d.query.tableAlias x.1 (some y.2)) :
    AlikeResult AlikeOutcomes (s.applyEach schema d entries) (s.applyEach schema e entries') := by
  induction entries generalizing entries' d e with
  | nil =>
    obtain rfl : entries' = [] := by simpa using hnames.symm
    exact .ok List.Forall₂.nil h
  | cons x xs ih =>
    cases entries' with
    | nil => simp at hnames
    | cons y ys =>
      obtain ⟨name, v⟩ := x
      obtain ⟨name', v'⟩ := y
      obtain ⟨hname, hrest⟩ := List.cons.inj hnames
      obtain rfl : name = name' := hname
      have hfilter : AlikeResult Outcome.Alike (s.filterProperty schema d name (some v))
          (s.filterProperty schema e name (some v')) :=
        alike_filterProperty h (hcount _ List.mem_cons_self _ List.mem_cons_self rfl)
      rw [applyEach, applyEach]
      cases hd : s.filterProperty schema d name (some v) with
      | error err =>
        rw [hd] at hfilter
        generalize s.filterProperty schema e name (some v') = result at hfilter
        cases hfilter
        exact .error err
      | ok result =>
        obtain ⟨o, d₁⟩ := result
        -- the engine and the alias stay, so that the values still count the same
        obtain ⟨-, halias, hbackend⟩ :=
          Draft.frame_of_reflTransGen (reflTransGen_filterProperty hd)
        rw [hd] at hfilter
        generalize s.filterProperty schema e name (some v') = result at hfilter
        cases hfilter with
        | ok houtcome hdrafts =>
          refine (ih hdrafts hrest fun x hx y hy hxy => ?_).cons name houtcome
          rw [halias, hbackend]
          exact hcount x (List.mem_cons_of_mem _ hx) y (List.mem_cons_of_mem _ hy) hxy

/-- Applying requests for equally many values of the same properties keeps drafts alike. -/
theorem alikeResult_apply {r r' : Request} (h : d.Alike e) (hkeys : r.keys = r'.keys)
    (hcount : ∀ property v v', r.get? property = some v → r'.get? property = some v' →
      s.valueCount? schema d.query.backend d.query.tableAlias property (some v) =
        s.valueCount? schema d.query.backend d.query.tableAlias property (some v')) :
    AlikeResult AlikeOutcomes (s.apply schema d r) (s.apply schema e r') := by
  refine alike_applyEach h hkeys fun x hx y hy hxy => ?_
  have hv := (r.mem_toList_iff).1 hx
  have hv' := (r'.mem_toList_iff).1 hy
  exact hcount x.1 x.2 y.2 hv (hxy ▸ hv')

end FilterSet

end PropertyFilter
