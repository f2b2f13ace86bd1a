import PropertyFilter.Proofs.Drafting.Effects
import PropertyFilter.Resource

/-!
# Reports and queries

A report describes the query that it comes with. There is an outcome for every property of the
request, and in the order of the properties the query has the conditions and parameters of the
applied filters, while the notices are those of the refused ones.

## Main definitions

* `Report.applied` — the predicates of the applied filters
* `Resource.Accounts` — a report that accounts for a request and for the query made of it

## Main results

* `Resource.accounts_compile` — every report does
-/

namespace PropertyFilter

/-! ### What a report says -/

/-- The predicates of the applied filters, in the order of the properties. -/
def Report.applied (report : Report) : List Predicate :=
  report.outcomes.values.filterMap Outcome.predicate?

/-- What a client is told about the refused filters, in the order of the properties. -/
def Report.refusals (report : Report) : List Notice :=
  report.outcomes.toList.filterMap fun (property, o) =>
    match o with
    | .ignored reason =>
      some ⟨reason.category, reason.message property, reason.context property⟩
    | _ => none

/-- The text of a query on the rows of a resource that asks for all of them. -/
def Resource.allRows (r : Resource) : String :=
  "SELECT * FROM " ++ r.schema.table ++ " " ++ r.schema.tableAlias

/-- A report that accounts for a request and for the query made of it. -/
structure Resource.Accounts (r : Resource) (request : Request) (draft : Draft) (report : Report) :
    Prop where
  keys : report.outcomes.keys = request.keys
  ordered : report.outcomes.keys.Pairwise Text.BytesBelow
  predicates : draft.query.predicates = report.applied.map (·.sql)
  params : draft.query.params = report.applied.flatMap (·.params)
  reported : report.params = draft.query.params
  notices : report.notices = report.refusals
  sql : report.sql = draft.query.toSql "*"
  filtered : (∃ clause, report.sql = r.allRows ++ " WHERE " ++ clause) ↔
    ∃ predicate, .applied predicate ∈ report.outcomes.values
  unfiltered : (∀ predicate, .applied predicate ∉ report.outcomes.values) →
    report.sql = r.allRows

/-! ### Reports account for queries -/

theorem Outcome.predicates_eq_nil_iff {outcomes : List Outcome} :
    outcomes.filterMap Outcome.predicate? = [] ↔ ∀ p, .applied p ∉ outcomes := by
  rw [List.filterMap_eq_nil_iff]
  constructor
  · intro h p hp
    simpa [predicate?] using h _ hp
  · intro h o ho
    cases o with
    | applied p => exact absurd ho (h p)
    | skipped reason => rfl
    | ignored reason => rfl

section

variable {q : Query} {select head : String}
  (hhead : "SELECT " ++ select ++ " FROM " ++ q.table ++ " " ++ q.tableAlias = head)

include hhead

theorem Query.toSql_of_predicates_eq_nil (h : q.predicates = []) : q.toSql select = head := by
  simpa [toSql, whereClause, h] using hhead

/-- A query has a clause behind its head exactly if there are conditions. -/
theorem Query.exists_clause_iff :
    (∃ clause, q.toSql select = head ++ " WHERE " ++ clause) ↔ q.predicates ≠ [] := by
  constructor
  · rintro ⟨clause, hsql⟩ hnil
    -- the head alone is shorter than with a clause behind it
    rw [toSql_of_predicates_eq_nil hhead hnil] at hsql
    simpa using congrArg (·.toList.length) hsql
  · intro hne
    unfold toSql whereClause
    rw [hhead, if_neg (by simpa using hne)]
    exact ⟨_, rfl⟩

end

section

variable {s : FilterSet} {schema : Schema} {d d' : Draft} {request : Request}
  {outcomes : List (String × Outcome)}

/-- The outcomes come in the order of the request, so the map of them lists all of them. -/
theorem FilterSet.toList_ofList_of_applyEach
    (h : s.applyEach schema d request.toList = .ok (outcomes, d')) :
    (SortedMap.ofList outcomes).toList = outcomes := by
  refine SortedMap.toList_ofList ?_
  rw [← List.pairwise_map, (gains_applyEach h).1]
  exact request.keys_sorted

/-- There is an outcome for each property of the request. -/
theorem FilterSet.keys_ofList_of_applyEach
    (h : s.applyEach schema d request.toList = .ok (outcomes, d')) :
    (SortedMap.ofList outcomes).keys = request.keys := by
  rw [SortedMap.keys, toList_ofList_of_applyEach h, (gains_applyEach h).1, SortedMap.keys]

end

theorem Resource.compile_of_applyEach {r : Resource} {pairs : List (String × String)}
    {outcomes : List (String × Outcome)} {draft : Draft}
    (h : r.filters.applyEach r.schema (Draft.new r.schema.table r.schema.tableAlias .postgres)
      (Request.ofPairs pairs).toList = .ok (outcomes, draft)) :
    r.compile pairs = .ok (draft, ⟨r.name, draft.query.toSql "*", draft.query.params,
      .ofList outcomes, draft.notices, r.filters.missing (Request.ofPairs pairs)⟩) := by
  rw [compile, FilterSet.apply, h]
  rfl

/-- Compiling a request succeeds, with a report that accounts for the query. -/
theorem Resource.accounts_compile (r : Resource) (pairs : List (String × String)) :
    ∃ draft report, r.compile pairs = .ok (draft, report) ∧
      r.Accounts (Request.ofPairs pairs) draft report := by
  obtain ⟨outcomes, draft, happly⟩ :=
    r.filters.exists_applyEach_new_eq_ok r.schema (Request.ofPairs pairs).toList
  have hgains := (FilterSet.gains_applyEach happly).2
  refine ⟨draft, _, compile_of_applyEach happly, ?_⟩
  have hlist := FilterSet.toList_ofList_of_applyEach happly
  have hvalues : (SortedMap.ofList outcomes).values = outcomes.map (·.2) := by
    rw [SortedMap.values, hlist]
  have hpredicates : draft.query.predicates =
      ((outcomes.map (·.2)).filterMap Outcome.predicate?).map (·.sql) := by
    rw [hgains.predicates, List.filterMap_map]
    rfl
  have hhead : "SELECT " ++ "*" ++ " FROM " ++ draft.query.table ++ " " ++
      draft.query.tableAlias = r.allRows := by
    rw [hgains.table, hgains.tableAlias]
    rfl
  constructor
  case keys => exact FilterSet.keys_ofList_of_applyEach happly
  case ordered => exact SortedMap.keys_bytesBelow _
  case predicates => rw [hpredicates, Report.applied, hvalues]
  case params =>
    rw [hgains.params, Report.applied, hvalues, List.filterMap_map]
    rfl
  case reported => rfl
  case notices =>
    rw [Report.refusals, hlist, hgains.notices]
    refine List.filterMap_congr fun e _ => ?_
    obtain ⟨property, o⟩ := e
    cases o <;> rfl
  case sql => rfl
  case filtered =>
    refine (Query.exists_clause_iff hhead).trans ?_
    rw [hpredicates, Ne, List.map_eq_nil_iff, Outcome.predicates_eq_nil_iff, not_forall_not,
      hvalues]
  case unfiltered =>
    rw [hvalues, ← Outcome.predicates_eq_nil_iff]
    intro hnone
    exact Query.toSql_of_predicates_eq_nil hhead (by rw [hpredicates, hnone, List.map_nil])

end PropertyFilter
