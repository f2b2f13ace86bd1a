import PropertyFilter.Proofs.Drafting
import PropertyFilter.Proofs.Text.Bytes

/-!
# What filters do to a draft

A filter is registered completely or not at all, and a request is applied filter by filter or not
at all. Filters that are turned down leave no name, no condition and no parameter behind, at
whatever point that happens; the client is told why input was refused, and nothing else.

## Main definitions

* `Draft.Registers` — what the filter of a property does to a draft, given what it returns
* `Draft.Gains` — what the filters of a request add to a draft, given their outcomes
* `Drafting.filterEach` — calls for one filter after the other, whatever becomes of them
* `Drafting.AppliesInOrder` — what applying a request does to a draft

## Main results

* `Drafting.registers_filterProperty` — a filter is registered completely or not at all
* `FilterSet.gains_applyEach` — a request adds what its applied filters have
* `Drafting.applies_in_order` — a request is applied in the order of names, or not at all
-/

namespace PropertyFilter

/-! ### One filter -/

/-- What the filter of a property does to a draft, given what it returns. An applied filter is added
with all of its parameters. The client is told why input is refused. Anything else leaves the draft
as it was. -/
def Draft.Registers (d : Draft) (property : String) (result : Except FilterError Outcome)
    (d' : Draft) : Prop :=
  match result with
  | .ok (.applied p) =>
    d'.query = { d.query with
        predicates := d.query.predicates ++ [p.sql], params := d.query.params ++ p.params } ∧
      d'.names.count = d.names.count + p.params.length ∧ d'.notices = d.notices
  | .ok (.ignored reason) =>
    d'.query = d.query ∧ d'.names = d.names ∧
      d'.notices = d.notices ++
        [⟨reason.category, reason.message property, reason.context property⟩]
  | .ok (.skipped _) => d' = d
  | .error _ => d' = d

section

variable {s : FilterSet} {schema : Schema} {d d' : Draft} {property : String}
  {value : Option RequestValue} {o : Outcome}

theorem Draft.registers_tell (h : o.predicate? = none) :
    d.Registers property (.ok o) (d.tell property o) := by
  cases o with
  | applied p => simp [Outcome.predicate?] at h
  | skipped reason =>
    simp [Registers, tell, Outcome.notice?, Outcome.ignoredReason?]
  | ignored reason => exact ⟨rfl, rfl, rfl⟩

theorem Draft.registers_takeUp (seed : String) (plan : Plan) :
    d.Registers property (.ok (.applied (d.takeUp seed plan).1))
      ((d.takeUp seed plan).2.tell property (.applied (d.takeUp seed plan).1)) := by
  refine ⟨Query.register_eq, ?_, ?_⟩
  · rw [length_params_takeUp]
    rfl
  · exact List.append_nil _

/-- What a filter returns tells what it has done. -/
theorem FilterSet.registers_of_filterProperty
    (h : s.filterProperty schema d property value = .ok (o, d')) :
    d.Registers property (.ok o) d' := by
  obtain ⟨d₁, hcompile, rfl⟩ := filterProperty_eq_ok_iff.1 h
  rcases compile_cases hcompile with ⟨hnone, rfl⟩ | ⟨seed, plan, -, rfl, rfl⟩
  · exact Draft.registers_tell hnone
  · exact Draft.registers_takeUp seed plan

end

/-- A filter is registered completely or not at all, whatever the draft held before, and the
function for it gives the same outcome and the same draft. -/
theorem Drafting.registers_filterProperty (s : FilterSet) (schema : Schema) (d : Draft)
    (property : String) (value : Option RequestValue) : ∃ result d',
    (filterProperty s schema property value).perform d = (result, d') ∧
      d.Registers property result d' ∧
      s.filterProperty schema d property value = result.map (·, d') := by
  rw [perform_filterProperty]
  cases h : s.filterProperty schema d property value with
  | error e => exact ⟨.error e, d, rfl, rfl, rfl⟩
  | ok result =>
    obtain ⟨o, d'⟩ := result
    exact ⟨.ok o, d', rfl, FilterSet.registers_of_filterProperty h, rfl⟩

/-! ### All filters of a request -/

/-- What the filters of a request add to a draft, given their outcomes. -/
structure Draft.Gains (d : Draft) (outcomes : List (String × Outcome)) (d' : Draft) : Prop where
  table : d'.query.table = d.query.table
  tableAlias : d'.query.tableAlias = d.query.tableAlias
  predicates : d'.query.predicates =
    d.query.predicates ++ (outcomes.filterMap (·.2.predicate?)).map (·.sql)
  params : d'.query.params =
    d.query.params ++ (outcomes.filterMap (·.2.predicate?)).flatMap (·.params)
  notices : d'.notices = d.notices ++ outcomes.filterMap fun e => e.2.notice? e.1

variable {s : FilterSet} {schema : Schema} {d d₁ d' : Draft} {property : String} {o : Outcome}
  {outcomes : List (String × Outcome)} {entries : List (String × RequestValue)}

/-- Without filters nothing is added. -/
theorem Draft.Gains.refl (d : Draft) : d.Gains [] d := by
  constructor <;> simp

theorem Draft.Registers.gains (h : d.Registers property (.ok o) d') :
    d.Gains [(property, o)] d' := by
  cases o with
  | applied p =>
    obtain ⟨hquery, -, hnotices⟩ := h
    constructor <;> simp [hquery, hnotices, Outcome.predicate?, Outcome.notice?,
      Outcome.ignoredReason?]
  | ignored reason =>
    obtain ⟨hquery, -, hnotices⟩ := h
    constructor <;> simp [hquery, hnotices, Outcome.predicate?, Outcome.notice?,
      Outcome.ignoredReason?, IgnoredReason.notice]
  | skipped reason =>
    obtain rfl : d' = d := h
    constructor <;> simp [Outcome.predicate?, Outcome.notice?, Outcome.ignoredReason?]

theorem Draft.Gains.trans {os : List (String × Outcome)} (h : d.Gains outcomes d₁)
    (h' : d₁.Gains os d') : d.Gains (outcomes ++ os) d' where
  table := h'.table.trans h.table
  tableAlias := h'.tableAlias.trans h.tableAlias
  predicates := by simp [h'.predicates, h.predicates]
  params := by simp [h'.params, h.params]
  notices := by simp [h'.notices, h.notices]

/-- A request adds what its applied filters have, and tells why input was refused. There is an
outcome for every value, in the order of the values. -/
theorem FilterSet.gains_applyEach (h : s.applyEach schema d entries = .ok (outcomes, d')) :
    outcomes.map (·.1) = entries.map (·.1) ∧ d.Gains outcomes d' := by
  induction entries generalizing d outcomes with
  | nil =>
    obtain ⟨rfl, rfl⟩ : [] = outcomes ∧ d = d' := by simpa [applyEach] using h
    exact ⟨rfl, .refl d⟩
  | cons entry entries ih =>
    obtain ⟨o, d₁, os, hfilter, hrest, rfl⟩ := applyEach_cons_eq_ok_iff.1 h
    obtain ⟨hnames, hgains⟩ := ih hrest
    -- the first filter adds its part, and then the others do
    have hfirst : d.Gains [(entry.1, o)] d₁ := (registers_of_filterProperty hfilter).gains
    exact ⟨by simp [hnames], hfirst.trans hgains⟩

/-! ### Programs take steps -/

namespace Drafting

/-- A call for one filter takes steps, and adds what an applied filter has. -/
theorem steps_filterProperty {property : String} {value : Option RequestValue}
    {result : Except FilterError Outcome}
    (h : (filterProperty s schema property value).perform d = (result, d')) :
    Relation.ReflTransGen (Draft.Step s) d d' ∧
      d.Gains (result.toOption.map (property, ·)).toList d' := by
  rw [perform_filterProperty] at h
  cases hfilter : s.filterProperty schema d property value with
  | error e =>
    rw [hfilter] at h
    obtain ⟨rfl, rfl⟩ := Prod.mk.inj h
    exact ⟨.refl, .refl d⟩
  | ok after =>
    rw [hfilter] at h
    obtain ⟨rfl, rfl⟩ := Prod.mk.inj h
    exact ⟨FilterSet.reflTransGen_filterProperty hfilter,
      (FilterSet.registers_of_filterProperty hfilter).gains⟩

/-- A call for a request takes steps, and adds what the applied filters have. -/
theorem steps_apply {request : Request} {result : Except FilterError (List (String × Outcome))}
    (h : (apply s schema request).perform d = (result, d')) :
    Relation.ReflTransGen (Draft.Step s) d d' ∧ d.Gains (result.toOption.getD []) d' := by
  rw [perform_apply, FilterSet.apply] at h
  cases happly : s.applyEach schema d request.toList with
  | error e =>
    rw [happly] at h
    obtain ⟨rfl, rfl⟩ := Prod.mk.inj h
    exact ⟨.refl, .refl d⟩
  | ok after =>
    rw [happly] at h
    obtain ⟨rfl, rfl⟩ := Prod.mk.inj h
    exact ⟨FilterSet.reflTransGen_applyEach happly, (FilterSet.gains_applyEach happly).2⟩

end Drafting

/-! ### The order of filters -/

/-- A request that is split into one for smaller names and one for larger names. -/
structure Request.Splits (r r₁ r₂ : Request) : Prop where
  get?_eq : ∀ name, r.get? name = (r₁.get? name).or (r₂.get? name)
  below : ∀ name₁ ∈ r₁.keys, ∀ name₂ ∈ r₂.keys, Text.BytesBelow name₁ name₂

/-- The values of the larger names come behind those of the smaller ones. -/
theorem Request.Splits.toList_eq {r r₁ r₂ : Request} (h : r.Splits r₁ r₂) :
    r.toList = r₁.toList ++ r₂.toList := by
  have hsorted : (r₁.toList ++ r₂.toList).Pairwise fun a b => a.1 < b.1 := by
    refine List.pairwise_append.2 ⟨r₁.sorted, r₂.sorted, fun a ha b hb => ?_⟩
    exact Text.bytesBelow_iff.1
      (h.below _ (List.mem_map_of_mem ha) _ (List.mem_map_of_mem hb))
  have heq : r = ⟨r₁.toList ++ r₂.toList, hsorted⟩ := by
    refine SortedMap.ext_get? fun name => ?_
    rw [h.get?_eq]
    simp only [SortedMap.get?, List.find?_append, Option.map_or]
  rw [heq]

namespace Drafting

/-- Calls for one filter after the other, whatever becomes of them. -/
def filterEach (s : FilterSet) (schema : Schema) (d : Draft) :
    List (String × RequestValue) → List (String × Except FilterError Outcome) × Draft
  | [] => ([], d)
  | (property, value) :: entries =>
    let (result, d₁) := (filterProperty s schema property (some value)).perform d
    let (results, d₂) := filterEach s schema d₁ entries
    ((property, result) :: results, d₂)

/-- What applying a request does to a draft, given what it returns and leaves. It fails if there is
something to apply and the engine cannot read JSON, and then the draft is as it was. Otherwise it
does what one call for each property does, in the order of the bytes of their names. Applying a
request in two parts is applying it. -/
structure AppliesInOrder (s : FilterSet) (schema : Schema) (d : Draft) (request : Request)
    (result : Except FilterError (List (String × Outcome))) (d' : Draft) : Prop where
  fails_iff : (∃ e, result = .error e) ↔ ¬ request.isEmpty ∧ ¬ d.query.backend.isJsonCapable
  unchanged : ∀ e, result = .error e → e = .invalidPlatform d.query.backend ∧ d' = d
  calls : ∀ outcomes, result = .ok outcomes → ∃ entries : List (String × RequestValue),
    (∀ name value, (name, value) ∈ entries ↔ request.get? name = some value) ∧
      entries.Pairwise (fun a b => Text.BytesBelow a.1 b.1) ∧
        filterEach s schema d entries = (outcomes.map fun e => (e.1, .ok e.2), d')
  splits : ∀ r₁ r₂, request.Splits r₁ r₂ →
    (do
      let outcomes₁ ← apply s schema r₁
      let outcomes₂ ← apply s schema r₂
      return outcomes₁ ++ outcomes₂ : Drafting (List (String × Outcome))).perform d = (result, d')

/-- Where no filter fails, calls for one filter after the other have the outcomes of all. -/
theorem filterEach_of_applyEach (h : s.applyEach schema d entries = .ok (outcomes, d')) :
    filterEach s schema d entries = (outcomes.map fun e => (e.1, .ok e.2), d') := by
  induction entries generalizing d outcomes with
  | nil =>
    obtain ⟨rfl, rfl⟩ : [] = outcomes ∧ d = d' := by simpa [FilterSet.applyEach] using h
    rfl
  | cons entry entries ih =>
    obtain ⟨o, d₁, os, hfilter, hrest, rfl⟩ := FilterSet.applyEach_cons_eq_ok_iff.1 h
    have hperform : (filterProperty s schema entry.1 (some entry.2)).perform d = (.ok o, d₁) := by
      rw [perform_filterProperty, hfilter]
      rfl
    simp only [filterEach, hperform, ih hrest, List.map_cons]

/-- Applying a request in two parts is applying it. -/
theorem apply_of_splits {r r₁ r₂ : Request} (h : r.Splits r₁ r₂) : apply s schema r = (do
    let outcomes₁ ← apply s schema r₁
    let outcomes₂ ← apply s schema r₂
    return outcomes₁ ++ outcomes₂) := by
  rw [apply, applyEach, h.toList_eq, List.mapM_append]
  rfl

section

variable {request : Request}

/-- Where the engine cannot read JSON, the first filter of a request fails. -/
theorem apply_of_not_isJsonCapable (h : ¬ d.query.backend.isJsonCapable)
    (hrequest : ¬ request.isEmpty) :
    s.apply schema d request = .error (.invalidPlatform d.query.backend) := by
  unfold FilterSet.apply
  unfold SortedMap.isEmpty at hrequest
  cases hentries : request.toList with
  | nil => simp [hentries] at hrequest
  | cons entry entries =>
    rw [FilterSet.applyEach, FilterSet.filterProperty_of_not_isJsonCapable h]

/-- Where the first filter fails, nothing has been done to the draft. -/
theorem appliesInOrder_of_not_isJsonCapable (hrequest : ¬ request.isEmpty)
    (hbackend : ¬ d.query.backend.isJsonCapable) :
    AppliesInOrder s schema d request (.error (.invalidPlatform d.query.backend)) d where
  fails_iff := by simp [hrequest, hbackend]
  unchanged := by
    intro e he
    exact ⟨(Except.error.inj he).symm, rfl⟩
  calls := by simp
  splits := by
    intro r₁ r₂ hsplits
    rw [← apply_of_splits hsplits, perform_apply, apply_of_not_isJsonCapable hbackend hrequest]
    rfl

/-- Where no filter fails, they are applied in the order of the names. -/
theorem appliesInOrder_of_applyEach (hrequest : d.query.backend.isJsonCapable ∨ request.isEmpty)
    (h : s.applyEach schema d request.toList = .ok (outcomes, d')) :
    AppliesInOrder s schema d request (.ok outcomes) d' where
  fails_iff := by
    rw [← not_or]
    exact iff_of_false (by simp) (not_not_intro hrequest.symm)
  unchanged := by simp
  calls := by
    intro outcomes' hok
    obtain rfl := Except.ok.inj hok
    exact ⟨request.toList, fun name value => request.mem_toList_iff,
      request.toList_bytesBelow, filterEach_of_applyEach h⟩
  splits := by
    intro r₁ r₂ hsplits
    rw [← apply_of_splits hsplits, perform_apply, FilterSet.apply, h]
    rfl

/-- The filters of a request do not fail unless the first one does. -/
theorem exists_applyEach_eq_ok_of_or (s : FilterSet) (schema : Schema)
    (h : d.query.backend.isJsonCapable ∨ request.isEmpty) :
    ∃ outcomes d', s.applyEach schema d request.toList = .ok (outcomes, d') := by
  rcases h with hbackend | hempty
  · exact FilterSet.exists_applyEach_eq_ok hbackend
  · rw [List.isEmpty_iff.1 hempty]
    exact ⟨[], d, rfl⟩

end

/-- A request is applied in the order of the names, or not at all, and the function for it gives the
same outcomes and the same draft. -/
theorem applies_in_order (s : FilterSet) (schema : Schema) (d : Draft) (request : Request) :
    ∃ result d', (apply s schema request).perform d = (result, d') ∧
      AppliesInOrder s schema d request result d' ∧
      s.apply schema d request = result.map (·, d') := by
  rw [perform_apply]
  by_cases hrequest : d.query.backend.isJsonCapable ∨ request.isEmpty
  · obtain ⟨outcomes, d', happly⟩ := exists_applyEach_eq_ok_of_or s schema hrequest
    rw [FilterSet.apply, happly]
    exact ⟨.ok outcomes, d', rfl, appliesInOrder_of_applyEach hrequest happly, rfl⟩
  · obtain ⟨hbackend, hempty⟩ := not_or.1 hrequest
    rw [apply_of_not_isJsonCapable hbackend hempty]
    exact ⟨.error _, d, rfl, appliesInOrder_of_not_isJsonCapable hempty hbackend, rfl⟩

/-- A request for two properties is applied as one for each, and one of the values is refused. -/
theorem applies_in_order_two :
    Request.Splits (.ofList [("data.size", .one (.text "x")), ("data.name", .one (.text "y"))])
      (.ofList [("data.name", .one (.text "y"))]) (.ofList [("data.size", .one (.text "x"))]) ∧
    ∃ s result d', FilterSet.ofEntries [("data.name", ⟨none, none, false⟩),
        ("data.size", ⟨some "int", none, false⟩)] = .ok s ∧
      (apply s ⟨"items", "i", .ofList [("data", .json)]⟩
        (.ofList [("data.size", .one (.text "x")), ("data.name", .one (.text "y"))])).perform
          (Draft.new "items" "i" .postgres) = (result, d') ∧
      (do
        let outcomes₁ ← apply s ⟨"items", "i", .ofList [("data", .json)]⟩
          (.ofList [("data.name", .one (.text "y"))])
        let outcomes₂ ← apply s ⟨"items", "i", .ofList [("data", .json)]⟩
          (.ofList [("data.size", .one (.text "x"))])
        return outcomes₁ ++ outcomes₂ : Drafting (List (String × Outcome))).perform
          (Draft.new "items" "i" .postgres) = (result, d') := by
  have hsplits : Request.Splits
      (.ofList [("data.size", .one (.text "x")), ("data.name", .one (.text "y"))])
      (.ofList [("data.name", .one (.text "y"))]) (.ofList [("data.size", .one (.text "x"))]) := by
    constructor
    case get?_eq =>
      intro name
      simp only [SortedMap.get?_ofList]
      by_cases hname : "data.name" = name
      · subst hname
        rfl
      · simp [hname]
    case below =>
      intro name₁ h₁ name₂ h₂
      obtain rfl := List.mem_singleton.1 h₁
      obtain rfl := List.mem_singleton.1 h₂
      exact Text.bytesBelow_iff.2 (by decide)
  obtain ⟨result, d', hperform, horder, -⟩ := applies_in_order _
    ⟨"items", "i", .ofList [("data", .json)]⟩ (Draft.new "items" "i" .postgres)
    (.ofList [("data.size", .one (.text "x")), ("data.name", .one (.text "y"))])
  exact ⟨hsplits, _, result, d', rfl, hperform, horder.splits _ _ hsplits⟩

end Drafting

end PropertyFilter
