import PropertyFilter.Drafting
import PropertyFilter.Proofs.Draft

/-!
# Programs and functions

A program that works on a draft step by step returns what the function of the same name returns,
and leaves the draft that the function gives. Where the function fails, the program leaves the
draft as it was: the engine alone makes filters fail, so the first one fails or none does.

## Main definitions

* `Draft.after` — what a program returns and leaves if it does what a function says

## Main results

* `Drafting.perform_bind` — a program goes on where the one before it ended
* `Drafting.perform_ofValues` — predicates are plans that are filled with the names drawn
* `Drafting.perform_filterProperty`, `Drafting.perform_apply` — programs do what functions say
-/

namespace PropertyFilter

/-- What a program returns and leaves if it does what a function says, and leaves the draft alone
where the function fails. -/
def Draft.after {α : Type} (d : Draft) :
    Except FilterError (α × Draft) → Except FilterError α × Draft
  | .ok (a, d') => (.ok a, d')
  | .error e => (.error e, d)

/-- Names that are drawn together are drawn one after the other. -/
theorem NameSource.take_succ (source : NameSource) (seed : String) (n : Nat) :
    source.take seed (n + 1) = ((source.next seed).1 :: ((source.next seed).2.take seed n).1,
      ((source.next seed).2.take seed n).2) := by
  have hnumber (i : Nat) : source.count + (i + 1) = source.count + 1 + i := by omega
  have hnames : (List.range n).map ((fun i => nameAt seed (source.count + i)) ∘ Nat.succ) =
      (List.range n).map fun i => nameAt seed (source.count + 1 + i) :=
    List.map_congr_left fun i _ => congrArg (nameAt seed) (hnumber i)
  rw [take, List.range_succ_eq_map, List.map_cons, List.map_map, hnames]
  exact Prod.ext rfl (congrArg mk (hnumber n))

namespace Drafting

variable {α β : Type} {d d' : Draft}

/-! ### Steps -/

@[simp] theorem perform_pure (a : α) : (pure a : Drafting α).perform d = (.ok a, d) := rfl

@[simp] theorem perform_get : (get : Drafting Draft).perform d = (.ok d, d) := rfl

/-- A program goes on where the one before it ended, unless that one failed. -/
theorem perform_bind (program : Drafting α) (next : α → Drafting β) :
    (program >>= next).perform d =
      match program.perform d with
      | (.ok a, d') => (next a).perform d'
      | (.error e, d') => (.error e, d') := by
  unfold perform
  simp only [ExceptT.run_bind, StateT.run_bind]
  change (match program.run.run d with | (_, _) => _) = _
  rcases program.run.run d with ⟨_ | a, d'⟩ <;> rfl

theorem perform_bind_of_ok {program : Drafting α} {next : α → Drafting β} {a : α}
    (h : program.perform d = (.ok a, d')) :
    (program >>= next).perform d = (next a).perform d' := by
  rw [perform_bind, h]

theorem perform_bind_of_error {program : Drafting α} {next : α → Drafting β} {e : FilterError}
    (h : program.perform d = (.error e, d')) :
    (program >>= next).perform d = (.error e, d') := by
  rw [perform_bind, h]

@[simp] theorem perform_drawParam (seed : String) (value : BoundValue) :
    (drawParam seed value).perform d =
      (.ok ⟨(d.names.next seed).1, value⟩, { d with names := (d.names.next seed).2 }) := rfl

@[simp] theorem perform_bindParam (p : BoundParam) :
    (bindParam p).perform d = (.ok (), { d with query := d.query.bind p }) := rfl

/-- Parameters are added one after the other as they are added together. -/
theorem perform_register (p : Predicate) :
    (register p).perform d = (.ok (), { d with query := d.query.register p }) := by
  suffices h : ∀ (ps : List BoundParam) (d : Draft), (ps.forM bindParam).perform d =
      (.ok (), { d with query := ps.foldl Query.bind d.query }) from h p.params _
  intro ps
  induction ps with
  | nil => exact fun d => rfl
  | cons p ps ih =>
    intro d
    rw [List.forM_eq_forM, List.forM_cons, perform_bind_of_ok (perform_bindParam p)]
    exact ih _

/-! ### Predicates -/

section Predicates

variable {target : Plan.Target} {strategy : Strategy} {seed : String}

/-- Names are drawn one after the other as they are drawn together. -/
theorem perform_mapM_drawParam (values : List BoundValue) :
    (values.mapM (drawParam seed)).perform d =
      (.ok (List.zipWith BoundParam.mk (d.names.take seed values.length).1 values),
        { d with names := (d.names.take seed values.length).2 }) := by
  induction values generalizing d with
  | nil => rfl
  | cons value values ih =>
    rw [List.mapM_cons, perform_bind_of_ok (perform_drawParam seed value), perform_bind_of_ok ih,
      perform_pure, List.length_cons, NameSource.take_succ]
    rfl

/-- Equalities for parameters are equalities for slots that their names are put into. -/
theorem equalities_zipWith {foldsCase castsSlot : Bool} {names : List String}
    {values : List BoundValue} (h : names.length = values.length) :
    equalities target foldsCase castsSlot (List.zipWith BoundParam.mk names values) =
      (Plan.equalities target foldsCase castsSlot values.length).map
        (·.map fun i => names.getD i "") := by
  apply List.ext_getElem
  · simp [equalities, Plan.equalities, h]
  · intro i _ hi
    have hi : i < names.length := by simpa [Plan.equalities, ← h] using hi
    simp [equalities, Plan.equalities, Comparison.map, hi]

/-- What a program for a predicate does if a plan tells what the predicate is. Only an accepted
plan takes names. -/
def filled (d : Draft) (seed : String) :
    Except IgnoredReason Plan → Except FilterError (Except IgnoredReason Predicate) × Draft
  | .error reason => (.ok (.error reason), d)
  | .ok plan =>
    (.ok (.ok (d.takeUp seed plan).1), { d with names := (d.takeUp seed plan).2.names })

/-- One equality for each of several values. -/
theorem perform_equalities {foldsCase castsSlot : Bool} (values : List BoundValue) :
    (do
      let params ← values.mapM (drawParam seed)
      let comparisons := equalities target foldsCase castsSlot params
      return .ok ⟨(Condition.anyOf comparisons).sql Sql.slot, params⟩ :
        Drafting (Except IgnoredReason Predicate)).perform d =
      filled d seed
        (.ok ⟨.anyOf (Plan.equalities target foldsCase castsSlot values.length), values⟩) := by
  rw [perform_bind_of_ok (perform_mapM_drawParam values), perform_pure,
    equalities_zipWith (NameSource.length_take _ _ _)]
  rfl

theorem perform_ofStrings (ss : List String) :
    (ofStrings target strategy seed ss).perform d =
      filled d seed (Plan.ofStrings target strategy ss) := by
  by_cases hsingle : ∃ s, ss = [s]
  · obtain ⟨s, rfl⟩ := hsingle
    have hmap (f : Nat → String) : (strategy.condition target.column target.key 0).map f =
        strategy.condition target.column target.key (f 0) := by
      unfold Strategy.condition
      cases strategy.rule <;> rfl
    rw [ofStrings, perform_bind_of_ok (perform_drawParam seed _), perform_pure, Plan.ofStrings]
    simp only [filled, Draft.takeUp, Plan.fill, hmap]
    rfl
  · have hmany : ∀ s, ss = [s] → False := fun s hs => hsingle ⟨s, hs⟩
    rw [ofStrings.eq_2 _ _ _ _ hmany, Plan.ofStrings.eq_2 _ _ _ hmany]
    cases strategy.rule with
    | exact =>
      refine (perform_equalities _).trans ?_
      rw [List.length_map]
    | _ => rfl

theorem perform_ofNumbers (values : List BoundValue) :
    (ofNumbers target seed values).perform d =
      (.ok (d.takeUp seed (Plan.ofNumbers target values)).1,
        { d with names := (d.takeUp seed (Plan.ofNumbers target values)).2.names }) := by
  unfold ofNumbers Plan.ofNumbers Plan.comparing
  rw [perform_bind_of_ok (perform_mapM_drawParam values),
    equalities_zipWith (NameSource.length_take _ _ _)]
  -- there is one equality, or none, or several
  rcases Plan.equalities target false true values.length with _ | ⟨c, _ | ⟨c', cs⟩⟩ <;> rfl

/-- A program makes the predicate that the plan for the values is filled to. -/
theorem perform_ofValues (values : TypedValues) :
    (ofValues target strategy seed values).perform d =
      filled d seed (Plan.ofValues target strategy values) := by
  cases values with
  | strings ss => exact perform_ofStrings ss
  | ints ns =>
    rw [ofValues, perform_bind_of_ok (perform_ofNumbers _)]
    rfl
  | floats literals =>
    rw [ofValues, perform_bind_of_ok (perform_ofNumbers _)]
    rfl
  | bool b => rfl

end Predicates

/-! ### Filters -/

variable {s : FilterSet} {schema : Schema} {property : String} {value : Option RequestValue}

theorem perform_compileProperty (p : Property) (value : RequestValue) :
    (compileProperty p value).perform d =
      match p.plan d.query.tableAlias value with
      | .error reason => (.ok (.ignored reason), d)
      | .ok plan => (.ok (.applied (d.takeUp p.path.column plan).1),
        (d.takeUp p.path.column plan).2) := by
  unfold compileProperty Property.plan
  cases p.strategy with
  | none => rfl
  | some strategy =>
    cases TypedValues.ofScalars p.kind value.toList with
    | error reason => rfl
    | ok values =>
      simp only [Except.bind]
      rw [perform_bind_of_ok perform_get, perform_bind, perform_ofValues]
      cases Plan.ofValues ⟨d.query.tableAlias ++ "." ++ p.path.column, p.path.key⟩ strategy
          values with
      | error reason => rfl
      | ok plan =>
        -- the names have been drawn, and the predicate is added
        simp only [filled]
        rw [perform_bind_of_ok (perform_register _)]
        rfl

theorem perform_compile : (compile s schema property value).perform d =
    d.after (s.compile schema d property value) := by
  unfold compile FilterSet.compile FilterSet.judge
  rw [perform_bind_of_ok perform_get]
  cases d.query.backend.isJsonCapable with
  | false => rfl
  | true =>
    cases value with
    | none => rfl
    | some value =>
      cases s.get? property with
      | none => rfl
      | some p =>
        dsimp only
        cases schema.isMapped p.path.column with
        | false => rfl
        | true =>
          cases schema.isJsonColumn p.path.column with
          | false => rfl
          | true =>
            simp only [Bool.not_true, Bool.false_eq_true, if_false]
            rw [perform_compileProperty]
            cases p.plan d.query.tableAlias value <;> rfl

theorem perform_filterProperty : (filterProperty s schema property value).perform d =
    d.after (s.filterProperty schema d property value) := by
  unfold filterProperty FilterSet.filterProperty
  rw [perform_bind, perform_compile]
  rcases s.compile schema d property value with e | ⟨o, d'⟩
  · rfl
  · cases o with
    | ignored reason => rfl
    | applied p => simp [Draft.after, Except.map, Draft.tell, Outcome.notice?,
        Outcome.ignoredReason?]
    | skipped reason => simp [Draft.after, Except.map, Draft.tell, Outcome.notice?,
        Outcome.ignoredReason?]

theorem applyEach_cons (entry : String × RequestValue) (entries : List (String × RequestValue)) :
    applyEach s schema (entry :: entries) = (do
      let o ← filterProperty s schema entry.1 (some entry.2)
      let outcomes ← applyEach s schema entries
      return (entry.1, o) :: outcomes) := by
  simp [applyEach]

/-- Filters are added one after the other. Only the first one can fail, and then the draft is as it
was. -/
theorem perform_applyEach (entries : List (String × RequestValue)) :
    (applyEach s schema entries).perform d = d.after (s.applyEach schema d entries) := by
  induction entries generalizing d with
  | nil => rfl
  | cons entry entries ih =>
    rw [applyEach_cons, FilterSet.applyEach]
    by_cases hbackend : d.query.backend.isJsonCapable
    · obtain ⟨o, d₁, hfilter⟩ : ∃ o d₁, s.filterProperty schema d entry.1 (some entry.2) =
          .ok (o, d₁) := FilterSet.exists_filterProperty_eq_ok hbackend
      have hperform : (filterProperty s schema entry.1 (some entry.2)).perform d = (.ok o, d₁) := by
        rw [perform_filterProperty, hfilter]
        rfl
      -- the engine stays, so the other filters do not fail either
      have hframe := (Draft.frame_of_reflTransGen
        (FilterSet.reflTransGen_filterProperty hfilter)).2.2
      obtain ⟨os, d₂, hrest⟩ : ∃ os d₂, s.applyEach schema d₁ entries = .ok (os, d₂) :=
        FilterSet.exists_applyEach_eq_ok (hframe ▸ hbackend)
      have hperforms : (applyEach s schema entries).perform d₁ = (.ok os, d₂) := by
        rw [ih, hrest]
        rfl
      rw [perform_bind_of_ok hperform, perform_bind_of_ok hperforms, hfilter]
      simp only [hrest]
      rfl
    · have hfilter : s.filterProperty schema d entry.1 (some entry.2) =
          .error (.invalidPlatform d.query.backend) :=
        FilterSet.filterProperty_of_not_isJsonCapable hbackend
      have hperform : (filterProperty s schema entry.1 (some entry.2)).perform d =
          (.error (.invalidPlatform d.query.backend), d) := by
        rw [perform_filterProperty, hfilter]
        rfl
      rw [perform_bind_of_error hperform, hfilter]
      rfl

theorem perform_apply (request : Request) : (apply s schema request).perform d =
    d.after (s.apply schema d request) :=
  perform_applyEach request.toList

end Drafting

end PropertyFilter
