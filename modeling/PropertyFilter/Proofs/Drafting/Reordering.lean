import Mathlib.Data.Fin.VecNotation
import Mathlib.Data.List.FinRange
import Mathlib.Data.Set.Function
import PropertyFilter.Proofs.Draft.Built
import PropertyFilter.Proofs.Drafting.Effects

/-!
# Calls in another order

Calls for single filters may come in any order. What becomes of a call depends on the filter set,
the schema, the alias of the table and the value, but not on the calls before it: in two orders a
call has one outcome, except that an applied filter is written with other names. A one-to-one
renaming leads from the names of one run to those of the other, and up to that renaming both runs
leave the same conditions and the same parameters behind.

## Main definitions

* `Drafting.filterAll` — calls for one filter after the other
* `Drafting.Corresponds` — what two runs say of one call
* `Drafting.Commutes` — how two runs of the same calls compare

## Main results

* `Drafting.fst_filterAll_ofFn` — a run returns what is decided about each of its calls
* `exists_renaming` — two lists of different names are renamings of each other
* `Drafting.commutes_filterAll` — calls commute up to a renaming
-/

namespace PropertyFilter

/-! ### Verdicts and outcomes -/

namespace Verdict

/-- The names that an accepted filter takes from a source. -/
def names (source : NameSource) : Verdict → List String
  | accepted seed plan => (source.take seed plan.values.length).1
  | _ => []

/-- The outcome of a filter, given the names that it takes. -/
def outcome (names : List String) : Verdict → Outcome
  | skipped reason => .skipped reason
  | ignored reason => .ignored reason
  | accepted _ plan => .applied (plan.fill names)

/-- The conditions that a filter adds, given the names that it takes. -/
def conditions (names : List String) : Verdict → List (Condition String)
  | accepted _ plan => [plan.condition names]
  | _ => []

/-- The parameters that a filter adds, given the names that it takes. -/
def params (names : List String) : Verdict → List BoundParam
  | accepted _ plan => (plan.fill names).params
  | _ => []

variable {v : Verdict} {source source' : NameSource}

theorem length_names_eq (v : Verdict) (source source' : NameSource) :
    (v.names source).length = (v.names source').length := by
  cases v <;> simp [names]

theorem map_sql_predicate?_outcome (v : Verdict) (names : List String) :
    (v.outcome names).predicate?.toList.map (·.sql) =
      (v.conditions names).map (·.sql Sql.slot) := by
  cases v <;> rfl

theorem params_predicate?_outcome (v : Verdict) (names : List String) :
    (v.outcome names).predicate?.toList.flatMap (·.params) = v.params names := by
  cases v with
  | accepted seed plan => exact List.flatMap_singleton _ _
  | _ => rfl

/-- The parameters of a filter have the names that it takes. -/
theorem map_name_params (v : Verdict) (source : NameSource) :
    (v.params (v.names source)).map (·.name) = v.names source := by
  cases v with
  | accepted seed plan => exact Plan.map_name_params_fill (NameSource.length_take _ _ _)
  | _ => rfl

/-- With other names, a filter adds the same parameters under those names. -/
theorem params_map (v : Verdict) (rename : String → String) (names : List String) :
    v.params (names.map rename) = (v.params names).map fun p => ⟨rename p.name, p.value⟩ := by
  cases v with
  | accepted seed plan => simp [params, Plan.fill, List.zipWith_map_left, List.map_zipWith]
  | _ => rfl

end Verdict

/-- Conditions with the same content in their slots are the same. -/
theorem Condition.map_congr {σ τ : Type} {c : Condition σ} {f g : σ → τ}
    (h : ∀ x ∈ c.slots, f x = g x) : c.map f = c.map g := by
  cases c with
  | single c =>
    have hslot : f c.slot = g c.slot := h _ (List.mem_singleton.2 rfl)
    simp only [map, Comparison.map, hslot]
  | anyOf cs =>
    have hslots : ∀ c ∈ cs, c.map f = c.map g := fun c hc => by
      simp only [Comparison.map, h _ (List.mem_map_of_mem hc)]
    simp only [map, List.map_congr_left hslots]

/-- With other names, a plan has the same condition with those names in its slots. -/
theorem Property.condition_map_of_plan {p : Property} {tableAlias : String} {value : RequestValue}
    {plan : Plan} {names : List String} (h : p.plan tableAlias value = .ok plan)
    (hnames : names.length = plan.values.length) (rename : String → String) :
    plan.condition (names.map rename) = (plan.condition names).map rename := by
  obtain ⟨strategy, -, htemplate⟩ := template_of_plan h
  have hmap : (plan.condition names).map rename =
      plan.template.map fun i => rename (names.getD i "") := by
    rw [Plan.condition]
    cases plan.template <;> simp [Condition.map, Comparison.map]
  rw [hmap, Plan.condition]
  refine Condition.map_congr fun i hi => ?_
  -- there is a name for every slot
  rw [htemplate, Plan.mem_slots_templateFor, ← hnames] at hi
  simp [hi]

/-! ### Renamings -/

/-- Two lists of pairwise different names, put side by side, are renamings of each other. -/
theorem exists_renaming {pairs : List (String × String)} (h : (pairs.map (·.1)).Nodup)
    (h' : (pairs.map (·.2)).Nodup) : ∃ rename : String → String,
      Set.InjOn rename {name | name ∈ pairs.map (·.1)} ∧
        ∀ pair ∈ pairs, rename pair.1 = pair.2 := by
  classical
  let rename (name : String) : String :=
    if hname : ∃ pair ∈ pairs, pair.1 = name then hname.choose.2 else name
  have hrename : ∀ pair ∈ pairs, rename pair.1 = pair.2 := by
    intro pair hpair
    have hname : ∃ other ∈ pairs, other.1 = pair.1 := ⟨pair, hpair, rfl⟩
    obtain ⟨hmem, heq⟩ := hname.choose_spec
    -- there is no other pair of that name
    have hpairs : hname.choose = pair := List.inj_on_of_nodup_map h hmem hpair heq
    simp only [rename, dif_pos hname, hpairs]
  refine ⟨rename, ?_, hrename⟩
  intro name hname name' hname' heq
  obtain ⟨pair, hpair, rfl⟩ := List.mem_map.1 hname
  obtain ⟨pair', hpair', rfl⟩ := List.mem_map.1 hname'
  rw [hrename pair hpair, hrename pair' hpair'] at heq
  rw [List.inj_on_of_nodup_map h' hpair hpair' heq]

/-- Lists in another order have the same elements when they are put together. -/
theorem flatMap_finRange_perm {α : Type} {n : Nat} (f : Fin n → List α) (σ : Equiv.Perm (Fin n)) :
    ((List.finRange n).flatMap fun i => f (σ i)).Perm ((List.finRange n).flatMap f) := by
  rw [← List.flatMap_map]
  exact σ.map_finRange_perm.flatMap_right f

/-- So do lists that are changed in the same way, up to that change. -/
theorem flatMap_finRange_map_perm {α β : Type} {n : Nat} {f : Fin n → List α} {f' : Fin n → List β}
    {g : α → β} {σ : Equiv.Perm (Fin n)} (h : ∀ i, f' i = (f (σ i)).map g) :
    ((List.finRange n).flatMap f').Perm (((List.finRange n).flatMap f).map g) := by
  rw [List.flatMap_congr fun i _ => h i, List.map_flatMap]
  exact flatMap_finRange_perm (fun k => (f k).map g) σ

/-- Lists of names and other lists of names in another order, of the same lengths and all of
different names, are renamings of each other. -/
theorem exists_renaming_flatMap {n : Nat} {names names' : Fin n → List String}
    {σ : Equiv.Perm (Fin n)} (hlength : ∀ i, (names (σ i)).length = (names' i).length)
    (h : ((List.finRange n).flatMap names).Nodup) (h' : ((List.finRange n).flatMap names').Nodup) :
    ∃ rename : String → String, Set.InjOn rename {name | name ∈ (List.finRange n).flatMap names} ∧
      ∀ i, (names (σ i)).map rename = names' i := by
  -- each list of names is put beside the one that has its place in the other order
  let pairs (i : Fin n) : List (String × String) := (names (σ i)).zip (names' i)
  have hfst (i : Fin n) : (pairs i).map (·.1) = names (σ i) :=
    List.map_fst_zip (hlength i).le
  have hsnd (i : Fin n) : (pairs i).map (·.2) = names' i :=
    List.map_snd_zip (hlength i).ge
  have hall :
      (((List.finRange n).flatMap pairs).map (·.1)).Perm ((List.finRange n).flatMap names) := by
    rw [List.map_flatMap, List.flatMap_congr fun i _ => hfst i]
    exact flatMap_finRange_perm names σ
  have hall' : ((List.finRange n).flatMap pairs).map (·.2) = (List.finRange n).flatMap names' := by
    rw [List.map_flatMap, List.flatMap_congr fun i _ => hsnd i]
  obtain ⟨rename, hinj, hrename⟩ := exists_renaming (hall.nodup_iff.2 h) (hall' ▸ h')
  refine ⟨rename, fun name hname name' hname' => ?_, fun i => ?_⟩
  · exact hinj (hall.mem_iff.2 hname) (hall.mem_iff.2 hname')
  · rw [← hfst i, ← hsnd i, List.map_map]
    refine List.map_congr_left fun pair hpair => ?_
    exact hrename pair (List.mem_flatMap.2 ⟨i, List.mem_finRange i, hpair⟩)

namespace Drafting

/-! ### Calls for single filters -/

/-- Calls for one filter after the other: what each of them returns, and the draft that the last
one leaves. -/
def filterAll (s : FilterSet) (schema : Schema) (d : Draft) :
    List (String × Option RequestValue) → List (Except FilterError Outcome) × Draft
  | [] => ([], d)
  | (property, value) :: calls =>
    let (result, d₁) := (filterProperty s schema property value).perform d
    let (results, d₂) := filterAll s schema d₁ calls
    (result :: results, d₂)

/-- The source of names that a call finds, after the calls before it. -/
def sourceAt (s : FilterSet) (schema : Schema) (d : Draft)
    (calls : List (String × Option RequestValue)) (i : Nat) : NameSource :=
  (filterAll s schema d (calls.take i)).2.names

/-- What two runs say of one call, given the sources of names that it finds there. It is skipped or
ignored in both, and for one reason. Or it is applied in both, and then both predicates are made of
the plan that the value of the property has for the alias of the table: each run fills it with the
names that it draws there, and the renaming turns those of the one run into those of the other. -/
inductive Corresponds (s : FilterSet) (tableAlias : String) (rename : String → String)
    (source source' : NameSource) : String × Option RequestValue → Outcome → Outcome → Prop where
  | skipped (call : String × Option RequestValue) (reason : SkipReason) :
      Corresponds s tableAlias rename source source' call (.skipped reason) (.skipped reason)
  | ignored (call : String × Option RequestValue) (reason : IgnoredReason) :
      Corresponds s tableAlias rename source source' call (.ignored reason) (.ignored reason)
  | applied {property : String} {p : Property} {value : RequestValue} {plan : Plan}
      {names names' : List String} (hp : s.get? property = some p)
      (hplan : p.plan tableAlias value = .ok plan)
      (hnames : names = (source.take p.path.column plan.values.length).1)
      (hnames' : names' = (source'.take p.path.column plan.values.length).1)
      (hrename : names.map rename = names') :
      Corresponds s tableAlias rename source source' (property, some value)
        (.applied (plan.fill names)) (.applied (plan.fill names'))

/-- How a run of calls and a run of the same calls in another order compare. The renaming is
one-to-one on the names of the first run. Each call has corresponding outcomes. Up to the renaming,
both runs leave the same conditions and the same parameters behind, in different orders. -/
structure Commutes (s : FilterSet) (schema : Schema) (d : Draft) {n : Nat}
    (calls : Fin n → String × Option RequestValue) (σ : Equiv.Perm (Fin n))
    (rename : String → String) (run run' : List (Except FilterError Outcome) × Draft) :
    Prop where
  injOn : Set.InjOn rename {name | name ∈ run.2.query.params.map (·.name)}
  outcomes : ∀ i, ∃ o o', run.1[(σ i).val]? = some (.ok o) ∧ run'.1[i.val]? = some (.ok o') ∧
    Corresponds s d.query.tableAlias rename (sourceAt s schema d (.ofFn calls) (σ i))
      (sourceAt s schema d (.ofFn (calls ∘ σ)) i) (calls (σ i)) o o'
  predicates : ∃ conditions : List (Condition String),
    run.2.query.predicates = conditions.map (·.sql Sql.slot) ∧
      run'.2.query.predicates.Perm (conditions.map fun c => (c.map rename).sql Sql.slot)
  params : run'.2.query.params.Perm
    (run.2.query.params.map fun p => ⟨rename p.name, p.value⟩)

/-! ### One run -/

section

variable {s : FilterSet} {schema : Schema} {d : Draft}
  {calls : List (String × Option RequestValue)}

theorem filterAll_cons (call : String × Option RequestValue)
    (calls : List (String × Option RequestValue)) :
    filterAll s schema d (call :: calls) =
      (((filterProperty s schema call.1 call.2).perform d).1 ::
          (filterAll s schema ((filterProperty s schema call.1 call.2).perform d).2 calls).1,
        (filterAll s schema ((filterProperty s schema call.1 call.2).perform d).2 calls).2) := rfl

/-- Each call returns what it returns on the draft that the calls before it leave. -/
theorem getElem?_filterAll (i : Nat) : (filterAll s schema d calls).1[i]? =
    calls[i]?.map fun call => ((filterProperty s schema call.1 call.2).perform
      (filterAll s schema d (calls.take i)).2).1 := by
  induction calls generalizing d i with
  | nil => simp [filterAll]
  | cons call calls ih =>
    cases i with
    | zero => rfl
    | succ i => simp only [filterAll_cons, List.getElem?_cons_succ, List.take_succ_cons, ih]

/-- Calls for single filters take steps. -/
theorem reflTransGen_filterAll (s : FilterSet) (schema : Schema) (d : Draft)
    (calls : List (String × Option RequestValue)) :
    Relation.ReflTransGen (Draft.Step s) d (filterAll s schema d calls).2 := by
  induction calls generalizing d with
  | nil => exact .refl
  | cons call calls ih =>
    have hfirst : Relation.ReflTransGen (Draft.Step s) d
        ((filterProperty s schema call.1 call.2).perform d).2 := (steps_filterProperty rfl).1
    exact hfirst.trans (ih _)

/-- Calls for single filters add what the applied ones have. -/
theorem gains_filterAll {outcomes : List Outcome}
    (h : (filterAll s schema d calls).1 = outcomes.map .ok) :
    d.Gains ((calls.map (·.1)).zip outcomes) (filterAll s schema d calls).2 := by
  induction calls generalizing d outcomes with
  | nil => exact .refl d
  | cons call calls ih =>
    cases outcomes with
    | nil => simp [filterAll_cons] at h
    | cons o outcomes =>
      rw [filterAll_cons, List.map_cons, List.cons.injEq] at h
      have hfirst := (steps_filterProperty (Prod.ext h.1 rfl :
        (filterProperty s schema call.1 call.2).perform d = (.ok o, _))).2
      exact hfirst.trans (ih h.2)

end

/-! ### A run and what is decided about its calls -/

section

variable {s : FilterSet} {schema : Schema} {d : Draft} {n : Nat}
  {verdict : String × Option RequestValue → Verdict}

/-- The names that a call of a run takes, given what is decided about calls. -/
def namesAt (s : FilterSet) (schema : Schema) (d : Draft)
    (verdict : String × Option RequestValue → Verdict)
    (calls : Fin n → String × Option RequestValue) (k : Fin n) : List String :=
  (verdict (calls k)).names (sourceAt s schema d (.ofFn calls) k)

/-- The outcome of a call is what is decided about it, with the names that it takes. -/
theorem perform_filterProperty_of_judge {call : String × Option RequestValue} {v : Verdict}
    (h : s.judge schema d.query.backend d.query.tableAlias call.1 call.2 = .ok v) :
    ((filterProperty s schema call.1 call.2).perform d).1 = .ok (v.outcome (v.names d.names)) := by
  rw [perform_filterProperty, FilterSet.filterProperty, FilterSet.compile_eq_judge, h]
  cases v <;> rfl

/-- The predicates of applied filters, call by call. -/
theorem filterMap_predicate?_zip (calls : Fin n → String × Option RequestValue)
    (outcome : Fin n → Outcome) :
    (((List.ofFn calls).map (·.1)).zip ((List.finRange n).map outcome)).filterMap
        (fun e => e.2.predicate?) =
      (List.finRange n).flatMap fun k => (outcome k).predicate?.toList := by
  rw [List.ofFn_eq_map, List.map_map, List.zip_map', List.filterMap_map,
    List.filterMap_eq_flatMap_toList]
  rfl

variable (hverdict : ∀ call : String × Option RequestValue,
    s.judge schema d.query.backend d.query.tableAlias call.1 call.2 = .ok (verdict call))
  (calls : Fin n → String × Option RequestValue)

include hverdict

/-- A run returns what is decided about each of its calls, with the names that the call takes. -/
theorem fst_filterAll_ofFn : (filterAll s schema d (.ofFn calls)).1 =
    ((List.finRange n).map fun k =>
      (verdict (calls k)).outcome (namesAt s schema d verdict calls k)).map .ok := by
  refine List.ext_getElem? fun i => ?_
  -- the engine and the alias stay, so that the same is decided at every point of the run
  obtain ⟨-, halias, hbackend⟩ := Draft.frame_of_reflTransGen
    (reflTransGen_filterAll s schema d ((List.ofFn calls).take i))
  rw [getElem?_filterAll, List.map_map, ← List.ofFn_eq_map, List.getElem?_ofFn, List.getElem?_ofFn]
  by_cases hi : i < n
  · rw [dif_pos hi, dif_pos hi, Option.map_some,
      perform_filterProperty_of_judge (by rw [halias, hbackend]; exact hverdict _)]
    rfl
  · rw [dif_neg hi, dif_neg hi, Option.map_none]

theorem getElem?_fst_filterAll_ofFn (k : Fin n) : (filterAll s schema d (.ofFn calls)).1[k.val]? =
    some (.ok ((verdict (calls k)).outcome (namesAt s schema d verdict calls k))) := by
  rw [fst_filterAll_ofFn hverdict, List.map_map, ← List.ofFn_eq_map, List.getElem?_ofFn,
    dif_pos k.isLt]
  rfl

/-- A run adds the conditions of its calls. -/
theorem predicates_filterAll_ofFn : (filterAll s schema d (.ofFn calls)).2.query.predicates =
    d.query.predicates ++ ((List.finRange n).flatMap fun k =>
      (verdict (calls k)).conditions (namesAt s schema d verdict calls k)).map
        (·.sql Sql.slot) := by
  have hgains := gains_filterAll (fst_filterAll_ofFn hverdict calls)
  rw [hgains.predicates, filterMap_predicate?_zip, List.map_flatMap, List.map_flatMap]
  simp only [Verdict.map_sql_predicate?_outcome]

/-- A run adds the parameters of its calls. -/
theorem params_filterAll_ofFn : (filterAll s schema d (.ofFn calls)).2.query.params =
    d.query.params ++ (List.finRange n).flatMap fun k =>
      (verdict (calls k)).params (namesAt s schema d verdict calls k) := by
  have hgains := gains_filterAll (fst_filterAll_ofFn hverdict calls)
  rw [hgains.params, filterMap_predicate?_zip, List.flatMap_assoc]
  simp only [Verdict.params_predicate?_outcome]

/-- The names of the parameters that a run of a new draft binds are those that its calls take. -/
theorem map_name_params_filterAll_ofFn (hd : d.query.params = []) :
    (filterAll s schema d (.ofFn calls)).2.query.params.map (·.name) =
      (List.finRange n).flatMap (namesAt s schema d verdict calls) := by
  rw [params_filterAll_ofFn hverdict, hd, List.nil_append, List.map_flatMap]
  exact List.flatMap_congr fun k _ => Verdict.map_name_params _ _

end

/-! ### Two runs -/

section

variable {s : FilterSet} {schema : Schema} {backend : Backend} {tableAlias : String}
  {call : String × Option RequestValue} {v : Verdict} {rename : String → String}

/-- What is decided about a call has corresponding outcomes, whatever names the call takes. -/
theorem corresponds_of_judge {source source' : NameSource}
    (h : s.judge schema backend tableAlias call.1 call.2 = .ok v)
    (hrename : (v.names source).map rename = v.names source') :
    Corresponds s tableAlias rename source source' call (v.outcome (v.names source))
      (v.outcome (v.names source')) := by
  cases v with
  | skipped reason => exact .skipped call reason
  | ignored reason => exact .ignored call reason
  | accepted seed plan =>
    obtain ⟨-, value, p, hvalue, hp, -, hplan, rfl⟩ := FilterSet.judge_eq_accepted_iff.1 h
    obtain ⟨property, _⟩ := call
    obtain rfl : _ = some value := hvalue
    exact .applied hp hplan rfl rfl hrename

/-- With other names, a call adds the same conditions with those names in their slots. -/
theorem conditions_map_of_judge {source : NameSource}
    (h : s.judge schema backend tableAlias call.1 call.2 = .ok v) :
    v.conditions ((v.names source).map rename) =
      (v.conditions (v.names source)).map (·.map rename) := by
  cases v with
  | accepted seed plan =>
    obtain ⟨-, value, p, -, -, -, hplan, -⟩ := FilterSet.judge_eq_accepted_iff.1 h
    have hcondition := Property.condition_map_of_plan hplan (NameSource.length_take source seed _)
      rename
    exact congrArg (fun c => [c]) hcondition
  | _ => rfl

end

/-- Calls for single filters commute. In any two orders each call has corresponding outcomes, and
the runs leave the same conditions and parameters behind, up to a one-to-one renaming. -/
theorem commutes_filterAll (s : FilterSet) (schema : Schema) (table tableAlias : String)
    {backend : Backend} (hbackend : backend.isJsonCapable) {n : Nat}
    (calls : Fin n → String × Option RequestValue) (σ : Equiv.Perm (Fin n)) :
    ∃ rename, Commutes s schema (Draft.new table tableAlias backend) calls σ rename
      (filterAll s schema (Draft.new table tableAlias backend) (.ofFn calls))
      (filterAll s schema (Draft.new table tableAlias backend) (.ofFn (calls ∘ σ))) := by
  generalize hd : Draft.new table tableAlias backend = d
  have hnew : d.Numbered := hd ▸ .new table tableAlias backend
  have hjson : d.query.backend.isJsonCapable := by rw [← hd]; exact hbackend
  have hpredicates : d.query.predicates = [] := by rw [← hd]; rfl
  have hparams : d.query.params = [] := by rw [← hd]; rfl
  -- what is decided about a call is the same in both runs
  have hjudge (call : String × Option RequestValue) : ∃ v,
      s.judge schema d.query.backend d.query.tableAlias call.1 call.2 = .ok v :=
    FilterSet.exists_judge_eq_ok hjson
  choose verdict hverdict using hjudge
  have hnames := map_name_params_filterAll_ofFn hverdict calls hparams
  have hnames' := map_name_params_filterAll_ofFn hverdict (calls ∘ σ) hparams
  have hlength (i : Fin n) : (namesAt s schema d verdict calls (σ i)).length =
      (namesAt s schema d verdict (calls ∘ σ) i).length := Verdict.length_names_eq _ _ _
  obtain ⟨rename, hinj, hrename⟩ := exists_renaming_flatMap hlength
    (hnames ▸ (hnew.reflTransGen (reflTransGen_filterAll s schema d _)).nodup)
    (hnames' ▸ (hnew.reflTransGen (reflTransGen_filterAll s schema d _)).nodup)
  refine ⟨rename, ?_⟩
  constructor
  case injOn => rwa [hnames]
  case outcomes =>
    intro i
    refine ⟨_, _, getElem?_fst_filterAll_ofFn hverdict calls (σ i),
      getElem?_fst_filterAll_ofFn hverdict (calls ∘ σ) i, ?_⟩
    exact corresponds_of_judge (hverdict (calls (σ i))) (hrename i)
  case predicates =>
    refine ⟨(List.finRange n).flatMap fun k =>
      (verdict (calls k)).conditions (namesAt s schema d verdict calls k), ?_, ?_⟩
    · rw [predicates_filterAll_ofFn hverdict, hpredicates, List.nil_append]
    · have hconditions (i : Fin n) :
          (verdict (calls (σ i))).conditions (namesAt s schema d verdict (calls ∘ σ) i) =
            ((verdict (calls (σ i))).conditions (namesAt s schema d verdict calls (σ i))).map
              (·.map rename) := by
        rw [← hrename i]
        exact conditions_map_of_judge (hverdict (calls (σ i)))
      rw [predicates_filterAll_ofFn hverdict, hpredicates, List.nil_append]
      have hperm : ((List.finRange n).flatMap fun i => (verdict (calls (σ i))).conditions
            (namesAt s schema d verdict (calls ∘ σ) i)).Perm
          (((List.finRange n).flatMap fun k => (verdict (calls k)).conditions
            (namesAt s schema d verdict calls k)).map (·.map rename)) :=
        flatMap_finRange_map_perm hconditions
      have hsql := hperm.map (·.sql Sql.slot)
      rw [List.map_map] at hsql
      exact hsql
  case params =>
    have hrenamed (i : Fin n) :
        (verdict (calls (σ i))).params (namesAt s schema d verdict (calls ∘ σ) i) =
          ((verdict (calls (σ i))).params (namesAt s schema d verdict calls (σ i))).map
            fun p => ⟨rename p.name, p.value⟩ := by
      rw [← hrename i]
      exact Verdict.params_map _ _ _
    rw [params_filterAll_ofFn hverdict, params_filterAll_ofFn hverdict, hparams, List.nil_append,
      List.nil_append]
    exact flatMap_finRange_map_perm hrenamed

/-- Three calls for two properties, and the same calls in another order. -/
theorem commutes_filterAll_three : ∃ s rename, ∃ calls : Fin 3 → String × Option RequestValue,
    FilterSet.ofEntries [("data.name", ⟨none, some "word_start", false⟩),
      ("data.size", ⟨some "int", none, false⟩)] = .ok s ∧
    calls = ![("data.size", some (.many [.int 1, .int 2])), ("data.size", some (.one (.text "x"))),
      ("data.name", some (.one (.text "y")))] ∧
    Backend.postgres.isJsonCapable ∧
    Commutes s ⟨"items", "i", .ofList [("data", .json)]⟩ (Draft.new "items" "i" .postgres) calls
      (Equiv.swap 0 2) rename
      (filterAll s ⟨"items", "i", .ofList [("data", .json)]⟩ (Draft.new "items" "i" .postgres)
        (.ofFn calls))
      (filterAll s ⟨"items", "i", .ofList [("data", .json)]⟩ (Draft.new "items" "i" .postgres)
        (.ofFn (calls ∘ Equiv.swap 0 2))) := by
  obtain ⟨s, hs⟩ : ∃ s, FilterSet.ofEntries [("data.name", ⟨none, some "word_start", false⟩),
      ("data.size", ⟨some "int", none, false⟩)] = .ok s := ⟨_, rfl⟩
  have hbackend : Backend.postgres.isJsonCapable := rfl
  obtain ⟨rename, hcommutes⟩ := commutes_filterAll s ⟨"items", "i", .ofList [("data", .json)]⟩
    "items" "i" hbackend ![("data.size", some (.many [.int 1, .int 2])),
      ("data.size", some (.one (.text "x"))), ("data.name", some (.one (.text "y")))]
    (Equiv.swap 0 2)
  exact ⟨s, rename, _, hs, rfl, hbackend, hcommutes⟩

end Drafting

end PropertyFilter
