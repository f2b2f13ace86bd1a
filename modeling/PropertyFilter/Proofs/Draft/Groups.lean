import PropertyFilter.Proofs.Draft.Built

/-!
# Groups of comparisons

The comparisons that a filter adds to a draft when it is applied: one for each value, but two for a
text that is looked for at the start of words, and one for truth values. Applying a request adds one
such group for each filter that is applied, in the order of the names.

## Main definitions

* `Property.comparisonCount` — how many comparisons the filter of a property has
* `Property.Groups` — the group of comparisons that an applied filter stands for
* `FilterSet.applied` — the filters that were applied

## Main results

* `Property.groups_fill` — a plan that is filled with names stands for its condition
* `FilterSet.exists_groups_applyEach` — which conditions applying a request adds
-/

namespace PropertyFilter

open Sql

/-! ### The group of a filter -/

namespace Property

variable {p : Property} {tableAlias : String} {value : RequestValue} {plan : Plan}
  {names : List String}

/-- Whether a value is one text that is looked for at the start of words. -/
def LooksForWord (p : Property) (value : RequestValue) : Prop :=
  p.kind = .string ∧ p.strategy.map (·.rule) = some .atWordStart ∧ value.toList.length = 1

instance : Decidable (p.LooksForWord value) := by
  unfold LooksForWord
  infer_instance

/-- How many parameters the filter of a property has: one for each value, but of truth values only
one counts. -/
def paramCount (p : Property) (value : RequestValue) : Nat :=
  if p.kind = .bool then 1 else value.toList.length

/-- How many comparisons the filter of a property has. -/
def comparisonCount (p : Property) (value : RequestValue) : Nat :=
  if p.LooksForWord value then 2 else p.paramCount value

/-- The group of comparisons that an applied filter stands for. They read where the property lies,
and compare with each parameter in turn, or twice with the one parameter there is. -/
structure Groups (p : Property) (tableAlias : String) (value : RequestValue)
    (predicate : Predicate) (group : Condition String) : Prop where
  sql : predicate.sql = group.sql Sql.slot
  reads : ∀ c ∈ group.comparisons, Plan.Reads (p.target tableAlias) c
  slots : group.slots = if p.LooksForWord value
    then predicate.params.map (·.name) ++ predicate.params.map (·.name)
    else predicate.params.map (·.name)
  params : predicate.params.length = p.paramCount value
  count : group.comparisons.length = p.comparisonCount value
  nonempty : group.comparisons ≠ []

/-- A plan has a value for every parameter, and at least one. -/
theorem length_values_of_plan (h : p.plan tableAlias value = .ok plan) :
    plan.values.length = p.paramCount value ∧ 1 ≤ p.paramCount value := by
  obtain ⟨strategy, values, -, hvalues, hplan⟩ := plan_eq_ok_iff.1 h
  constructor
  · exact (Plan.length_values_of_ofValues hplan).trans (TypedValues.count_of_ofScalars hvalues)
  · -- without any value, the input would have been refused
    unfold paramCount
    split
    · exact Nat.le_refl 1
    · rw [Nat.one_le_iff_ne_zero, Ne, List.length_eq_zero_iff]
      intro hnil
      simp [hnil, TypedValues.ofScalars] at hvalues

/-- The slots of a plan that is filled with names. -/
theorem slots_of_plan (h : p.plan tableAlias value = .ok plan)
    (hnames : names.length = plan.values.length) :
    (plan.condition names).slots = if p.LooksForWord value then names ++ names else names := by
  obtain ⟨strategy, hstrategy, htemplate⟩ := template_of_plan h
  have hlength : names.length = p.paramCount value := hnames.trans (length_values_of_plan h).1
  -- the number of values is the one that was asked for, since a word is looked for in texts alone
  have hword : (p.kind = .string ∧ strategy.rule = .atWordStart ∧ names.length = 1) ↔
      p.LooksForWord value := by
    rw [LooksForWord, hstrategy, Option.map_some, Option.some.injEq]
    refine and_congr_right fun hkind => and_congr_right fun _ => ?_
    rw [hlength, paramCount, if_neg (by simp [hkind])]
  rw [Plan.condition, Condition.slots_map, htemplate, Plan.slots_templateFor, ← hnames]
  simp only [hword]
  split
  · -- the one name there is is used twice
    rename_i hlooks
    obtain ⟨name, rfl⟩ := List.length_eq_one_iff.1 (hword.2 hlooks).2.2
    rfl
  · exact List.ext_getElem (by simp) fun i _ hi => by simp [hi]

/-- A plan that is filled with names stands for its condition. -/
theorem groups_fill (h : p.plan tableAlias value = .ok plan)
    (hnames : names.length = plan.values.length) :
    p.Groups tableAlias value (plan.fill names) (plan.condition names) := by
  have hlength : names.length = p.paramCount value := hnames.trans (length_values_of_plan h).1
  have hparams : (plan.fill names).params.map (·.name) = names := Plan.map_name_params_fill hnames
  have hslots := slots_of_plan h hnames
  have hcount : (plan.condition names).comparisons.length = p.comparisonCount value := by
    rw [← List.length_map (·.slot)]
    change (plan.condition names).slots.length = _
    rw [hslots, comparisonCount]
    split
    · rename_i hlooks
      have hone : p.paramCount value = 1 := by
        rw [paramCount, if_neg (by simp [hlooks.1]), hlooks.2.2]
      rw [List.length_append, hlength, hone]
    · exact hlength
  constructor
  case sql => rfl
  case reads => exact reads_of_plan h
  case slots =>
    rw [hparams]
    exact hslots
  case params => rw [← hlength, ← List.length_map (·.name), hparams]
  case count => exact hcount
  case nonempty =>
    -- there is at least one value to compare with
    have hone := (length_values_of_plan h).2
    rw [comparisonCount] at hcount
    rw [← List.length_pos_iff]
    split at hcount <;> omega

end Property

/-! ### Applying a request -/

namespace FilterSet

/-- The filters that were applied, with what they added. -/
def applied (outcomes : List (String × Outcome)) : List (String × Predicate) :=
  outcomes.filterMap fun e => e.2.predicate?.map (e.1, ·)

/-- The group of comparisons that an applied filter stands for, given the values of a request. -/
def Groups (s : FilterSet) (tableAlias : String) (entries : List (String × RequestValue))
    (filter : String × Predicate) (group : Condition String) : Prop :=
  ∃ p value, s.get? filter.1 = some p ∧ (filter.1, value) ∈ entries ∧
    p.Groups tableAlias value filter.2 group

variable {s : FilterSet} {schema : Schema} {d d' : Draft} {property : String} {o : Outcome}
  {outcomes : List (String × Outcome)} {conditions : List (Condition String)}
  {entries : List (String × RequestValue)}

/-- The names of the applied filters are among those of all outcomes, in the same order. -/
theorem map_fst_applied_sublist (outcomes : List (String × Outcome)) :
    ((applied outcomes).map (·.1)).Sublist (outcomes.map (·.1)) := by
  induction outcomes with
  | nil => exact List.nil_sublist _
  | cons e outcomes ih =>
    cases h : e.2.predicate? with
    | none => simpa [applied, h] using ih.cons e.1
    | some predicate => simpa [applied, h] using ih.cons_cons e.1

/-- A filter keeps the conditions of a draft, and adds its group if it is applied. -/
theorem built_filterProperty (hs : s.IsSafe) (hd : d.Built conditions) {value : RequestValue}
    (h : s.filterProperty schema d property (some value) = .ok (o, d')) :
    (o.predicate? = none ∧ d'.Built conditions) ∨ ∃ predicate p group, o = .applied predicate ∧
      s.get? property = some p ∧ p.Groups d.query.tableAlias value predicate group ∧
        d'.Built (conditions ++ [group]) := by
  obtain ⟨d₁, hcompile, rfl⟩ := filterProperty_eq_ok_iff.1 h
  rcases compile_cases hcompile with ⟨hnone, rfl⟩ | ⟨seed, plan, hjudge, rfl, rfl⟩
  · exact .inl ⟨hnone, hd.tell property o⟩
  · obtain ⟨-, v, p, hv, hp, -, hplan, rfl⟩ := judge_eq_accepted_iff.1 hjudge
    obtain rfl := Option.some.inj hv
    have hnames : (d.freshNames p.path.column plan).length = plan.values.length :=
      Draft.length_freshNames
    have hgroups := Property.groups_fill hplan hnames
    exact .inr ⟨_, p, _, rfl, hp, hgroups, (hd.takeUp (hs _ _ hp) hplan).tell property _⟩

/-- Applying a request keeps the conditions of a draft, and adds the groups of the applied filters
in their order. -/
theorem exists_groups_applyEach (hs : s.IsSafe) (hd : d.Built conditions)
    (h : s.applyEach schema d entries = .ok (outcomes, d')) :
    outcomes.map (·.1) = entries.map (·.1) ∧ ∃ groups, d'.Built (conditions ++ groups) ∧
      List.Forall₂ (s.Groups d.query.tableAlias entries) (applied outcomes) groups := by
  induction entries generalizing d outcomes conditions with
  | nil =>
    obtain ⟨rfl, rfl⟩ : [] = outcomes ∧ d = d' := by simpa [applyEach] using h
    exact ⟨rfl, [], by simpa using hd, .nil⟩
  | cons entry entries ih =>
    obtain ⟨o, d₁, os, hfilter, hrest, rfl⟩ := applyEach_cons_eq_ok_iff.1 h
    -- the alias of the table stays, and what holds of later values holds of all
    have halias := (Draft.frame_of_reflTransGen (reflTransGen_filterProperty hfilter)).2.1
    have hlater : ∀ filter group, s.Groups d₁.query.tableAlias entries filter group →
        s.Groups d.query.tableAlias (entry :: entries) filter group := by
      rintro filter group ⟨p, value, hp, hmem, hgroups⟩
      exact ⟨p, value, hp, List.mem_cons_of_mem entry hmem, halias ▸ hgroups⟩
    rcases built_filterProperty hs hd hfilter with
      ⟨hnone, hbuilt⟩ | ⟨predicate, p, group, rfl, hp, hgroup, hbuilt⟩
    · obtain ⟨hnames, groups, hbuilt', hgroups⟩ := ih hbuilt hrest
      have happlied : applied ((entry.1, o) :: os) = applied os := by simp [applied, hnone]
      refine ⟨by simp [hnames], groups, hbuilt', ?_⟩
      rw [happlied]
      exact hgroups.imp hlater
    · obtain ⟨hnames, groups, hbuilt', hgroups⟩ := ih hbuilt hrest
      refine ⟨by simp [hnames], group :: groups, ?_, ?_⟩
      · rwa [List.append_assoc] at hbuilt'
      · exact .cons ⟨p, entry.2, hp, List.mem_cons_self, hgroup⟩ (hgroups.imp hlater)

end FilterSet

end PropertyFilter
