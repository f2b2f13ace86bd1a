import PropertyFilter.Proofs.Drafting.Precedence

/-!
# Filters of several values

The filter of several numbers, or of several texts that are compared as a whole, is the choice
between the filters that each of the values has on its own, and one value that has none spoils
them all. Texts that are looked for inside others are only looked for one at a time.

## Main definitions

* `Predicate.IsChoice` — a predicate is the choice between others
* `Draft.ahead` — a draft from which some more names have been drawn
* `Property.TakesSeveral` — a property takes several values
* `Drafting.Chooses` — the filter of values is the choice between the filters of each of them

## Main results

* `Property.plan_of_takesSeveral` — the plan of values is to compare with them
* `Drafting.perform_compile_several` — the filter of several values is a choice
-/

namespace PropertyFilter

/-- A predicate is the choice between others. -/
structure Predicate.IsChoice (p : Predicate) (alternatives : List Predicate) : Prop where
  sql : p.sql = "(" ++ String.intercalate " OR " (alternatives.map (·.sql)) ++ ")"
  params : p.params = alternatives.flatMap (·.params)

/-- A draft from which some more names have been drawn. -/
def Draft.ahead (d : Draft) (n : Nat) : Draft := { d with names := ⟨d.names.count + n⟩ }

/-! ### Plans that compare -/

namespace Plan

variable {target : Target} {strategy : Strategy} {values : List BoundValue}

theorem comparing_of_two_le {foldsCase castsSlot : Bool} (h : 2 ≤ values.length) :
    comparing target foldsCase castsSlot values =
      ⟨.anyOf (equalities target foldsCase castsSlot values.length), values⟩ :=
  comparing_of_length_ne_one (by omega)

/-- Texts are compared as a whole under an exact strategy. -/
theorem ofStrings_exact (hrule : strategy.rule = .exact) {texts : List String} (h : texts ≠ []) :
    ofStrings target strategy texts = .ok (comparing target (!strategy.caseSensitive) false
      (texts.map fun s => .text (operand strategy s))) := by
  unfold ofStrings
  split
  · rw [Strategy.condition, hrule]
    rfl
  · next hsingle =>
    have hseveral : 2 ≤ (texts.map fun s => BoundValue.text (operand strategy s)).length := by
      rw [List.length_map]
      rcases texts with _ | ⟨s, _ | ⟨s', rest⟩⟩
      · exact absurd rfl h
      · exact absurd rfl (hsingle s)
      · simp
    rw [hrule, comparing_of_two_le hseveral, List.length_map]

end Plan

namespace Property

section Definitions

variable (p : Property) (strategy : Strategy)

/-- A property takes several values: it holds numbers, or texts that are compared as a whole. -/
def TakesSeveral : Prop :=
  p.kind = .int ∨ p.kind = .float ∨ p.kind = .string ∧ strategy.rule = .exact

/-- A value as it is bound for a property: as a text in the case of the strategy, or as a
number. -/
def bound? (v : Scalar) : Option BoundValue :=
  match p.kind with
  | .string => some (.text (Plan.operand strategy v.display))
  | .int => v.toInteger?.map .int
  | .float => v.toDecimalText?.map .float
  | .bool => none

/-- Whether case is disregarded where values of a property are compared. -/
def foldsCase : Bool := p.kind = .string && !strategy.caseSensitive

/-- Whether the values of a property are numbers, which are turned into texts. -/
def castsSlot : Bool := p.kind ≠ .string

/-- The predicate of one value, with the name of a number. -/
def alternative (tableAlias : String) (number : Nat) (value : BoundValue) : Predicate :=
  let target := p.target tableAlias
  let name := NameSource.nameAt p.path.column number
  let comparison : Comparison String :=
    ⟨target.column, target.key, p.foldsCase strategy, .equal, p.castsSlot, name⟩
  ⟨comparison.sql Sql.slot, [⟨name, value⟩]⟩

end Definitions

variable {p : Property} {strategy : Strategy} {value : RequestValue}

/-- The plan of values compares with all of them, or one of them is no number. -/
theorem plan_of_takesSeveral (h : p.TakesSeveral strategy) (hstrategy : p.strategy = some strategy)
    (tableAlias : String) {values : List Scalar} (hvalues : values ≠ []) :
    p.plan tableAlias (.many values) =
      match values.mapM (p.bound? strategy) with
      | none => .error .invalidNumeric
      | some bs =>
        .ok (.comparing (p.target tableAlias) (p.foldsCase strategy) p.castsSlot bs) := by
  rw [plan_eq_bind hstrategy]
  obtain ⟨v, vs, rfl⟩ := List.exists_cons_of_ne_nil hvalues
  change (TypedValues.ofScalars p.kind (v :: vs)).bind _ = _
  rcases h with hkind | hkind | ⟨hkind, hrule⟩
  · have hbound : p.bound? strategy = fun v => v.toInteger?.map .int := by
      funext v
      rw [bound?, hkind]
    rw [hbound, Text.mapM_option_map, hkind, TypedValues.ofScalars]
    cases (v :: vs).mapM Scalar.toInteger? with
    | none => rfl
    | some ns =>
      rw [foldsCase, castsSlot, hkind]
      rfl
  · have hbound : p.bound? strategy = fun v => v.toDecimalText?.map .float := by
      funext v
      rw [bound?, hkind]
    rw [hbound, Text.mapM_option_map, hkind, TypedValues.ofScalars]
    cases (v :: vs).mapM Scalar.toDecimalText? with
    | none => rfl
    | some literals =>
      rw [foldsCase, castsSlot, hkind]
      rfl
  · -- every text can be bound
    have hbound : p.bound? strategy =
        fun v => pure (.text (Plan.operand strategy v.display)) := by
      funext v
      rw [bound?, hkind]
      rfl
    have hne : (v :: vs).map Scalar.display ≠ [] := List.cons_ne_nil _ _
    rw [hbound, List.mapM_pure, hkind, TypedValues.ofScalars, foldsCase, castsSlot, hkind]
    change Plan.ofStrings _ strategy ((v :: vs).map Scalar.display) = _
    rw [Plan.ofStrings_exact hrule hne, List.map_map]
    rfl

end Property

/-! ### Predicates of one value and of several -/

namespace Draft

variable {d : Draft} {p : Property} {strategy : Strategy} {values : List BoundValue}

/-- Taking up the plan of several values: what it adds is the choice between what the values would
have added, each with the name that it has here. -/
theorem isChoice_takeUp_comparing (h : 2 ≤ values.length) :
    (d.takeUp p.path.column (.comparing (p.target d.query.tableAlias) (p.foldsCase strategy)
      p.castsSlot values)).1.IsChoice (values.mapIdx fun i value =>
        p.alternative strategy d.query.tableAlias (d.names.count + i) value) := by
  rw [Plan.comparing_of_two_le h]
  -- the names that are drawn together are those that are drawn one after the other
  constructor
  · have hparts : ((Plan.equalities (p.target d.query.tableAlias) (p.foldsCase strategy)
          p.castsSlot values.length).map (·.map fun i =>
            (d.names.take p.path.column values.length).1.getD i "")).map (·.sql Sql.slot) =
        (values.mapIdx fun i value =>
          p.alternative strategy d.query.tableAlias (d.names.count + i) value).map (·.sql) := by
      apply List.ext_getElem
      · simp [Plan.length_equalities]
      · intro i hi _
        have hlt : i < values.length := by simpa [Plan.length_equalities] using hi
        simp [Plan.equalities, NameSource.take, Comparison.map, Property.alternative, hlt]
    exact congrArg (fun parts => "(" ++ String.intercalate " OR " parts ++ ")") hparts
  · have hparams : (d.takeUp p.path.column ⟨.anyOf (Plan.equalities (p.target d.query.tableAlias)
        (p.foldsCase strategy) p.castsSlot values.length), values⟩).1.params =
        values.mapIdx fun i value =>
          ⟨NameSource.nameAt p.path.column (d.names.count + i), value⟩ := by
      apply List.ext_getElem
      · simp [takeUp, Plan.fill, NameSource.take]
      · intro i hi _
        simp [takeUp, Plan.fill, NameSource.take]
    rw [hparams, List.mapIdx_eq_zipIdx_map, List.mapIdx_eq_zipIdx_map, List.flatMap_map]
    exact List.map_eq_flatMap

end Draft

namespace Drafting

variable {s : FilterSet} {schema : Schema} {d : Draft} {property : String} {p : Property}
  {strategy : Strategy}

/-- The filter of values that are compared with: all of them are bound, or one of them is no
number. -/
theorem perform_compile_many (hbackend : d.query.backend.isJsonCapable)
    (hp : s.get? property = some p) (hcolumn : schema.isJsonColumn p.path.column)
    (hstrategy : p.strategy = some strategy) (h : p.TakesSeveral strategy) {values : List Scalar}
    (hvalues : values ≠ []) :
    (compile s schema property (some (.many values))).perform d =
      match values.mapM (p.bound? strategy) with
      | none => (.ok (.ignored .invalidNumeric), d)
      | some bs =>
        let taken := d.takeUp p.path.column (.comparing (p.target d.query.tableAlias)
          (p.foldsCase strategy) p.castsSlot bs)
        (.ok (.applied taken.1), taken.2) := by
  rw [perform_compile_of_isJsonColumn hbackend hp hcolumn,
    Property.plan_of_takesSeveral h hstrategy d.query.tableAlias hvalues]
  cases values.mapM (p.bound? strategy) <;> rfl

/-- What is returned for values of a property. -/
def outcome (s : FilterSet) (schema : Schema) (d : Draft) (property : String)
    (values : List Scalar) : Except FilterError Outcome :=
  ((compile s schema property (some (.many values))).perform d).1

/-- The filter of one value, after some more names have been drawn. -/
theorem outcome_ahead (hbackend : d.query.backend.isJsonCapable)
    (hp : s.get? property = some p) (hcolumn : schema.isJsonColumn p.path.column)
    (hstrategy : p.strategy = some strategy) (h : p.TakesSeveral strategy) (n : Nat) (v : Scalar) :
    outcome s schema (d.ahead n) property [v] =
      match p.bound? strategy v with
      | none => .ok (.ignored .invalidNumeric)
      | some b =>
        .ok (.applied (p.alternative strategy d.query.tableAlias (d.names.count + n) b)) := by
  rw [outcome, perform_compile_many (d := d.ahead n) hbackend hp hcolumn hstrategy h
    (List.cons_ne_nil v []), List.mapM_cons, List.mapM_nil]
  cases p.bound? strategy v <;> rfl

/-- The filter of values is the choice between the filters of each of them: it is applied if they
are, with the names that are next for each, and the values are refused as a whole if they are
not. -/
structure Chooses (s : FilterSet) (schema : Schema) (d : Draft) (property : String)
    (values : List Scalar) : Prop where
  applied_iff : (∃ predicate, outcome s schema d property values = .ok (.applied predicate)) ↔
    ∀ v ∈ values, ∃ predicate, outcome s schema d property [v] = .ok (.applied predicate)
  isChoice : ∀ predicate, outcome s schema d property values = .ok (.applied predicate) →
    ∃ alternatives, predicate.IsChoice alternatives ∧ alternatives.length = values.length ∧
      ∀ i v alternative, values[i]? = some v → alternatives[i]? = some alternative →
        outcome s schema (d.ahead i) property [v] = .ok (.applied alternative)
  refused : (∀ predicate, outcome s schema d property values ≠ .ok (.applied predicate)) →
    (compile s schema property (some (.many values))).perform d =
      (.ok (.ignored .invalidNumeric), d)

variable {values : List Scalar}

/-- Values that are compared with are chosen from. -/
theorem chooses_of_takesSeveral (hbackend : d.query.backend.isJsonCapable)
    (hp : s.get? property = some p) (hcolumn : schema.isJsonColumn p.path.column)
    (hstrategy : p.strategy = some strategy) (h : p.TakesSeveral strategy)
    (hseveral : 2 ≤ values.length) : Chooses s schema d property values := by
  have hne : values ≠ [] := by
    rintro rfl
    simp at hseveral
  have hmany := perform_compile_many hbackend hp hcolumn hstrategy h hne
  have hsingle := outcome_ahead hbackend hp hcolumn hstrategy h
  cases hbs : values.mapM (p.bound? strategy) with
  | none =>
    -- a value that cannot be bound has no filter of its own either
    rw [hbs] at hmany
    have hrefused (predicate : Predicate) :
        outcome s schema d property values ≠ .ok (.applied predicate) := by
      rw [outcome, hmany]
      nofun
    obtain ⟨v, hv, hnone⟩ := Text.mapM_eq_none_iff.1 hbs
    refine ⟨⟨?_, fun hall => ?_⟩, fun predicate happlied => absurd happlied (hrefused predicate),
      fun _ => hmany⟩
    · rintro ⟨predicate, happlied⟩
      exact absurd happlied (hrefused predicate)
    · obtain ⟨predicate, happlied⟩ := hall v hv
      have hignored := hsingle 0 v
      rw [hnone] at hignored
      cases hignored.symm.trans happlied
  | some bs =>
    rw [hbs] at hmany
    have hbound := Text.mapM_eq_some_iff.1 hbs
    have happlied : outcome s schema d property values = .ok (.applied _) :=
      congrArg Prod.fst hmany
    refine ⟨⟨fun _ v hv => ?_, fun _ => ⟨_, happlied⟩⟩, fun predicate hpredicate => ?_,
      fun hnone => absurd happlied (hnone _)⟩
    · obtain ⟨b, hb⟩ : ∃ b, p.bound? strategy v = some b := by
        by_contra! hnone
        have := Text.mapM_eq_none_iff.2 ⟨v, hv, Option.eq_none_iff_forall_ne_some.2 hnone⟩
        rw [hbs] at this
        cases this
      have hone := hsingle 0 v
      rw [hb] at hone
      exact ⟨_, hone⟩
    · -- the value at a place is bound under the name that comes that many names later
      obtain rfl := Outcome.applied.inj (Except.ok.inj (happlied.symm.trans hpredicate))
      refine ⟨_, Draft.isChoice_takeUp_comparing (hbound.length_eq ▸ hseveral), ?_, ?_⟩
      · rw [List.length_mapIdx, hbound.length_eq]
      · intro i v alternative hv halternative
        obtain ⟨b, hb, rfl⟩ : ∃ b, bs[i]? = some b ∧
            p.alternative strategy d.query.tableAlias (d.names.count + i) b = alternative := by
          simpa [List.getElem?_mapIdx] using halternative
        have hvb : p.bound? strategy v = some b := by
          obtain ⟨hi, rfl⟩ := List.getElem?_eq_some_iff.1 hv
          obtain ⟨hi', rfl⟩ := List.getElem?_eq_some_iff.1 hb
          exact hbound.get hi hi'
        rw [hsingle, hvb]

/-- The filter of several values is the choice between the filters of each of them, or several
texts are not taken. -/
theorem perform_compile_several (hbackend : d.query.backend.isJsonCapable)
    (hp : s.get? property = some p) (hcolumn : schema.isJsonColumn p.path.column)
    (hstrategy : p.strategy = some strategy) (values : List Scalar)
    (hseveral : 2 ≤ values.length) :
    (p.kind = .int ∨ p.kind = .float ∨ p.kind = .string ∧ strategy.rule = .exact →
      Chooses s schema d property values) ∧
    (p.kind = .string → strategy.rule ≠ .exact →
      (compile s schema property (some (.many values))).perform d =
        (.ok (.ignored (.unsupportedMultiValueStrategy strategy.rule.token)), d)) := by
  refine ⟨fun h => chooses_of_takesSeveral hbackend hp hcolumn hstrategy h hseveral,
    fun hkind hrule => ?_⟩
  have hplan : p.plan d.query.tableAlias (.many values) =
      .error (.unsupportedMultiValueStrategy strategy.rule.token) := by
    rw [Property.plan_eq_bind hstrategy, hkind]
    obtain ⟨v, vs, rfl⟩ := List.exists_cons_of_length_pos (by omega : 0 < values.length)
    exact Plan.ofStrings_several hrule (by rwa [List.length_map])
  rw [perform_compile_of_isJsonColumn hbackend hp hcolumn, hplan]

/-- A number and a text that writes one, where three names have been drawn before. -/
theorem perform_compile_several_levels : ∃ s,
    FilterSet.ofEntries [("data.level", ⟨some "int", none, false⟩)] = .ok s ∧
      (∃ predicate, outcome s ⟨"items", "i", .ofList [("data", .jsonb)]⟩
        ((Draft.new "items" "i" .postgres).ahead 3) "data.level" [.int 1, .text " 2 "] =
          .ok (.applied predicate) ∧
        predicate.params = [⟨"data_p3", .int 1⟩, ⟨"data_p4", .int 2⟩]) ∧
      Chooses s ⟨"items", "i", .ofList [("data", .jsonb)]⟩
        ((Draft.new "items" "i" .postgres).ahead 3) "data.level" [.int 1, .text " 2 "] := by
  have h : FilterSet.ofEntries [("data.level", ⟨some "int", none, false⟩)] = .ok _ := rfl
  have hchoice {s : FilterSet} {p : Property} (hp : s.get? "data.level" = some p)
      (hcolumn : Schema.isJsonColumn ⟨"items", "i", .ofList [("data", .jsonb)]⟩ p.path.column)
      (hstrategy : p.strategy = some ⟨.exact, true⟩) :=
    perform_compile_several (d := (Draft.new "items" "i" .postgres).ahead 3) rfl hp hcolumn
      hstrategy [.int 1, .text " 2 "] (by decide)
  exact ⟨_, h, ⟨_, rfl, rfl⟩, (hchoice rfl rfl rfl).1 (.inl rfl)⟩

end Drafting

end PropertyFilter
