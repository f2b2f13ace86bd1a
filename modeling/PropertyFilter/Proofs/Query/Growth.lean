import PropertyFilter.Proofs.Drafting.Effects
import PropertyFilter.Proofs.Query.Alignment
import PropertyFilter.Proofs.Query.Conjunction

/-!
# Growing queries

The text of a query only grows. An applied filter adds its own fragment behind what is there, and
the positions in the fragment are those behind all positions so far, so none of them shifts. Any
other filter leaves the text alone.

## Main definitions

* `Sql.positions`, `Query.positions` — the positions in a text, and in the conditions of a query
* `Draft.Reached` — the drafts that calls make of a new one
* `Query.GrowsBy` — how a query grows by an applied filter

## Main results

* `Draft.Built.render_sql_append` — what is bound later changes nothing in a condition
* `Draft.Built.growsBy` — one more condition comes behind all others
* `Drafting.grows_filterProperty` — a filter adds its fragment to what calls have made, or nothing
-/

namespace PropertyFilter

open Sql Relation

/-! ### Positions -/

/-- The positions in a text, outside of literals, in the order in which they stand there. -/
def Sql.positions (text : String) : List Nat := (scan text.toList).filterMap Token.index?

/-- The positions in the conditions of a query. -/
def Query.positions (q : Query) : List Nat :=
  match q.whereClause with
  | none => []
  | some clause => Sql.positions (Placeholder.render (q.params.map (·.name)) clause)

/-- A bound name keeps its position when other names are bound behind it. -/
theorem Placeholder.fill_append_of_mem {names more : List String} {name : String}
    (hnodup : (names ++ more).Nodup) (h : name ∈ names) :
    fill (names ++ more) (.slot name) = fill names (.slot name) := by
  obtain ⟨i, hi⟩ := List.mem_iff_getElem?.1 h
  have hlt : i < names.length := (List.getElem?_eq_some_iff.1 hi).1
  have happend : (names ++ more)[i]? = some name := by rwa [List.getElem?_append_left hlt]
  have hold : position? names name = some (i + 1) :=
    position?_of_getElem? (List.nodup_append.1 hnodup).1 hi
  have hnew : position? (names ++ more) name = some (i + 1) :=
    position?_of_getElem? hnodup happend
  simp only [fill, hold, hnew]

/-- The names that are bound behind others have the positions behind theirs. -/
theorem Placeholder.exists_mem_getElem?_append_iff {names more : List String} {i : Nat}
    (hnodup : (names ++ more).Nodup) : (∃ name ∈ more, (names ++ more)[i]? = some name) ↔
      names.length ≤ i ∧ i < names.length + more.length := by
  constructor
  · rintro ⟨name, hname, hi⟩
    have hlt : i < (names ++ more).length := (List.getElem?_eq_some_iff.1 hi).1
    refine ⟨Nat.le_of_not_lt fun hless => ?_, by rwa [List.length_append] at hlt⟩
    -- at a smaller position there is another name
    rw [List.getElem?_append_left hless] at hi
    exact List.disjoint_of_nodup_append hnodup (List.mem_of_getElem? hi) hname
  · rintro ⟨hle, hlt⟩
    have hmore : i - names.length < more.length := by omega
    refine ⟨_, List.getElem_mem hmore, ?_⟩
    rw [List.getElem?_append_right hle, List.getElem?_eq_getElem hmore]

/-! ### Conditions that stay -/

namespace Draft.Built

open Condition (clauseTokens)
open Placeholder (fill render)

variable {d : Draft} {conditions : List (Condition String)} {c : Condition String}

/-- What is bound later changes nothing in the text of a condition. -/
theorem render_sql_append (hd : d.Built conditions) (ha : isIdentifier d.query.tableAlias)
    (hc : c ∈ conditions) {more : List String}
    (hnodup : (d.query.params.map (·.name) ++ more).Nodup) :
    render (d.query.params.map (·.name) ++ more) (c.sql Sql.slot) =
      render (d.query.params.map (·.name)) (c.sql Sql.slot) := by
  have htokens : c.tokens (fill (d.query.params.map (·.name) ++ more) ∘ Token.slot) =
      c.tokens (fill (d.query.params.map (·.name)) ∘ Token.slot) := by
    refine Condition.tokens_congr fun name hname => ?_
    exact Placeholder.fill_append_of_mem hnodup (hd.mem_names_of_mem_slots hc hname)
  rw [← String.toList_inj, ← written_scan (render _ _).toList, hd.scan_render_sql ha hc, htokens,
    ← hd.scan_render_sql ha hc, written_scan]

/-- The positions in the text of a condition are those at which its names are bound. -/
theorem mem_positions_sql_iff (hd : d.Built conditions) (ha : isIdentifier d.query.tableAlias)
    (hc : c ∈ conditions) {k : Nat} :
    k ∈ Sql.positions (render (d.query.params.map (·.name)) (c.sql Sql.slot)) ↔
      1 ≤ k ∧ ∃ name ∈ c.slots, (d.query.params.map (·.name))[k - 1]? = some name := by
  rw [Sql.positions, hd.scan_render_sql ha hc, List.mem_filterMap]
  constructor
  · rintro ⟨t, ht, hindex⟩
    refine Condition.forall_mem_tokens ha (hd.isSafe c hc) (P := fun t => t.index? = some k → _)
      ?_ ?_ t ht hindex
    · intro t hfixed hindex
      cases hfixed <;> simp [Token.index?] at hindex
    · intro name hname hindex
      obtain ⟨j, hfill, hpos, -, hbound⟩ :=
        Placeholder.exists_fill_slot (hd.mem_names_of_mem_slots hc hname)
      rw [Function.comp_apply, hfill, Token.index?_position, Option.some.injEq] at hindex
      subst hindex
      exact ⟨hpos, name, hname, hbound⟩
  · rintro ⟨hpos, name, hname, hbound⟩
    have hindex := Placeholder.index?_fill_of_getElem? hd.nodup hbound
    rw [Nat.sub_add_cancel hpos] at hindex
    exact ⟨_, Condition.mem_tokens_of_mem_slots hname, hindex⟩

/-- The positions of a query are those of its conditions, one after the other. -/
theorem positions_eq (hd : d.Built conditions) (ha : isIdentifier d.query.tableAlias) :
    d.query.positions = conditions.flatMap fun c =>
      Sql.positions (render (d.query.params.map (·.name)) (c.sql Sql.slot)) := by
  unfold Query.positions
  cases hclause : d.query.whereClause with
  | none =>
    obtain rfl := hd.whereClause_eq_none_iff.1 hclause
    rfl
  | some clause =>
    -- the word between conditions has no positions
    have hand : (spacedWord "AND").flatMap (fun t => t.index?.toList) = [] := rfl
    have hparts : conditions.map (fun c => (c.tokens
          (fill (d.query.params.map (·.name)) ∘ Token.slot)).flatMap (fun t => t.index?.toList)) =
        conditions.map fun c =>
          Sql.positions (render (d.query.params.map (·.name)) (c.sql Sql.slot)) := by
      refine List.map_congr_left fun c hc => ?_
      rw [Sql.positions, hd.scan_render_sql ha hc, List.filterMap_eq_flatMap_toList]
    dsimp only
    rw [Sql.positions, hd.scan_render_clause ha hclause, List.filterMap_eq_flatMap_toList,
      clauseTokens, Text.flatMap_intercalate, hand, Text.nil_intercalate, List.map_map,
      List.flatMap_def]
    exact congrArg List.flatten hparts

/-- The text of a query has its conditions one after the other. -/
theorem toSql_eq (hd : d.Built conditions) (ha : isIdentifier d.query.tableAlias)
    (select : String) : d.query.toSql select =
      "SELECT " ++ select ++ " FROM " ++ d.query.table ++ " " ++ d.query.tableAlias ++
        if conditions = [] then ""
        else " WHERE " ++ String.intercalate " AND "
          (conditions.map fun c => render (d.query.params.map (·.name)) (c.sql Sql.slot)) := by
  unfold Query.toSql
  cases hclause : d.query.whereClause with
  | none => rw [if_pos (hd.whereClause_eq_none_iff.1 hclause), String.append_empty]
  | some clause =>
    have hne : conditions ≠ [] := by
      rintro rfl
      simp [hd.whereClause_eq_none_iff.2 rfl] at hclause
    simp only [if_neg hne, ← hd.render_clause ha hclause, String.append_assoc]

end Draft.Built

/-! ### One more condition -/

/-- How a query grows by an applied filter. Its parameters are bound behind those so far. Its
fragment stands alone behind the text so far, with positions for its own parameters, and all
positions so far stay where they are. -/
structure Query.GrowsBy (q : Query) (joint : String) (p : Predicate) (q' : Query) : Prop where
  params : q'.params = q.params ++ p.params
  text : ∀ select, q'.toSql select =
    q.toSql select ++ joint ++ Placeholder.render (q'.params.map (·.name)) p.sql
  fresh : ∀ k, k ∈ Sql.positions (Placeholder.render (q'.params.map (·.name)) p.sql) ↔
    q.params.length + 1 ≤ k ∧ k ≤ q.params.length + p.params.length
  kept : q'.positions =
    q.positions ++ Sql.positions (Placeholder.render (q'.params.map (·.name)) p.sql)

/-- One more condition comes behind all others. -/
theorem Draft.Built.growsBy {d d' : Draft} {conditions : List (Condition String)}
    {group : Condition String} {p : Predicate} (hd : d.Built conditions)
    (hd' : d'.Built (conditions ++ [group])) (ha : isIdentifier d.query.tableAlias)
    (hquery : d'.query = { d.query with
      predicates := d.query.predicates ++ [p.sql], params := d.query.params ++ p.params })
    (hsql : p.sql = group.sql Sql.slot)
    (hslots : ∀ name, name ∈ group.slots ↔ name ∈ p.params.map (·.name)) :
    d.query.GrowsBy (if conditions = [] then " WHERE " else " AND ") p d'.query := by
  have ha' : isIdentifier d'.query.tableAlias := by rwa [hquery]
  have hnames : d'.query.params.map (·.name) =
      d.query.params.map (·.name) ++ p.params.map (·.name) := by
    rw [hquery, List.map_append]
  have hnodup := hd'.nodup
  rw [hnames] at hnodup
  have hgroup : group ∈ conditions ++ [group] := List.mem_append_right _ List.mem_cons_self
  -- the conditions so far are rendered as before
  have hstay : ∀ c ∈ conditions,
      Placeholder.render (d'.query.params.map (·.name)) (c.sql Sql.slot) =
        Placeholder.render (d.query.params.map (·.name)) (c.sql Sql.slot) := by
    intro c hc
    rw [hnames, hd.render_sql_append ha hc hnodup]
  constructor
  case params => rw [hquery]
  case text =>
    intro select
    have hhead : "SELECT " ++ select ++ " FROM " ++ d'.query.table ++ " " ++ d'.query.tableAlias =
        "SELECT " ++ select ++ " FROM " ++ d.query.table ++ " " ++ d.query.tableAlias := by
      rw [hquery]
    rw [hd'.toSql_eq ha', hd.toSql_eq ha, hhead, if_neg (by simp), List.map_append,
      List.map_congr_left hstay, hsql]
    by_cases hnil : conditions = []
    · subst hnil
      simp [String.append_assoc]
    · rw [if_neg hnil, if_neg hnil, List.map_singleton, String.intercalate_append_of_ne_nil
        (by simpa using hnil) (List.cons_ne_nil _ _), String.intercalate_singleton]
      simp only [String.append_assoc]
  case fresh =>
    intro k
    rw [hsql, hd'.mem_positions_sql_iff ha' hgroup, hnames]
    simp only [hslots]
    rw [Placeholder.exists_mem_getElem?_append_iff hnodup, List.length_map, List.length_map]
    omega
  case kept =>
    have hold : (conditions.flatMap fun c =>
          Sql.positions (Placeholder.render (d'.query.params.map (·.name)) (c.sql Sql.slot))) =
        d.query.positions := by
      rw [hd.positions_eq ha, List.flatMap_def, List.flatMap_def]
      exact congrArg _ (List.map_congr_left fun c hc => congrArg Sql.positions (hstay c hc))
    rw [hd'.positions_eq ha', List.flatMap_append, hold, hsql, List.flatMap_singleton]

/-! ### Calls on a new draft -/

/-- The drafts that calls make of a new one, with the outcomes of the calls so far. Each call may be
for other filters and another schema. -/
inductive Draft.Reached (table tableAlias : String) (backend : Backend) :
    List (String × Outcome) → Draft → Prop where
  | new : Reached table tableAlias backend [] (Draft.new table tableAlias backend)
  | filterProperty {outcomes : List (String × Outcome)} {d d' : Draft}
      {entries : List (String × PropertyEntry)} {s : FilterSet} {schema : Schema}
      {property : String} {value : Option RequestValue} {result : Except FilterError Outcome}
      (hd : Reached table tableAlias backend outcomes d)
      (hs : FilterSet.ofEntries entries = .ok s)
      (hcall : (Drafting.filterProperty s schema property value).perform d = (result, d')) :
      Reached table tableAlias backend
        (outcomes ++ (result.toOption.map (property, ·)).toList) d'
  | apply {outcomes : List (String × Outcome)} {d d' : Draft}
      {entries : List (String × PropertyEntry)} {s : FilterSet} {schema : Schema}
      {request : Request} {result : Except FilterError (List (String × Outcome))}
      (hd : Reached table tableAlias backend outcomes d)
      (hs : FilterSet.ofEntries entries = .ok s)
      (hcall : (Drafting.apply s schema request).perform d = (result, d')) :
      Reached table tableAlias backend (outcomes ++ result.toOption.getD []) d'

namespace Draft.Reached

variable {table tableAlias : String} {backend : Backend} {outcomes : List (String × Outcome)}
  {d : Draft}

/-- A draft that calls have made holds safe conditions. -/
theorem exists_built (h : d.Reached table tableAlias backend outcomes) :
    ∃ conditions, d.Built conditions := by
  induction h with
  | new => exact ⟨[], built_new _ _ _⟩
  | filterProperty _ hs hcall ih =>
    obtain ⟨conditions, hbuilt⟩ := ih
    exact hbuilt.reflTransGen (FilterSet.isSafe_of_ofEntries hs)
      (Drafting.steps_filterProperty hcall).1
  | apply _ hs hcall ih =>
    obtain ⟨conditions, hbuilt⟩ := ih
    exact hbuilt.reflTransGen (FilterSet.isSafe_of_ofEntries hs) (Drafting.steps_apply hcall).1

/-- A draft that calls have made holds what the applied filters have. -/
theorem gains (h : d.Reached table tableAlias backend outcomes) :
    (Draft.new table tableAlias backend).Gains outcomes d := by
  induction h with
  | new => exact .refl _
  | filterProperty _ _ hcall ih => exact ih.trans (Drafting.steps_filterProperty hcall).2
  | apply _ _ hcall ih => exact ih.trans (Drafting.steps_apply hcall).2

/-- There are conditions if and only if some filter was applied. -/
theorem conditions_eq_nil_iff (h : d.Reached table tableAlias backend outcomes)
    {conditions : List (Condition String)} (hd : d.Built conditions) :
    conditions = [] ↔ ¬ outcomes.any (·.2.isApplied) := by
  have hpredicates := h.gains.predicates
  rw [hd.predicates] at hpredicates
  rw [← List.map_eq_nil_iff, hpredicates]
  simp [Draft.new, Query.new, Outcome.isApplied]

end Draft.Reached

/-! ### One more call -/

/-- The names in the group of an applied filter are those of its parameters. -/
theorem Property.Groups.mem_slots_iff {q : Property} {tableAlias : String} {value : RequestValue}
    {p : Predicate} {group : Condition String} (h : q.Groups tableAlias value p group)
    {name : String} : name ∈ group.slots ↔ name ∈ p.params.map (·.name) := by
  rw [h.slots]
  split
  · rw [List.mem_append, or_self]
  · rfl

namespace FilterSet

variable {s : FilterSet} {schema : Schema} {d d' : Draft} {property : String} {p : Predicate}

/-- Only a filter with a value is applied. -/
theorem filterProperty_none_ne_applied :
    s.filterProperty schema d property none ≠ .ok (.applied p, d') := by
  intro h
  obtain ⟨d₁, hcompile, -⟩ := filterProperty_eq_ok_iff.1 h
  rcases compile_cases hcompile with ⟨hnone, -⟩ | ⟨seed, plan, hjudge, -, -⟩
  · simp [Outcome.predicate?] at hnone
  · obtain ⟨-, v, q, hv, -⟩ := judge_eq_accepted_iff.1 hjudge
    simp at hv

/-- What a filter that is applied makes of a draft that holds conditions. -/
theorem growsBy_filterProperty {value : Option RequestValue} {conditions : List (Condition String)}
    (hs : s.IsSafe) (hd : d.Built conditions) (ha : isIdentifier d.query.tableAlias)
    (h : s.filterProperty schema d property value = .ok (.applied p, d')) :
    d.query.GrowsBy (if conditions = [] then " WHERE " else " AND ") p d'.query := by
  obtain ⟨hquery, -, -⟩ := registers_of_filterProperty h
  cases value with
  | none => exact absurd h filterProperty_none_ne_applied
  | some value =>
    rcases built_filterProperty hs hd h with ⟨hnone, -⟩ | ⟨p', q, group, heq, -, hgroup, hbuilt⟩
    · simp [Outcome.predicate?] at hnone
    · obtain rfl := Outcome.applied.inj heq
      exact hd.growsBy hbuilt ha hquery hgroup.sql fun name => hgroup.mem_slots_iff

end FilterSet

/-- A call for one more filter on what calls have made of a new draft. An applied filter adds its
fragment behind the text so far, and any other leaves the text as it was. -/
theorem Drafting.grows_filterProperty {table tableAlias : String} {backend : Backend}
    {outcomes : List (String × Outcome)} {d : Draft} {entries : List (String × PropertyEntry)}
    {s : FilterSet} (ha : isIdentifier tableAlias)
    (hd : d.Reached table tableAlias backend outcomes) (hs : FilterSet.ofEntries entries = .ok s)
    (schema : Schema) (property : String) (value : Option RequestValue) : ∃ result d',
    (filterProperty s schema property value).perform d = (result, d') ∧
      match result with
      | .ok (.applied p) =>
        d.query.GrowsBy (if outcomes.any (·.2.isApplied) then " AND " else " WHERE ") p d'.query
      | _ => ∀ select, d'.query.toSql select = d.query.toSql select := by
  rw [perform_filterProperty]
  cases h : s.filterProperty schema d property value with
  | error e => exact ⟨.error e, d, rfl, fun select => rfl⟩
  | ok after =>
    obtain ⟨o, d'⟩ := after
    refine ⟨.ok o, d', rfl, ?_⟩
    have hregisters := FilterSet.registers_of_filterProperty h
    cases o with
    | applied p =>
      obtain ⟨conditions, hbuilt⟩ := hd.exists_built
      have hgrows := FilterSet.growsBy_filterProperty (FilterSet.isSafe_of_ofEntries hs) hbuilt
        (hd.gains.tableAlias ▸ ha) h
      simpa only [hd.conditions_eq_nil_iff hbuilt, ite_not] using hgrows
    | ignored reason => exact fun select => by rw [hregisters.1]
    | skipped reason => exact fun select => by rw [hregisters]

/-- A filter for two numbers grows a query that asks for a word. -/
theorem Drafting.grows_filterProperty_two : ∃ s outcomes d p d',
    FilterSet.ofEntries [("data.name", ⟨none, some "word_start", false⟩),
      ("data.size", ⟨some "int", none, false⟩)] = .ok s ∧
    d.Reached "items" "i" .postgres outcomes ∧
    (filterProperty s ⟨"items", "i", .ofList [("data", .json)]⟩ "data.size"
      (some (.many [.int 1, .int 2]))).perform d = (.ok (.applied p), d') ∧
    d.query.params.length = 1 ∧ p.params.length = 2 ∧ d.query.GrowsBy " AND " p d'.query := by
  have hs : FilterSet.ofEntries [("data.name", ⟨none, some "word_start", false⟩),
      ("data.size", ⟨some "int", none, false⟩)] = .ok _ := rfl
  -- the draft after a filter for a word
  have hword {entries : List (String × PropertyEntry)} {s : FilterSet}
      (hs : FilterSet.ofEntries entries = .ok s) : Draft.Reached "items" "i" .postgres _
        ((filterProperty s ⟨"items", "i", .ofList [("data", .json)]⟩ "data.name"
          (some (.one (.text "x")))).perform (Draft.new "items" "i" .postgres)).2 :=
    .filterProperty .new hs (Prod.eta _).symm
  obtain ⟨result, d', hperform, hgrows⟩ := grows_filterProperty (by decide) (hword hs) hs
    ⟨"items", "i", .ofList [("data", .json)]⟩ "data.size" (some (.many [.int 1, .int 2]))
  obtain ⟨rfl, rfl⟩ := Prod.mk.inj hperform
  exact ⟨_, _, _, _, _, hs, hword hs, rfl, rfl, rfl, hgrows⟩

end PropertyFilter
