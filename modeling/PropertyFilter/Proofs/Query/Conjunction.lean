import PropertyFilter.Proofs.Condition.Formula
import PropertyFilter.Proofs.Draft.Groups
import PropertyFilter.Proofs.Query.Tokens
import PropertyFilter.Proofs.Settings

/-!
# Conjunctions

The clause of a query, read as a database reads it, asks for one group of comparisons for each
filter that was applied: all groups have to hold, and of each group any comparison.

## Main definitions

* `Sql.IsConjunction` — a text that is the conjunction of groups
* `FilterSet.Conjoins` — a query that is the conjunction of the groups of applied filters

## Main results

* `Condition.joinDepths_and_clauseTokens`, `Condition.joinDepths_or_clauseTokens` — the words that
  join a clause
* `Draft.Built.isConjunction` — the clause of a draft is the conjunction of its conditions
* `Settings.conjoins_apply` — the query of every request is such a conjunction
-/

namespace PropertyFilter

open Sql

/-! ### Parameters by position -/

namespace Placeholder

/-- What a name is written as: its position, if it is bound. -/
def number (names : List String) (name : String) : String :=
  ((position? names name).map toString).getD name

theorem named_fill_slot (names : List String) (name : String) :
    (fill names (.slot name)).named = .slot (number names name) := by
  cases h : position? names name <;> simp [fill, number, h, Token.named]

theorem isParameter_fill_slot (names : List String) (name : String) :
    (fill names (.slot name)).isParameter := by
  cases h : position? names name <;> simp [fill, h, Token.isParameter]

end Placeholder

theorem Sql.Token.named_of_isFixed {t : Token} (h : t.IsFixed) : t.named = t := by
  cases h <;> rfl

/-! ### Clauses -/

theorem Condition.comparisons_map_ne_nil {σ τ : Type} {c : Condition σ} (h : c.comparisons ≠ [])
    (f : σ → τ) : (c.map f).comparisons ≠ [] := by
  rwa [comparisons_map, Ne, List.map_eq_nil_iff]

/-- Filling a safe condition leaves it safe. -/
theorem Condition.IsSafe.map {σ τ : Type} {tableAlias : String} {c : Condition σ}
    (h : c.IsSafe tableAlias) (f : σ → τ) : (c.map f).IsSafe tableAlias := by
  rw [IsSafe, comparisons_map, List.forall_mem_map]
  intro comparison hmem
  obtain ⟨path, hpath, hreads⟩ := h comparison hmem
  exact ⟨path, hpath, hreads.map f⟩

namespace Condition

section Clauses

variable {σ : Type} {tableAlias : String} {slot : σ → Token} {conditions : List (Condition σ)}

theorem map_clauseTokens {g : Token → Token} (ha : isIdentifier tableAlias)
    (hsafe : ∀ c ∈ conditions, c.IsSafe tableAlias) (hg : ∀ t, t.IsFixed → g t = t) :
    (clauseTokens slot conditions).map g = clauseTokens (g ∘ slot) conditions := by
  have hparts : (conditions.map (·.tokens slot)).map (List.map g) =
      conditions.map (·.tokens (g ∘ slot)) := by
    rw [List.map_map]
    exact List.map_congr_left fun c hc => map_tokens ha (hsafe c hc) hg
  rw [clauseTokens, Text.map_intercalate, hparts, map_of_isFixed hg (isFixed_spacedWord "AND")]
  rfl

variable (ha : isIdentifier tableAlias) (hsafe : ∀ c ∈ conditions, c.IsSafe tableAlias)
  (hslot : ∀ x, (slot x).isParameter)

include ha hsafe hslot

/-- A clause has its parentheses in pairs. -/
theorem balanced_clauseTokens : Balanced (clauseTokens slot conditions) :=
  .intercalate (balanced_spacedWord "AND")
    (List.forall_mem_map.2 fun c hc => balanced_tokens ha (hsafe c hc) hslot)

/-- The words in a clause: those of its conditions, and perhaps the one between them. -/
theorem joinDepths_clauseTokens {w : String} : joinDepths w 0 (clauseTokens slot conditions) =
    (if "AND" = w then [0] else []).intercalate
      (conditions.map fun c => joinDepths w 0 (c.tokens slot)) := by
  have hsolid : ∀ part ∈ conditions.map (·.tokens slot), Solid part :=
    List.forall_mem_map.2 fun c hc => solid_tokens ha (hsafe c hc) hslot
  have hclosed : ∀ part ∈ conditions.map (·.tokens slot), depth part = 0 :=
    List.forall_mem_map.2 fun c hc => (balanced_tokens ha (hsafe c hc) hslot).closed
  rw [clauseTokens, joinDepths_intercalate hsolid hclosed, List.map_map]
  rfl

/-- Comparisons are joined inside of the conditions alone. -/
theorem joinDepths_or_clauseTokens : joinDepths "OR" 0 (clauseTokens slot conditions) =
    conditions.flatMap fun c => joinDepths "OR" 0 (c.tokens slot) := by
  rw [joinDepths_clauseTokens ha hsafe hslot, if_neg (by decide), Text.nil_intercalate,
    List.flatMap_def]

variable (hne : ∀ c ∈ conditions, c.comparisons ≠ [])

include hne

/-- Conditions are joined outside of parentheses. -/
theorem joinDepths_and_clauseTokens : joinDepths "AND" 0 (clauseTokens slot conditions) =
    List.replicate (conditions.length - 1) 0 := by
  have hquiet : conditions.map (fun c => joinDepths "AND" 0 (c.tokens slot)) =
      List.replicate conditions.length [] := by
    rw [List.map_eq_replicate_iff]
    intro c hc
    rw [joinDepths_tokens ha (hsafe c hc) hslot (hne c hc) (by decide) (by decide)]
    rfl
  rw [joinDepths_clauseTokens ha hsafe hslot, hquiet, if_pos rfl, Text.intercalate_replicate_nil]

/-- Comparisons are joined inside of parentheses. -/
theorem one_le_of_mem_joinDepths_or {d : Int}
    (h : d ∈ joinDepths "OR" 0 (clauseTokens slot conditions)) : 1 ≤ d := by
  rw [joinDepths_or_clauseTokens ha hsafe hslot] at h
  obtain ⟨c, hc, hd⟩ := List.mem_flatMap.1 h
  rw [joinDepths_tokens ha (hsafe c hc) hslot (hne c hc) (by decide) (by decide), if_pos rfl] at hd
  obtain rfl := List.eq_of_mem_replicate hd
  decide

end Clauses

section Formulas

variable {tableAlias : String} {conditions : List (Condition String)}

/-- A clause is read as all of its conditions. -/
theorem formula_ofTokens?_clauseTokens (ha : isIdentifier tableAlias)
    (hsafe : ∀ c ∈ conditions, c.IsSafe tableAlias) (hne : ∀ c ∈ conditions, c.comparisons ≠ []) :
    Formula.ofTokens? (clauseTokens .slot conditions) = allFormula? conditions := by
  have hwhole (op : Connective) : ∀ part ∈ conditions.map (·.tokens Token.slot),
      Whole op.word part := List.forall_mem_map.2 fun c hc =>
    whole_tokens op ha (hsafe c hc) (hne c hc)
  have hread : (conditions.map (·.tokens Token.slot)).mapM Formula.ofTokens? =
      conditions.mapM formula? := by
    rw [List.mapM_map]
    exact Text.mapM_congr fun c hc => formula_ofTokens?_tokens ha (hsafe c hc) (hne c hc)
  have hjoined : Formula.ofTokens? (clauseTokens .slot conditions) =
      ((conditions.map (·.tokens Token.slot)).mapM Formula.ofTokens?).bind (Formula.joined? .and) :=
    Formula.ofTokens?_intercalate (hwhole .or) (hwhole .and)
  rw [hjoined, hread, allFormula?]

end Formulas

end Condition

/-! ### The conjunction of conditions -/

/-- A text that is the conjunction of groups, with one fragment for each. Its parentheses come in
pairs; the fragments are joined outside of parentheses, and comparisons are joined inside of them
and inside of the fragments. As a formula, it holds if some comparison of every group does. -/
structure Sql.IsConjunction (text : String) (fragments : List String)
    (groups : List (Condition String)) : Prop where
  joined : text = String.intercalate " AND " fragments
  balanced : Balanced (scan text.toList)
  ands : joinDepths "AND" 0 (scan text.toList) = List.replicate (fragments.length - 1) 0
  ors : joinDepths "OR" 0 (scan text.toList) =
    fragments.flatMap fun fragment => joinDepths "OR" 0 (scan fragment.toList)
  inside : ∀ d ∈ joinDepths "OR" 0 (scan text.toList), 1 ≤ d
  formula : ∃ f, Formula.ofText? text = some f ∧ Condition.allFormula? groups = some f ∧
    ∀ holds, f.Holds holds ↔ ∀ group ∈ groups, ∃ c ∈ group.comparisons, holds c

namespace Draft.Built

open Condition (clauseTokens)
open Placeholder (fill render number)

variable {d : Draft} {conditions : List (Condition String)} {clause : String}

/-- The rendered text of a condition is read as its filled tokens. -/
theorem scan_render_sql (hd : d.Built conditions) (ha : isIdentifier d.query.tableAlias)
    {c : Condition String} (hc : c ∈ conditions) (names : List String) :
    scan (render names (c.sql Sql.slot)).toList = c.tokens (fill names ∘ Token.slot) := by
  have hsafe := hd.isSafe c hc
  have hspaced : Spaced (c.tokens Token.slot) := Condition.spaced_tokens ha hsafe fun x hx =>
    hd.isIdentifier_name (hd.mem_names_of_mem_slots hc hx)
  have hwritten : written (c.tokens .slot) = (c.sql Sql.slot).toList :=
    Condition.written_tokens hsafe fun x => by simp [Sql.slot]
  rw [Placeholder.scan_render hspaced hwritten.symm,
    Condition.map_tokens ha hsafe fun t => Placeholder.fill_of_isFixed]

theorem scan_render_clause (hd : d.Built conditions) (ha : isIdentifier d.query.tableAlias)
    (h : d.query.whereClause = some clause) (names : List String) :
    scan (render names clause).toList = clauseTokens (fill names ∘ Token.slot) conditions := by
  rw [Placeholder.scan_render (hd.spaced_clause ha) (hd.written_clause h),
    Condition.map_clauseTokens ha hd.isSafe fun t => Placeholder.fill_of_isFixed]

/-- Rendering a clause is rendering its conditions. -/
theorem render_clause (hd : d.Built conditions) (ha : isIdentifier d.query.tableAlias)
    (h : d.query.whereClause = some clause) (names : List String) :
    render names clause =
      String.intercalate " AND " (conditions.map fun c => render names (c.sql Sql.slot)) := by
  have hparts : (conditions.map (·.tokens (fill names ∘ Token.slot))).map written =
      (conditions.map fun c => render names (c.sql Sql.slot)).map String.toList := by
    rw [List.map_map, List.map_map]
    refine List.map_congr_left fun c hc => ?_
    rw [Function.comp_apply, ← hd.scan_render_sql ha hc names, written_scan, Function.comp_apply]
  have hand : written (spacedWord "AND") = " AND ".toList := by decide
  rw [← String.toList_inj, ← written_scan (render names clause).toList,
    hd.scan_render_clause ha h names, clauseTokens, written_intercalate, hparts, hand,
    String.toList_intercalate]

/-- The formula of a rendered clause asks for all of its conditions. -/
theorem formula_ofText?_render (hd : d.Built conditions) (ha : isIdentifier d.query.tableAlias)
    (hne : ∀ c ∈ conditions, c.comparisons ≠ []) (h : d.query.whereClause = some clause)
    (names : List String) : Formula.ofText? (render names clause) =
      Condition.allFormula? (conditions.map (·.map (number names))) := by
  have hnamed : Token.named ∘ fill names ∘ Token.slot = Token.slot ∘ number names :=
    funext fun name => Placeholder.named_fill_slot names name
  -- positions are read as names, so that these are the tokens of the numbered conditions
  have htokens : (clauseTokens (fill names ∘ Token.slot) conditions).map Token.named =
      clauseTokens .slot (conditions.map (·.map (number names))) := by
    rw [Condition.map_clauseTokens ha hd.isSafe fun t => Token.named_of_isFixed, hnamed,
      clauseTokens, clauseTokens, List.map_map]
    refine congrArg _ (List.map_congr_left fun c _ => ?_)
    exact (Condition.tokens_map (number names) Token.slot c).symm
  rw [Formula.ofText?, hd.scan_render_clause ha h names, htokens]
  refine Condition.formula_ofTokens?_clauseTokens ha ?_ ?_
  · exact List.forall_mem_map.2 fun c hc => (hd.isSafe c hc).map _
  · exact List.forall_mem_map.2 fun c hc => Condition.comparisons_map_ne_nil (hne c hc) _

/-- The clause of a draft is the conjunction of its conditions. -/
theorem isConjunction (hd : d.Built conditions) (ha : isIdentifier d.query.tableAlias)
    (hne : ∀ c ∈ conditions, c.comparisons ≠ []) (h : d.query.whereClause = some clause)
    (names : List String) : IsConjunction (render names clause)
      (conditions.map fun c => render names (c.sql Sql.slot))
      (conditions.map (·.map (number names))) := by
  have hscan := hd.scan_render_clause ha h names
  have hslot (x : String) : ((fill names ∘ Token.slot) x).isParameter :=
    Placeholder.isParameter_fill_slot names x
  have hsome : conditions ≠ [] := by
    rintro rfl
    simp [hd.whereClause_eq_none_iff.2 rfl] at h
  constructor
  case joined => exact hd.render_clause ha h names
  case balanced =>
    rw [hscan]
    exact Condition.balanced_clauseTokens ha hd.isSafe hslot
  case ands => rw [hscan, Condition.joinDepths_and_clauseTokens ha hd.isSafe hslot hne,
    List.length_map]
  case ors =>
    -- each fragment is read as the tokens that the condition has in the clause
    rw [hscan, Condition.joinDepths_or_clauseTokens ha hd.isSafe hslot, List.flatMap_map,
      List.flatMap_def, List.flatMap_def]
    refine congrArg _ (List.map_congr_left fun c hc => ?_)
    rw [hd.scan_render_sql ha hc names]
  case inside =>
    rw [hscan]
    exact fun _ => Condition.one_le_of_mem_joinDepths_or ha hd.isSafe hslot hne
  case formula =>
    have hgroups : ∀ c ∈ conditions.map (·.map (number names)), c.comparisons ≠ [] :=
      List.forall_mem_map.2 fun c hc => Condition.comparisons_map_ne_nil (hne c hc) _
    obtain ⟨f, hf⟩ := Condition.exists_allFormula?_eq_some
      (fun hnil => hsome (List.map_eq_nil_iff.1 hnil)) hgroups
    have hread : Formula.ofText? (render names clause) = some f :=
      (hd.formula_ofText?_render ha hne h names).trans hf
    exact ⟨f, hread, hf, fun holds => Condition.holds_allFormula? hf⟩

end Draft.Built

/-! ### Queries of requests -/

/-- A query that asks for the group of every applied filter of a request, in the order of their
names. If no filter was applied, it asks for nothing. -/
structure FilterSet.Conjoins (s : FilterSet) (request : Request)
    (filters : List (String × Predicate)) (q : Query) : Prop where
  ordered : (filters.map (·.1)).Pairwise (· < ·)
  clause : match q.whereClause with
    | none => filters = [] ∧ ∀ select, q.toSql select =
        "SELECT " ++ select ++ " FROM " ++ q.table ++ " " ++ q.tableAlias
    | some _ => filters ≠ [] ∧ ∃ text groups,
      List.Forall₂ (s.Groups q.tableAlias request.toList) filters groups ∧
      IsConjunction text
        (filters.map fun filter => Placeholder.render (q.params.map (·.name)) filter.2.sql)
        (groups.map (·.map (Placeholder.number (q.params.map (·.name))))) ∧
      ∀ select, q.toSql select =
        "SELECT " ++ select ++ " FROM " ++ q.table ++ " " ++ q.tableAlias ++ " WHERE " ++ text

/-- A draft that holds the groups of applied filters is their conjunction. -/
theorem Draft.Built.conjoins {d : Draft} {groups : List (Condition String)} {s : FilterSet}
    {request : Request} {filters : List (String × Predicate)} (hd : d.Built groups)
    (ha : isIdentifier d.query.tableAlias) (hordered : (filters.map (·.1)).Pairwise (· < ·))
    (hgroups : List.Forall₂ (s.Groups d.query.tableAlias request.toList) filters groups) :
    s.Conjoins request filters d.query where
  ordered := hordered
  clause := by
    have hempty : filters = [] ↔ groups = [] := by
      rw [← List.length_eq_zero_iff, hgroups.length_eq, List.length_eq_zero_iff]
    cases hclause : d.query.whereClause with
    | none =>
      refine ⟨hempty.2 (hd.whereClause_eq_none_iff.1 hclause), fun select => ?_⟩
      simp only [Query.toSql, hclause]
    | some clause =>
      -- the fragments are the texts of the groups
      have hfragments (names : List String) :
          filters.map (fun filter => Placeholder.render names filter.2.sql) =
            groups.map fun c => Placeholder.render names (c.sql Sql.slot) := by
        rw [← List.forall₂_eq_eq_eq, List.forall₂_map_left_iff, List.forall₂_map_right_iff]
        refine hgroups.imp fun filter c => ?_
        rintro ⟨p, value, -, -, hgroup⟩
        rw [hgroup.sql]
      have hne : ∀ c ∈ groups, c.comparisons ≠ [] := by
        refine ((List.forall₂_and_left groups filters).1
          (hgroups.flip.imp fun c filter hfilter => ⟨?_, hfilter⟩)).1
        obtain ⟨p, value, -, -, hgroup⟩ := hfilter
        exact hgroup.nonempty
      refine ⟨fun hnil => ?_, Placeholder.render (d.query.params.map (·.name)) clause, groups,
        hgroups, ?_, fun select => ?_⟩
      · simp [hd.whereClause_eq_none_iff.2 (hempty.1 hnil)] at hclause
      · rw [hfragments]
        exact hd.isConjunction ha hne hclause _
      · simp only [Query.toSql, hclause]

/-- The query of every request, for all settings that pass the check, is the conjunction of the
groups of its applied filters. -/
theorem Settings.conjoins_apply {file : SettingsFile} {url : Option String} {settings : Settings}
    {name : String} {r : Resource} (h : ofFile file url = .ok settings)
    (hr : settings.resource name = .ok r) (request : Request) : ∃ outcomes draft,
    r.filters.apply r.schema (Draft.new r.schema.table r.schema.tableAlias .postgres) request =
      .ok (outcomes, draft) ∧ outcomes.map (·.1) = request.keys ∧
        r.filters.Conjoins request (FilterSet.applied outcomes) draft.query := by
  have hsafe := isSafe_of_ofFile h hr
  obtain ⟨outcomes, draft, happly⟩ :=
    r.filters.exists_applyEach_new_eq_ok r.schema request.toList
  obtain ⟨-, halias, -⟩ := Draft.frame_of_reflTransGen (FilterSet.reflTransGen_applyEach happly)
  obtain ⟨hnames, groups, hbuilt, hgroups⟩ :=
    FilterSet.exists_groups_applyEach hsafe.filters (Draft.built_new _ _ _) happly
  rw [← halias] at hgroups
  refine ⟨outcomes, draft, happly, hnames, ?_⟩
  have hordered : ((FilterSet.applied outcomes).map (·.1)).Pairwise (· < ·) := by
    refine List.Pairwise.sublist (FilterSet.map_fst_applied_sublist outcomes) ?_
    rw [hnames]
    exact request.keys_sorted
  exact hbuilt.conjoins (halias ▸ hsafe.tableAlias) hordered hgroups

/-- A request for a word, for two numbers under a key with parentheses, and for a truth value. -/
theorem Settings.conjoins_apply_three : ∃ settings r,
    ofFile ⟨none, .ofList [("items", ⟨⟨"items", "i", .ofList [("data", .json)]⟩,
      .ofList [("data.name", ⟨none, some "word_start", false⟩),
        ("data.k)(", ⟨some "int", none, false⟩),
        ("data.open", ⟨some "bool", none, false⟩)]⟩)], .null⟩ none = .ok settings ∧
    settings.resource "items" = .ok r ∧ ∃ outcomes draft,
      r.filters.apply r.schema (Draft.new r.schema.table r.schema.tableAlias .postgres)
        (.ofList [("data.name", .one (.text "x")), ("data.k)(", .many [.int 1, .int 2]),
          ("data.open", .one (.bool true))]) = .ok (outcomes, draft) ∧
        (FilterSet.applied outcomes).map (·.1) = ["data.k)(", "data.name", "data.open"] ∧
        r.filters.Conjoins (.ofList [("data.name", .one (.text "x")),
          ("data.k)(", .many [.int 1, .int 2]), ("data.open", .one (.bool true))])
            (FilterSet.applied outcomes) draft.query := by
  have h : ofFile ⟨none, .ofList [("items", ⟨⟨"items", "i", .ofList [("data", .json)]⟩,
      .ofList [("data.name", ⟨none, some "word_start", false⟩),
        ("data.k)(", ⟨some "int", none, false⟩),
        ("data.open", ⟨some "bool", none, false⟩)]⟩)], .null⟩ none = .ok _ := rfl
  have hconjoins {r : Resource} (hr : resource _ "items" = .ok r) := conjoins_apply h hr
  obtain ⟨outcomes, draft, happly, -, hquery⟩ := hconjoins rfl (.ofList [("data.name",
    .one (.text "x")), ("data.k)(", .many [.int 1, .int 2]), ("data.open", .one (.bool true))])
  refine ⟨_, _, h, rfl, outcomes, draft, happly, ?_, hquery⟩
  -- all three were applied
  obtain ⟨rfl, -⟩ := Prod.mk.inj (Except.ok.inj happly)
  rfl

end PropertyFilter
