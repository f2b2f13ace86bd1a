import PropertyFilter.Proofs.Draft.Built
import PropertyFilter.Proofs.Query.Placeholder

/-!
# Tokens of queries

The text of a query that was built from nothing is the text of a list of tokens: those of its
head, and those of its conditions with positions in place of names.

## Main definitions

* `Condition.clauseTokens` — the tokens of the clause of several conditions
* `Query.headTokens` — the tokens in front of the clause

## Main results

* `Draft.Built.scan_clause`, `Draft.Built.scan_render` — the clause is read as those tokens
* `Draft.Built.scan_toSql` — and so is the text of the query
-/

namespace PropertyFilter

open Sql

/-! ### Filling fixed tokens and names -/

namespace Placeholder

variable {names : List String} {t : Token}

theorem fill_of_isFixed (h : t.IsFixed) : fill names t = t := by
  cases h <;> rfl

/-- A bound name becomes a position that leads back to it. -/
theorem exists_fill_slot {name : String} (h : name ∈ names) :
    ∃ k, fill names (.slot name) = .position (toString k) ∧ 1 ≤ k ∧ k ≤ names.length ∧
      names[k - 1]? = some name := by
  obtain ⟨k, hk⟩ := Option.isSome_iff_exists.1 (isSome_position?_iff.2 h)
  exact ⟨k, by simp [fill, hk], getElem?_of_position? hk⟩

end Placeholder

/-! ### The clause of a draft -/

/-- The tokens of the clause of several conditions. -/
def Condition.clauseTokens {σ : Type} (slot : σ → Token) (conditions : List (Condition σ)) :
    List Token :=
  (spacedWord "AND").intercalate (conditions.map (·.tokens slot))

namespace Draft.Built

variable {d : Draft} {conditions : List (Condition String)} {clause : String}

open Condition (clauseTokens)

/-- The clause is the text of the tokens of the conditions. -/
theorem written_clause (hd : d.Built conditions) (h : d.query.whereClause = some clause) :
    clause.toList = written (clauseTokens .slot conditions) := by
  unfold Query.whereClause at h
  split at h
  · simp at h
  · obtain rfl := Option.some.inj h
    have hparts : (conditions.map (·.tokens Token.slot)).map written =
        (conditions.map (·.sql Sql.slot)).map String.toList := by
      rw [List.map_map, List.map_map]
      refine List.map_congr_left fun c hc => ?_
      exact Condition.written_tokens (hd.isSafe c hc) fun x => by simp [Sql.slot]
    rw [clauseTokens, written_intercalate, hparts, String.toList_intercalate, hd.predicates]
    simp [spacedWord]

/-- They keep their bounds. -/
theorem spaced_clause (hd : d.Built conditions) (ha : isIdentifier d.query.tableAlias) :
    Spaced (clauseTokens .slot conditions) := by
  refine Spaced.intercalate (by decide) fun part hpart => ?_
  obtain ⟨c, hc, rfl⟩ := List.mem_map.1 hpart
  refine Condition.spaced_tokens ha (hd.isSafe c hc) fun x hx => ?_
  exact hd.isIdentifier_name (hd.mem_names_of_mem_slots hc hx)

/-- A clause has nothing but fixed tokens beside the names of parameters. -/
theorem forall_mem_clauseTokens (hd : d.Built conditions) (ha : isIdentifier d.query.tableAlias)
    {P : Token → Prop} (hfixed : ∀ t, t.IsFixed → P t)
    (hslots : ∀ name ∈ d.query.params.map (·.name), P (.slot name)) :
    ∀ t ∈ clauseTokens .slot conditions, P t := by
  intro t ht
  rcases Text.mem_of_mem_intercalate ht with hsep | ⟨part, hpart, ht⟩
  · exact hfixed t (isFixed_spacedWord "AND" t hsep)
  · obtain ⟨c, hc, rfl⟩ := List.mem_map.1 hpart
    exact Condition.forall_mem_tokens ha (hd.isSafe c hc) hfixed
      (fun x hx => hslots x (hd.mem_names_of_mem_slots hc hx)) t ht

/-- Every name of a parameter occurs in the clause. -/
theorem mem_clauseTokens (hd : d.Built conditions) {name : String}
    (h : name ∈ d.query.params.map (·.name)) : .slot name ∈ clauseTokens .slot conditions := by
  obtain ⟨c, hc, hslot⟩ := (hd.mem_names name).1 h
  exact Text.mem_intercalate_of_mem (List.mem_map_of_mem hc)
    (Condition.mem_tokens_of_mem_slots hslot)

/-- The clause is read as the tokens of the conditions. -/
theorem scan_clause (hd : d.Built conditions) (ha : isIdentifier d.query.tableAlias)
    (h : d.query.whereClause = some clause) :
    scan clause.toList = clauseTokens .slot conditions := by
  rw [hd.written_clause h, scan_written (hd.spaced_clause ha)]

end Draft.Built

/-! ### The text of a draft -/

/-- The tokens of the clause with positions in place of names. -/
def Query.filledTokens (q : Query) (conditions : List (Condition String)) : List Token :=
  (Condition.clauseTokens .slot conditions).map (Placeholder.fill (q.params.map (·.name)))

/-- The tokens in front of the clause, for what is selected. -/
def Query.headTokens (q : Query) (selected : List Token) : List Token :=
  .word "SELECT" :: .mark ' ' :: selected ++ spacedWord "FROM" ++
    [.word q.table, .mark ' ', .word q.tableAlias]

namespace Draft.Built

variable {d : Draft} {conditions : List (Condition String)} {clause : String}

open Condition (clauseTokens)
open Placeholder (fill render)

/-- The rendered clause is read as the filled tokens. -/
theorem scan_render (hd : d.Built conditions) (ha : isIdentifier d.query.tableAlias)
    (h : d.query.whereClause = some clause) :
    scan (render (d.query.params.map (·.name)) clause).toList =
      d.query.filledTokens conditions :=
  Placeholder.scan_render (hd.spaced_clause ha) (hd.written_clause h)

/-- In the filled tokens there is nothing but fixed tokens and positions of parameters. -/
theorem forall_mem_filledTokens (hd : d.Built conditions) (ha : isIdentifier d.query.tableAlias)
    {P : Token → Prop} (hfixed : ∀ t, t.isProper → t.IsFixed → P t)
    (hposition : ∀ k, 1 ≤ k → k ≤ d.query.params.length → P (.position (toString k))) :
    ∀ t ∈ d.query.filledTokens conditions, P t := by
  intro u hu
  obtain ⟨t, ht, rfl⟩ := List.mem_map.1 hu
  have hproper := (hd.spaced_clause ha).isProper t ht
  refine hd.forall_mem_clauseTokens ha (P := fun t => t.isProper → P (fill _ t)) ?_ ?_ t ht hproper
  · intro t hfix hproper
    rw [Placeholder.fill_of_isFixed hfix]
    exact hfixed t hproper hfix
  · intro name hname _
    obtain ⟨k, hfill, hpos, hle, -⟩ := Placeholder.exists_fill_slot hname
    rw [hfill]
    exact hposition k hpos (by simpa using hle)

theorem spaced_headTokens {q : Query} {selected : List Token} (ht : isIdentifier q.table)
    (ha : isIdentifier q.tableAlias) (hselected : Spaced selected) :
    Spaced (q.headTokens selected) := by
  have halias : Spaced [.word q.tableAlias] := .cons (isProper_word ha) (by decide) spaced_nil
  have htable : Spaced [.word q.table, .mark ' ', .word q.tableAlias] :=
    .cons (isProper_word ht) (.mark_cons (by decide)) (.mark_cons (by decide) halias)
  have hselect : Spaced (.word "SELECT" :: .mark ' ' :: (selected ++ _)) :=
    .cons (by decide) (.mark_cons (by decide))
      (.mark_cons (by decide) (hselected.between (w := "FROM") (by decide) htable))
  simpa [Query.headTokens] using hselect

/-- The text of a draft is read as the tokens of its head and of its conditions. -/
theorem scan_toSql (hd : d.Built conditions) (ht : isIdentifier d.query.table)
    (ha : isIdentifier d.query.tableAlias) {select : String} {selected : List Token}
    (hselected : Spaced selected) (hselect : select.toList = written selected) :
    scan (d.query.toSql select).toList = d.query.headTokens selected ++
      if conditions = [] then []
      else spacedWord "WHERE" ++ d.query.filledTokens conditions := by
  have hhead := spaced_headTokens ht ha hselected
  have hbase : ("SELECT " ++ select ++ " FROM " ++ d.query.table ++ " " ++
      d.query.tableAlias).toList = written (d.query.headTokens selected) := by
    simp [Query.headTokens, spacedWord, hselect]
  unfold Query.toSql
  cases hclause : d.query.whereClause with
  | none =>
    rw [if_pos (hd.whereClause_eq_none_iff.1 hclause), List.append_nil]
    exact hbase ▸ scan_written hhead
  | some clause =>
    -- there is a clause, so there are conditions
    have hne : conditions ≠ [] := by
      rintro rfl
      simp [hd.whereClause_eq_none_iff.2 rfl] at hclause
    have hfilled : Spaced (d.query.filledTokens conditions) :=
      Placeholder.spaced_map_fill (hd.spaced_clause ha)
    have htext : (render (d.query.params.map (·.name)) clause).toList =
        written (d.query.filledTokens conditions) := by
      rw [← hd.scan_render ha hclause, written_scan]
    have hall : Spaced (d.query.headTokens selected ++
        (spacedWord "WHERE" ++ d.query.filledTokens conditions)) :=
      hhead.between (by decide) hfilled
    have hwhere : " WHERE ".toList = written (spacedWord "WHERE") := by decide
    rw [if_neg hne, ← scan_written hall, String.toList_append, String.toList_append, hbase,
      hwhere, htext, written_append, written_append, List.append_assoc]

end Draft.Built

end PropertyFilter
