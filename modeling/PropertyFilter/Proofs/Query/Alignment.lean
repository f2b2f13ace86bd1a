import PropertyFilter.Proofs.Query.Tokens

/-!
# Positions and parameters

In the text of a query every position stands for the parameter that the conditions named there,
and every parameter that is bound has a position in the text.

## Main definitions

* `Sql.Token.code`, `Sql.Token.index?` — what stands outside literals, and a position as a number
* `Placeholder.Fills` — what may become of a token when positions take the place of names
* `Placeholder.Aligned` — a text in which positions and names agree

## Main results

* `Draft.Built.aligned` — the text of a draft that was built from nothing is aligned
* `FilterSet.aligned_run` — so is the text after any run
-/

namespace PropertyFilter

open Sql

/-! ### Texts with positions -/

namespace Sql.Token

/-- What of a token stands outside literals. -/
def code : Token → List Char
  | literal _ => []
  | t => t.text

/-- The number of a position. -/
def index? : Token → Option Nat
  | position digits => some (Nat.ofDigitChars 10 digits.toList 0)
  | _ => none

theorem index?_position (n : Nat) : (position (toString n)).index? = some n := by
  simp [index?]

end Sql.Token

namespace Placeholder

/-- What may become of a token of the conditions: a name becomes the position at which it is
bound, and nothing else changes. -/
inductive Fills (names : List String) : Token → Token → Prop where
  | same {t : Token} (hname : ∀ name, t ≠ .slot name) (hposition : t.index? = none) :
      Fills names t t
  | position {name : String} {t : Token} {k : Nat} (hindex : t.index? = some k) (hpos : 1 ≤ k)
      (hbound : names[k - 1]? = some name) : Fills names (.slot name) t

/-- A text in which positions and names agree: no name is left, the positions are those of the
names, and each stands where the clause has its name. -/
structure Aligned (names : List String) (clause text : String) : Prop where
  colon : ∀ t ∈ scan text.toList, ':' ∈ t.code → t = .cast "TEXT"
  mem_positions : ∀ k, k ∈ (scan text.toList).filterMap Token.index? ↔ 1 ≤ k ∧ k ≤ names.length
  inPlace : List.Forall₂ (Fills names) (scan clause.toList) (scan text.toList)

variable {names : List String} {t : Token}

/-- Fixed tokens have no colon outside literals, except in the cast to text. -/
theorem colon_of_isFixed (ht : t.isProper) (h : t.IsFixed) (hcolon : ':' ∈ t.code) :
    t = .cast "TEXT" := by
  cases h with
  | word w =>
    simp only [Token.isProper, Bool.and_eq_true, List.all_eq_true] at ht
    exact absurd (ht.2 ':' hcolon) (by decide)
  | mark c hc =>
    obtain rfl : ':' = c := by simpa [Token.code] using hcolon
    exact absurd hc (by decide)
  | text => rfl
  | wildcard content _ => simp [Token.code] at hcolon
  | path path _ => simp [Token.code] at hcolon

theorem colon_notMem_position (n : Nat) : ':' ∉ (Token.position (toString n)).code := by
  intro hcolon
  have hproper := isProper_position n
  simp only [Token.isProper, Bool.and_eq_true, List.all_eq_true] at hproper
  have hdigits : ':' ∈ (toString n).toList := by simpa [Token.code] using hcolon
  exact absurd (hproper.2 ':' hdigits) (by decide)

/-- Among distinct names each becomes the position at which it is bound. -/
theorem index?_fill_of_getElem? {name : String} {i : Nat} (hnodup : names.Nodup)
    (h : names[i]? = some name) : (fill names (.slot name)).index? = some (i + 1) := by
  rw [fill, position?_of_getElem? hnodup h]
  exact Token.index?_position (i + 1)

theorem fills_of_isFixed (h : t.IsFixed) : Fills names t (fill names t) := by
  rw [fill_of_isFixed h]
  cases h <;> exact .same (by simp) rfl

end Placeholder

/-! ### Texts of drafts -/

namespace Draft.Built

open Condition (clauseTokens)
open Placeholder

variable {d : Draft} {conditions : List (Condition String)} {clause : String}

theorem params_eq_nil (hd : d.Built conditions) (h : d.query.whereClause = none) :
    d.query.params = [] := by
  obtain rfl := hd.whereClause_eq_none_iff.1 h
  -- a parameter would have a name that some condition uses
  have hnames : d.query.params.map (·.name) = [] := by
    rw [List.eq_nil_iff_forall_not_mem]
    intro name hname
    simpa using (hd.mem_names name).1 hname
  simpa using hnames

/-- Filled tokens have no colon outside literals, except in the cast to text. -/
theorem colon_of_mem_filledTokens (hd : d.Built conditions)
    (ha : isIdentifier d.query.tableAlias) :
    ∀ t ∈ d.query.filledTokens conditions, ':' ∈ t.code → t = .cast "TEXT" := by
  refine hd.forall_mem_filledTokens ha (fun t ht hfixed => colon_of_isFixed ht hfixed) ?_
  intro k _ _ hcolon
  exact absurd hcolon (colon_notMem_position k)

/-- The positions in filled tokens are those of the parameters. -/
theorem mem_positions_iff (hd : d.Built conditions) (ha : isIdentifier d.query.tableAlias)
    (k : Nat) : k ∈ (d.query.filledTokens conditions).filterMap Token.index? ↔
      1 ≤ k ∧ k ≤ d.query.params.length := by
  constructor
  · intro hk
    obtain ⟨t, ht, hindex⟩ := List.mem_filterMap.1 hk
    refine hd.forall_mem_filledTokens ha
      (P := fun t => t.index? = some k → 1 ≤ k ∧ k ≤ d.query.params.length) ?_ ?_ t ht hindex
    · intro t _ hfixed hindex
      cases hfixed <;> simp [Token.index?] at hindex
    · intro j hpos hle hindex
      rw [Token.index?_position, Option.some.injEq] at hindex
      exact hindex ▸ ⟨hpos, hle⟩
  · rintro ⟨hpos, hle⟩
    -- the position is that of the name bound there, which occurs in the clause
    have hlt : k - 1 < (d.query.params.map (·.name)).length := by
      rw [List.length_map]
      omega
    have hget := List.getElem?_eq_getElem hlt
    have hslot := hd.mem_clauseTokens (List.mem_of_getElem? hget)
    have hindex := index?_fill_of_getElem? hd.nodup hget
    rw [Nat.sub_add_cancel hpos] at hindex
    exact List.mem_filterMap.2 ⟨_, List.mem_map_of_mem hslot, hindex⟩

/-- Every position stands where the clause has its name. -/
theorem forall₂_fills (hd : d.Built conditions) (ha : isIdentifier d.query.tableAlias) :
    List.Forall₂ (Fills (d.query.params.map (·.name))) (clauseTokens .slot conditions)
      (d.query.filledTokens conditions) := by
  rw [Query.filledTokens, List.forall₂_map_right_iff, List.forall₂_same]
  refine hd.forall_mem_clauseTokens ha (fun t => fills_of_isFixed) fun name hname => ?_
  obtain ⟨k, hfill, hpos, -, hbound⟩ := exists_fill_slot hname
  rw [hfill]
  exact .position (Token.index?_position k) hpos hbound

/-- The text of a draft that was built from nothing is aligned. -/
theorem aligned (hd : d.Built conditions) (ha : isIdentifier d.query.tableAlias)
    (h : d.query.whereClause = some clause) :
    Aligned (d.query.params.map (·.name)) clause
      (render (d.query.params.map (·.name)) clause) where
  colon := by
    rw [hd.scan_render ha h]
    exact hd.colon_of_mem_filledTokens ha
  mem_positions := by
    rw [hd.scan_render ha h, List.length_map]
    exact hd.mem_positions_iff ha
  inPlace := by
    rw [hd.scan_render ha h, hd.scan_clause ha h]
    exact hd.forall₂_fills ha

end Draft.Built

/-! ### Texts of runs -/

/-- A query with a parameter for every position in its text and a position for every parameter;
without conditions it has neither. -/
def Query.IsAligned (q : Query) : Prop :=
  match q.whereClause with
  | none => q.params = []
  | some clause => ∃ text, Placeholder.Aligned (q.params.map (·.name)) clause text ∧
      ∀ select, q.toSql select =
        "SELECT " ++ select ++ " FROM " ++ q.table ++ " " ++ q.tableAlias ++ " WHERE " ++ text

theorem Draft.Built.isAligned {d : Draft} {conditions : List (Condition String)}
    (hd : d.Built conditions) (ha : isIdentifier d.query.tableAlias) : d.query.IsAligned := by
  unfold Query.IsAligned
  split
  · rename_i hnone
    exact hd.params_eq_nil hnone
  · rename_i clause hclause
    refine ⟨_, hd.aligned ha hclause, fun select => ?_⟩
    simp only [Query.toSql, hclause]

/-- After any calls on a new draft, positions and parameters agree. -/
theorem FilterSet.aligned_run {entries : List (String × PropertyEntry)} {s : FilterSet}
    (h : ofEntries entries = .ok s) (schema : Schema) (table : String) {tableAlias : String}
    (ha : isIdentifier tableAlias) (backend : Backend) (calls : List Call) :
    (s.run schema (Draft.new table tableAlias backend) calls).query.IsAligned := by
  obtain ⟨conditions, hbuilt⟩ :=
    exists_built_run (isSafe_of_ofEntries h) schema table tableAlias backend calls
  refine hbuilt.isAligned ?_
  rw [tableAlias_run]
  exact ha

/-- A key may hold what looks like the name of a parameter. -/
theorem FilterSet.aligned_run_colon_key : ∃ s,
    ofEntries [("data.k:data_p0", ⟨none, some "word_start", false⟩)] = .ok s ∧
      (s.run ⟨"items", "i", .ofList [("data", .json)]⟩ (Draft.new "items" "i" .postgres)
        [.compile "data.k:data_p0" (some (.one (.text "x"))),
          .filterProperty "data.k:data_p0" (some (.one (.text "y")))]).query.IsAligned := by
  have h : ofEntries [("data.k:data_p0", ⟨none, some "word_start", false⟩)] = .ok _ := rfl
  exact ⟨_, h, aligned_run h _ _ (by decide) _ _⟩

end PropertyFilter
