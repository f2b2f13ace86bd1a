import PropertyFilter.Condition.Meaning
import PropertyFilter.Proofs.Condition.Reading
import PropertyFilter.Proofs.Draft.Built
import PropertyFilter.Proofs.Sql.Pattern

/-!
# Values are found literally

The filter of one text holds of a stored text exactly if the value occurs there where the
strategy asks for it. Nothing in the value acts as a wildcard or as an escape character.

## Main definitions

* `MatchRule.Finds` — that a value occurs where a rule asks for it
* `Strategy.fold` — a text as a strategy compares it
* `Condition.patterns` — the patterns of a condition, once its slots have content

## Main results

* `Strategy.holds_condition_iff` — what the condition of a strategy means
* `FilterSet.finds_literally` — what the text of an applied filter means
-/

namespace PropertyFilter

open Sql

/-! ### What strategies ask for -/

/-- That a value occurs in a text where a rule asks for it. -/
def MatchRule.Finds (needle text : List Char) : MatchRule → Prop
  | exact => text = needle
  | anywhere => needle <:+: text
  | atStart => needle <+: text
  | atEnd => needle <:+ text
  | atWordStart => needle <+: text ∨ ' ' :: needle <:+: text

/-- A text as a strategy compares it. -/
def Strategy.fold (s : Strategy) (text : List Char) : List Char :=
  if s.caseSensitive then text else Text.lower text

/-- The pattern of a comparison, if it has one. -/
def Comparison.pattern? {σ : Type} (content : σ → List Char) (c : Comparison σ) :
    Option (List Char) :=
  match c.test with
  | .equal => none
  | .like before after => some (before.toList ++ (content c.slot ++ after.toList))

/-- The patterns of a condition. -/
def Condition.patterns {σ : Type} (content : σ → List Char) (c : Condition σ) :
    List (List Char) :=
  c.comparisons.filterMap (·.pattern? content)

/-! ### What conditions of strategies mean -/

section Strategy

variable {σ : Type} {s : Strategy} {column key : String} {slot : σ} {v : String}
  {content : σ → List Char}

theorem Plan.folded_eq_fold : Plan.folded s v = s.fold v.toList := rfl

/-- The operand of every rule but one is escaped. -/
theorem Plan.operand_eq_escape (h : s.rule ≠ .exact) :
    (Plan.operand s v).toList = Pattern.escape (s.fold v.toList) := by
  unfold Plan.operand
  split
  · rename_i hexact
    exact absurd hexact h
  · rw [String.toList_ofList, folded_eq_fold]

theorem Condition.holds_single_iff {stored : List Char} {c : Comparison σ} :
    (single c).Holds stored content ↔ c.Holds stored content := by
  simp [Holds, comparisons]

theorem Strategy.holds_comparison_iff {test : Test} {stored : List Char} :
    Comparison.Holds stored content ⟨column, key, !s.caseSensitive, test, false, slot⟩ ↔
      test.Holds (s.fold stored) (content slot) := by
  unfold Comparison.Holds Strategy.fold
  cases s.caseSensitive <;> rfl

/-- The condition of a strategy holds exactly if the value is found. -/
theorem Strategy.holds_condition_iff (hcontent : content slot = (Plan.operand s v).toList)
    (stored : List Char) : (s.condition column key slot).Holds stored content ↔
      s.rule.Finds (s.fold v.toList) (s.fold stored) := by
  have hescaped (h : s.rule ≠ .exact) : content slot = Pattern.escape (s.fold v.toList) :=
    hcontent.trans (Plan.operand_eq_escape h)
  unfold condition
  cases hrule : s.rule with
  | exact =>
    have hplain : content slot = s.fold v.toList := by
      rw [hcontent, Plan.operand, hrule, String.toList_ofList, Plan.folded_eq_fold]
    rw [Condition.holds_single_iff, holds_comparison_iff, hplain]
    rfl
  | anywhere =>
    rw [Condition.holds_single_iff, holds_comparison_iff, hescaped (by simp [hrule])]
    exact Pattern.matches_percent_escape_percent_iff
  | atStart =>
    rw [Condition.holds_single_iff, holds_comparison_iff, hescaped (by simp [hrule])]
    exact Pattern.matches_escape_percent_iff
  | atEnd =>
    rw [Condition.holds_single_iff, holds_comparison_iff, hescaped (by simp [hrule]), Test.Holds]
    have hafter : "".toList = [] := rfl
    rw [hafter, List.append_nil]
    exact Pattern.matches_percent_escape_iff
  | atWordStart =>
    simp only [Condition.Holds, Condition.comparisons, List.exists_mem_cons_iff,
      List.not_mem_nil, false_and, exists_false, or_false, holds_comparison_iff,
      hescaped (by simp [hrule])]
    refine or_congr Pattern.matches_escape_percent_iff ?_
    -- the blank in front of the value is found with it
    rw [← Pattern.matches_percent_escape_percent_iff, Pattern.escape_blank_cons]
    rfl

/-- Around an escaped text no known test leaves an escape character open. -/
theorem Test.isComplete_of_mem_known {before after : String} (h : like before after ∈ known)
    (text : List Char) :
    Pattern.isComplete (before.toList ++ (Pattern.escape text ++ after.toList)) := by
  have hescape : Pattern.isComplete (Pattern.escape text) = true := Pattern.isComplete_escape
  simp only [known, List.mem_cons, reduceCtorEq, like.injEq, List.not_mem_nil, or_false,
    false_or] at h
  rcases h with ⟨rfl, rfl⟩ | ⟨rfl, rfl⟩ | ⟨rfl, rfl⟩ | ⟨rfl, rfl⟩ <;>
    simp [Pattern.isComplete_cons, Pattern.isComplete_escape_append, Pattern.isComplete, hescape]

/-- No pattern of such a condition ends in an open escape character. -/
theorem Strategy.isComplete_of_mem_patterns (hcontent : content slot = (Plan.operand s v).toList) :
    ∀ pattern ∈ (s.condition column key slot).patterns content, Pattern.isComplete pattern := by
  intro pattern hpattern
  obtain ⟨c, hc, hsome⟩ := List.mem_filterMap.1 hpattern
  obtain ⟨test, htest, hexact, rfl⟩ := exists_test_of_mem_condition hc
  cases test with
  | equal => simp [Comparison.pattern?] at hsome
  | like before after =>
    have hescaped : content slot = Pattern.escape (s.fold v.toList) :=
      hcontent.trans (Plan.operand_eq_escape fun h => by simpa using hexact h)
    obtain rfl : before.toList ++ (content slot ++ after.toList) = pattern := Option.some.inj hsome
    rw [hescaped]
    exact Test.isComplete_of_mem_known htest _

end Strategy

/-! ### Texts of strategies -/

namespace Strategy

variable {s : Strategy} {σ τ : Type} {column key : String}

theorem map_condition (f : σ → τ) (slot : σ) :
    (s.condition column key slot).map f = s.condition column key (f slot) := by
  unfold condition
  cases s.rule <;> rfl

theorem comparisons_condition_ne_nil (slot : σ) :
    (s.condition column key slot).comparisons ≠ [] := by
  unfold condition
  cases s.rule <;> simp [Condition.comparisons]

/-- The text of a strategy's condition is read as that condition. -/
theorem ofText?_sql_condition {tableAlias name : String} {path : KeyPath}
    (ha : isIdentifier tableAlias) (hpath : path.IsSafe) (hname : isIdentifier name) :
    Condition.ofText? ((s.condition (tableAlias ++ "." ++ path.column) path.key name).sql
      Sql.slot) = some (s.condition (tableAlias ++ "." ++ path.column) path.key name) := by
  have hsafe : (s.condition (tableAlias ++ "." ++ path.column) path.key name).IsSafe
      tableAlias := by
    intro c hc
    obtain ⟨test, htest, -, rfl⟩ := exists_test_of_mem_condition hc
    exact ⟨path, hpath, rfl, rfl, htest⟩
  refine Condition.ofText?_sql ha hsafe ?_ (comparisons_condition_ne_nil name)
  intro x hx
  obtain ⟨c, hc, rfl⟩ := List.mem_map.1 hx
  obtain ⟨test, -, -, rfl⟩ := exists_test_of_mem_condition hc
  exact hname

end Strategy

/-! ### What applied filters mean -/

section Applied

variable {p : Property} {strategy : Strategy} {value : RequestValue} {v : Scalar}

/-- The plan for one text. -/
theorem Property.plan_eq_of_single (tableAlias : String) (hkind : p.kind = .string)
    (hstrategy : p.strategy = some strategy) (hvalue : value.toList = [v]) :
    p.plan tableAlias value =
      .ok ⟨strategy.condition (tableAlias ++ "." ++ p.path.column) p.path.key 0,
        [.text (Plan.operand strategy v.display)]⟩ := by
  rw [plan, hstrategy, hkind, hvalue]
  rfl

variable {s : FilterSet} {property : String} {schema : Schema} {d : Draft}

/-- Taking up the condition of a strategy puts a new name into it. -/
theorem Draft.takeUp_condition (seed column key : String) (value : BoundValue) :
    (d.takeUp seed ⟨strategy.condition column key 0, [value]⟩).1 =
      ⟨(strategy.condition column key (NameSource.nameAt seed d.names.count)).sql Sql.slot,
        [⟨NameSource.nameAt seed d.names.count, value⟩]⟩ := by
  have hmap : (strategy.condition column key 0).map
      (fun i => [NameSource.nameAt seed d.names.count].getD i "") =
        strategy.condition column key (NameSource.nameAt seed d.names.count) :=
    Strategy.map_condition _ 0
  rw [← hmap]
  rfl

/-- A filter of one text is applied, with the text of its strategy's condition. -/
theorem FilterSet.exists_compile_single_text (hp : s.get? property = some p)
    (hkind : p.kind = .string) (hstrategy : p.strategy = some strategy)
    (hvalue : value.toList = [v]) (hbackend : d.query.backend.isJsonCapable)
    (hcolumn : schema.isJsonColumn p.path.column) :
    ∃ number d', s.compile schema d property (some value) = .ok (.applied
      ⟨(strategy.condition (d.query.tableAlias ++ "." ++ p.path.column) p.path.key
          (NameSource.nameAt p.path.column number)).sql Sql.slot,
        [⟨NameSource.nameAt p.path.column number, .text (Plan.operand strategy v.display)⟩]⟩,
      d') := by
  have hplan := Property.plan_eq_of_single d.query.tableAlias hkind hstrategy hvalue
  have hjudge := judge_eq_accepted_iff.2 ⟨hbackend, value, p, rfl, hp, hcolumn, hplan, rfl⟩
  have hcompile := compile_of_accepted hjudge
  rw [Draft.takeUp_condition] at hcompile
  exact ⟨_, _, hcompile⟩

/-- The filter of one text is applied, and its text holds of a stored text exactly if the value
is found there; so no character of the value has a meaning of its own. -/
theorem FilterSet.finds_literally {entries : List (String × PropertyEntry)}
    (h : ofEntries entries = .ok s) (hp : s.get? property = some p) (hkind : p.kind = .string)
    (hstrategy : p.strategy = some strategy) (hvalue : value.toList = [v])
    (hbackend : d.query.backend.isJsonCapable) (ha : isIdentifier d.query.tableAlias)
    (hcolumn : schema.isJsonColumn p.path.column) :
    ∃ sql name bound c d', s.compile schema d property (some value) =
        .ok (.applied ⟨sql, [⟨name, .text bound⟩]⟩, d') ∧
      Condition.ofText? sql = some c ∧
      (∀ comparison ∈ c.comparisons,
        comparison.column = d.query.tableAlias ++ "." ++ p.path.column ∧
          comparison.key = p.path.key ∧ comparison.slot = name) ∧
      ∀ content, content name = bound.toList →
        (∀ pattern ∈ c.patterns content, Pattern.isComplete pattern) ∧
        ∀ stored, c.Holds stored content ↔
          strategy.rule.Finds (strategy.fold v.display.toList) (strategy.fold stored) := by
  have hpath := isSafe_of_ofEntries h property p hp
  obtain ⟨number, d', hcompile⟩ :=
    exists_compile_single_text hp hkind hstrategy hvalue hbackend hcolumn
  have hname : isIdentifier (NameSource.nameAt p.path.column number) :=
    NameSource.isIdentifier_nameAt_of_isIdentifier hpath.column
  -- the condition that is read is the one that was written
  refine ⟨_, _, _, _, d', hcompile, Strategy.ofText?_sql_condition ha hpath hname, ?_, ?_⟩
  · intro comparison hmem
    obtain ⟨test, -, -, rfl⟩ := Strategy.exists_test_of_mem_condition hmem
    exact ⟨rfl, rfl, rfl⟩
  · intro content hcontent
    exact ⟨Strategy.isComplete_of_mem_patterns hcontent, Strategy.holds_condition_iff hcontent⟩

/-- A value that is made of wildcards and an escape character. -/
theorem FilterSet.finds_literally_wildcards :
    ∃ s p, ofEntries [("data.name", ⟨none, some "ipartial", false⟩)] = .ok s ∧
      s.get? "data.name" = some p ∧ ∃ sql name bound c d',
      s.compile ⟨"items", "i", .ofList [("data", .json)]⟩ (Draft.new "items" "i" .postgres)
          "data.name" (some (.one (.text "%_\\"))) =
        .ok (.applied ⟨sql, [⟨name, .text bound⟩]⟩, d') ∧
      Condition.ofText? sql = some c ∧
      (∀ comparison ∈ c.comparisons, comparison.column = "i" ++ "." ++ p.path.column ∧
        comparison.key = p.path.key ∧ comparison.slot = name) ∧
      ∀ content, content name = bound.toList →
        (∀ pattern ∈ c.patterns content, Pattern.isComplete pattern) ∧
        ∀ stored, c.Holds stored content ↔
          "%_\\".toList <:+: Text.lower stored := by
  have h : ofEntries [("data.name", ⟨none, some "ipartial", false⟩)] = .ok _ := rfl
  have hvalue : (RequestValue.one (.text "%_\\")).toList = [.text "%_\\"] := rfl
  have hfinds {p : Property} (hp : get? _ "data.name" = some p) (hkind : p.kind = .string)
      (hstrategy : p.strategy = some ⟨.anywhere, false⟩)
      (hcolumn : Schema.isJsonColumn ⟨"items", "i", .ofList [("data", .json)]⟩ p.path.column) :=
    finds_literally (d := Draft.new "items" "i" .postgres) h hp hkind hstrategy hvalue rfl
      (by decide) hcolumn
  exact ⟨_, _, h, rfl, hfinds rfl rfl rfl rfl⟩

end Applied

end PropertyFilter
