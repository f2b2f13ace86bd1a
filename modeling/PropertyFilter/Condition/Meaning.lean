import PropertyFilter.Condition
import PropertyFilter.Sql.Pattern
import PropertyFilter.Text.Case

/-!
# The meaning of conditions

Whether a condition holds of the text that is stored at its key, once its slots have content.
A database answers the SQL text of the condition in this way.

## Main definitions

* `Test.Holds` — the meaning of a test of two texts
* `Comparison.Holds`, `Condition.Holds` — the meaning of a condition

## Main results

* `Condition.holds_map` — filling a template and then reading it is reading it with the content
-/

namespace PropertyFilter

/-- Whether a stored text passes a test. A pattern is put together from the fixed texts and the
operand, and has to match the whole stored text. -/
def Test.Holds (stored operand : List Char) : Test → Prop
  | .equal => stored = operand
  | .like before after => Sql.Pattern.Matches (before.toList ++ (operand ++ after.toList)) stored

/-- Whether a stored text meets a comparison, given the content of its slot. -/
def Comparison.Holds {σ : Type} (stored : List Char) (content : σ → List Char)
    (c : Comparison σ) : Prop :=
  c.test.Holds (if c.foldsCase then Text.lower stored else stored) (content c.slot)

/-- Whether a stored text meets a condition, given the content of the slots. -/
def Condition.Holds {σ : Type} (stored : List Char) (content : σ → List Char)
    (c : Condition σ) : Prop :=
  ∃ comparison ∈ c.comparisons, comparison.Holds stored content

variable {σ τ : Type} {stored operand : List Char}

@[simp] theorem Comparison.holds_map (f : σ → τ) (content : τ → List Char) (c : Comparison σ) :
    (c.map f).Holds stored content ↔ c.Holds stored (content ∘ f) := Iff.rfl

/-- Filling a template and then reading it is reading it with the content. -/
@[simp] theorem Condition.holds_map (f : σ → τ) (content : τ → List Char) (c : Condition σ) :
    (c.map f).Holds stored content ↔ c.Holds stored (content ∘ f) := by
  cases c with
  | single c => simp [Condition.Holds, Condition.comparisons, Condition.map]
  | anyOf cs =>
    constructor
    · rintro ⟨_, hmap, h⟩
      obtain ⟨c, hc, rfl⟩ := List.mem_map.1 hmap
      exact ⟨c, hc, h⟩
    · rintro ⟨c, hc, h⟩
      exact ⟨c.map f, List.mem_map_of_mem hc, h⟩

end PropertyFilter
