import PropertyFilter.Property.Strategy
import PropertyFilter.Sql.Expression

/-!
# Conditions

The conditions that filters put on a row, as trees and as SQL text. What a stored text is
compared with is left open: a condition carries slots of any type, and writing it takes the
text for each slot. A condition over slot numbers is a template that different parameter names
can be filled into.

## Main definitions

* `Comparison` — the text at a key of a column against the content of a slot
* `Condition` — a comparison, or a choice of several
* `Condition.sql` — the SQL text
* `Strategy.condition` — the condition of a strategy

## Main results

* `Condition.sql_map` — filling a template and then writing it is writing it with the names
-/

namespace PropertyFilter

/-- How a stored text is compared. -/
inductive Test where
  /-- It is the operand. -/
  | equal
  /-- It matches the operand as a pattern, with fixed pattern text on both sides. -/
  | like (before after : String)
deriving DecidableEq, Repr

/-- The text at a key of a column, compared with the content of a slot. -/
structure Comparison (σ : Type) where
  /-- The column, with the alias of its table. -/
  column : String
  /-- The keys, separated by commas. -/
  key : String
  /-- Whether the stored text is put into lower case. -/
  foldsCase : Bool
  /-- How the texts are compared. -/
  test : Test
  /-- Whether the content of the slot is a number, which is turned into text. -/
  castsSlot : Bool
  /-- What the stored text is compared with. -/
  slot : σ
deriving DecidableEq, Repr

/-- A condition on a row. -/
inductive Condition (σ : Type) where
  | single (c : Comparison σ)
  /-- At least one of several comparisons. -/
  | anyOf (cs : List (Comparison σ))
deriving DecidableEq, Repr

namespace Test

/-- The pattern of an operand between two fixed texts; an empty text is left out. -/
def pattern (before operand after : String) : String :=
  let parts := (if before.isEmpty then [] else [Sql.literal before]) ++ [operand] ++
    (if after.isEmpty then [] else [Sql.literal after])
  match parts with
  | [e] => e
  | es => Sql.concat es

/-- The comparison of two expressions. -/
def sql (stored operand : String) : Test → String
  | equal => stored ++ " = " ++ operand
  | like before after => stored ++ " LIKE " ++ pattern before operand after ++ " ESCAPE '\\'"

end Test

namespace Comparison

variable {σ τ : Type}

/-- Puts other content into the slot. -/
def map (f : σ → τ) (c : Comparison σ) : Comparison τ :=
  ⟨c.column, c.key, c.foldsCase, c.test, c.castsSlot, f c.slot⟩

/-- The expression for the stored text. -/
def stored (c : Comparison σ) : String :=
  let e := Sql.extract c.column c.key
  if c.foldsCase then Sql.lower e else e

/-- The SQL text of a comparison, given the text for a slot. -/
def sql (write : σ → String) (c : Comparison σ) : String :=
  let operand := write c.slot
  c.test.sql c.stored (if c.castsSlot then Sql.asText operand else operand)

@[simp] theorem sql_map (f : σ → τ) (write : τ → String) (c : Comparison σ) :
    (c.map f).sql write = c.sql (write ∘ f) := rfl

end Comparison

namespace Condition

variable {σ τ : Type}

/-- The comparisons of a condition. -/
def comparisons : Condition σ → List (Comparison σ)
  | single c => [c]
  | anyOf cs => cs

/-- Puts other content into the slots. -/
def map (f : σ → τ) : Condition σ → Condition τ
  | single c => single (c.map f)
  | anyOf cs => anyOf (cs.map (·.map f))

/-- The SQL text of a condition, given the text for a slot. A choice stands in parentheses. -/
def sql (write : σ → String) : Condition σ → String
  | single c => c.sql write
  | anyOf cs => "(" ++ String.intercalate " OR " (cs.map (·.sql write)) ++ ")"

/-- Filling a template and then writing it is writing it with the names. -/
@[simp] theorem sql_map (f : σ → τ) (write : τ → String) (c : Condition σ) :
    (c.map f).sql write = c.sql (write ∘ f) := by
  cases c <;> simp [map, sql, Function.comp_def]

end Condition

/-- The condition that the text at a key contains an operand where a strategy asks for it. -/
def Strategy.condition {σ : Type} (s : Strategy) (column key : String) (slot : σ) :
    Condition σ :=
  let comparison := fun test => ⟨column, key, !s.caseSensitive, test, false, slot⟩
  match s.rule with
  | .exact => .single (comparison .equal)
  | .anywhere => .single (comparison (.like "%" "%"))
  | .atStart => .single (comparison (.like "" "%"))
  | .atEnd => .single (comparison (.like "%" ""))
  | .atWordStart => .anyOf [comparison (.like "" "%"), comparison (.like "% " "%")]

end PropertyFilter
