import PropertyFilter.Condition
import PropertyFilter.Query.Names
import PropertyFilter.Sql.Pattern
import PropertyFilter.Text.Case
import PropertyFilter.TypedValues

/-!
# Plans

What an accepted filter adds to a query, apart from the names of its parameters: a template in
which the slots are numbered, and the value for each number.

## Main definitions

* `Plan` — a template and its values
* `Plan.ofValues` — the plan of typed values, or the reason why a strategy refuses them
* `Plan.fill` — the predicate that names make of a plan
-/

namespace PropertyFilter

/-- A condition whose slots are numbered, and the values of the slots. -/
structure Plan where
  /-- The condition. -/
  template : Condition Nat
  /-- The value of each slot, from number zero on. -/
  values : List BoundValue

namespace Plan

/-- Where the stored text of a property lies. -/
structure Target where
  /-- The column, with the alias of its table. -/
  column : String
  /-- The keys, separated by commas. -/
  key : String

/-- One equality for each of `count` slots. -/
def equalities (target : Target) (foldsCase castsSlot : Bool) (count : Nat) :
    List (Comparison Nat) :=
  (List.range count).map fun i =>
    ⟨target.column, target.key, foldsCase, .equal, castsSlot, i⟩

/-- A text as a strategy compares it: in lower case if case does not matter. -/
def folded (strategy : Strategy) (s : String) : List Char :=
  if strategy.caseSensitive then s.toList else Text.lower s.toList

/-- A text as the operand of a strategy's condition. Patterns must take it literally. -/
def operand (strategy : Strategy) (s : String) : String :=
  match strategy.rule with
  | .exact => String.ofList (folded strategy s)
  | _ => String.ofList (Sql.Pattern.escape (folded strategy s))

/-- The plan for texts. Several texts are only accepted where the whole text is compared. -/
def ofStrings (target : Target) (strategy : Strategy) : List String → Except IgnoredReason Plan
  | [s] => .ok ⟨strategy.condition target.column target.key 0, [.text (operand strategy s)]⟩
  | ss =>
    match strategy.rule with
    | .exact =>
      .ok ⟨.anyOf (equalities target (!strategy.caseSensitive) false ss.length),
        ss.map fun s => .text (operand strategy s)⟩
    | rule => .error (.unsupportedMultiValueStrategy rule.token)

/-- The plan that compares with each of several values, which are a choice unless there is one. -/
def comparing (target : Target) (foldsCase castsSlot : Bool) (values : List BoundValue) : Plan :=
  match equalities target foldsCase castsSlot values.length with
  | [c] => ⟨.single c, values⟩
  | cs => ⟨.anyOf cs, values⟩

/-- The plan for numbers, which are compared as text and with regard to nothing else. -/
def ofNumbers (target : Target) (values : List BoundValue) : Plan :=
  comparing target false true values

/-- The plan for a truth value, which JSON writes as a word. -/
def ofBool (target : Target) (value : Bool) : Plan :=
  ⟨.anyOf (equalities target false false 1), [.text (if value then "true" else "false")]⟩

/-- The plan for typed values, or the reason why they are refused. -/
def ofValues (target : Target) (strategy : Strategy) : TypedValues → Except IgnoredReason Plan
  | .strings ss => ofStrings target strategy ss
  | .ints ns => .ok (ofNumbers target (ns.map .int))
  | .floats literals => .ok (ofNumbers target (literals.map .float))
  | .bool b => .ok (ofBool target b)

/-- The predicate that names make of a plan, one name for each value. -/
def fill (p : Plan) (names : List String) : Predicate :=
  ⟨(p.template.map fun i => names.getD i "").sql Sql.slot,
    List.zipWith BoundParam.mk names p.values⟩

end Plan

end PropertyFilter
