import PropertyFilter.FilterError
import PropertyFilter.LogEvent
import PropertyFilter.Property.Entry
import PropertyFilter.Property.Strategy

/-!
# Filterable properties

A property whose name, type and strategy have been checked. A strategy that is not known does
not stop a configuration from loading: the property keeps the token, an event is logged, and
requests for it are refused one by one.

## Main definitions

* `Property` — a checked property
* `Property.ofEntry` — checks an entry
* `Property.warning?` — the event for an unknown strategy

## Main results

* `ofEntry_eq_ok_iff` — what a checked property holds
-/

namespace PropertyFilter

/-- A filterable property. -/
structure Property where
  /-- The name that requests use. -/
  name : String
  /-- Where the property lies. -/
  path : KeyPath
  /-- What the property holds. -/
  kind : PropertyType
  /-- The token of the strategy, as it is configured. -/
  strategyToken : String
  /-- The strategy, unless the token names none. -/
  strategy : Option Strategy
  /-- Whether requests have to give a value. -/
  required : Bool
deriving DecidableEq, Repr

namespace Property

/-- Checks an entry: first the name, then the type. -/
def ofEntry (name : String) (entry : PropertyEntry) : Except FilterError Property := do
  let path ← (KeyPath.check name).mapError (FilterError.invalidPath name)
  let kind ←
    match entry.kind with
    | none => .ok PropertyType.default
    | some token =>
      match PropertyType.ofToken? token with
      | some kind => .ok kind
      | none => .error (.unsupportedType name token)
  let token := entry.strategy.getD Strategy.defaultToken
  .ok ⟨name, path, kind, token, Strategy.ofToken? token, entry.required⟩

/-- The event that is logged for a property whose strategy is not known. -/
def warning? (p : Property) : Option LogEvent :=
  match p.strategy with
  | some _ => none
  | none =>
    some ⟨.warn, "Unknown filter strategy, filter will be ignored",
      [("property", p.name), ("strategy", p.strategyToken)]⟩

variable {name : String} {entry : PropertyEntry} {p : Property}

theorem ofEntry_eq_ok_iff : ofEntry name entry = .ok p ↔
    ∃ path kind, KeyPath.check name = .ok path ∧
      (entry.kind.elim (some PropertyType.default) PropertyType.ofToken?) = some kind ∧
      p = ⟨name, path, kind, entry.strategy.getD Strategy.defaultToken,
        Strategy.ofToken? (entry.strategy.getD Strategy.defaultToken), entry.required⟩ := by
  unfold ofEntry
  cases KeyPath.check name with
  | error d =>
    have hmap : (Except.error d : Except _ KeyPath).mapError (FilterError.invalidPath name) =
      .error (.invalidPath name d) := rfl
    simp [hmap, bind, Except.bind]
  | ok path =>
    have hmap : (Except.ok path).mapError (FilterError.invalidPath name) = .ok path := rfl
    cases entry.kind with
    | none => simp [hmap, bind, Except.bind, eq_comm]
    | some token =>
      cases h : PropertyType.ofToken? token <;>
        simp [hmap, bind, Except.bind, h, eq_comm]

/-- A checked property keeps its name. -/
theorem name_of_ofEntry (h : ofEntry name entry = .ok p) : p.name = name := by
  obtain ⟨_, _, _, _, rfl⟩ := ofEntry_eq_ok_iff.1 h
  rfl

end Property

end PropertyFilter
