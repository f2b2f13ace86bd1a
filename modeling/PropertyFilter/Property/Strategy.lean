/-!
# Types and strategies

What a filterable property holds, and how text is matched. A configuration names both by
tokens.

## Main definitions

* `PropertyType` — the types
* `MatchRule` — where a value has to occur in the stored text
* `Strategy` — a rule, with or without regard to case

## Main results

* `Strategy.ofToken?_eq_some_iff` — a token names a strategy exactly when it is its token
-/

namespace PropertyFilter

/-- What a property holds. -/
inductive PropertyType where
  | string
  | int
  | float
  | bool
deriving DecidableEq, Repr

namespace PropertyType

/-- The token of a type. -/
def token : PropertyType → String
  | string => "string"
  | int => "int"
  | float => "float"
  | bool => "bool"

/-- The type of a token. -/
def ofToken? : String → Option PropertyType
  | "string" => some string
  | "int" => some int
  | "float" => some float
  | "bool" => some bool
  | _ => none

/-- The type of a property that is configured without one. -/
def default : PropertyType := string

theorem ofToken?_eq_some_iff {t : String} {k : PropertyType} :
    ofToken? t = some k ↔ t = k.token := by
  constructor
  · unfold ofToken?
    split <;> simp <;> rintro rfl <;> rfl
  · rintro rfl
    cases k <;> rfl

end PropertyType

/-- Where a value has to occur in the stored text. -/
inductive MatchRule where
  /-- The value is the whole text. -/
  | exact
  /-- The value occurs somewhere. -/
  | anywhere
  /-- The text starts with the value. -/
  | atStart
  /-- The text ends with the value. -/
  | atEnd
  /-- The text, or a word of it after a space, starts with the value. -/
  | atWordStart
deriving DecidableEq, Repr

namespace MatchRule

/-- The token of a rule. -/
def token : MatchRule → String
  | exact => "exact"
  | anywhere => "partial"
  | atStart => "start"
  | atEnd => "end"
  | atWordStart => "word_start"

/-- The rule of a token. -/
def ofToken? : String → Option MatchRule
  | "exact" => some exact
  | "partial" => some anywhere
  | "start" => some atStart
  | "end" => some atEnd
  | "word_start" => some atWordStart
  | _ => none

theorem ofToken?_eq_some_iff {t : String} {r : MatchRule} : ofToken? t = some r ↔ t = r.token := by
  constructor
  · unfold ofToken?
    split <;> simp <;> rintro rfl <;> rfl
  · rintro rfl
    cases r <;> rfl

end MatchRule

/-- How text is matched. -/
structure Strategy where
  /-- Where the value has to occur. -/
  rule : MatchRule
  /-- Whether upper and lower case are told apart. -/
  caseSensitive : Bool
deriving DecidableEq, Repr

namespace Strategy

/-- The token of a strategy: that of its rule, after an `i` if case is disregarded. -/
def token (s : Strategy) : String :=
  if s.caseSensitive then s.rule.token else "i" ++ s.rule.token

/-- The strategy of a token. -/
def ofToken? (t : String) : Option Strategy :=
  match MatchRule.ofToken? t with
  | some rule => some ⟨rule, true⟩
  | none =>
    match t.toList with
    | 'i' :: rest => (MatchRule.ofToken? (String.ofList rest)).map (⟨·, false⟩)
    | _ => none

/-- The token of the strategy of a property that is configured without one. -/
def defaultToken : String := MatchRule.exact.token

/-- A token names a strategy exactly when it is the token of that strategy. -/
theorem ofToken?_eq_some_iff {t : String} {s : Strategy} : ofToken? t = some s ↔ t = s.token := by
  obtain ⟨rule, caseSensitive⟩ := s
  constructor
  · unfold ofToken?
    split
    · rename_i r hr
      rintro h
      obtain ⟨rfl, rfl⟩ : r = rule ∧ true = caseSensitive := by simpa using h
      simpa [token] using MatchRule.ofToken?_eq_some_iff.1 hr
    · split
      · rename_i rest htoList
        intro h
        obtain ⟨r, hr, heq⟩ := Option.map_eq_some_iff.1 h
        obtain ⟨rfl, rfl⟩ : r = rule ∧ false = caseSensitive := by simpa using heq
        rw [← String.toList_inj, htoList]
        have := MatchRule.ofToken?_eq_some_iff.1 hr
        simp [token, ← this]
      · simp
  · rintro rfl
    cases caseSensitive <;> cases rule <;> rfl

end Strategy

end PropertyFilter
