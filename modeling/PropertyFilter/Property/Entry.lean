import PropertyFilter.Json.Embedded
import PropertyFilter.Text.Blank
import PropertyFilter.Text.Case

/-!
# Property entries

A filterable property as it is written in a configuration: an optional type, an optional
strategy and a flag, none of them checked yet. An entry is written as an object, or as an
array of its parts of which only the flag may be left out.

## Main definitions

* `PropertyEntry` — the entry
* `PropertyEntry.ofJson?` — the entry that a JSON value writes
-/

namespace PropertyFilter

/-- A property as it is configured. -/
structure PropertyEntry where
  /-- The token of the type, if one is given. -/
  kind : Option String
  /-- The token of the strategy, if one is given. -/
  strategy : Option String
  /-- Whether requests have to give a value. -/
  required : Bool
deriving DecidableEq, Repr

namespace PropertyEntry

/-- The entry of a property that is listed without any details. -/
def default : PropertyEntry := ⟨none, none, false⟩

instance : Inhabited PropertyEntry := ⟨default⟩

/-- The texts that count as a set flag, in lower case and without blanks around them. -/
def affirmations : List String := ["1", "true", "on", "yes"]

/-- The flag that a value stands for. A number is a set flag if it is the integer one; a value
of any other kind is no set flag. -/
def flag : Json → Bool
  | .bool b => b
  | .number literal =>
    match Json.Number.ofLiteral? literal with
    | some (.integer n) => n == 1
    | _ => false
  | .text s => affirmations.contains (String.ofList (Text.lower (Text.trim s.toList)))
  | _ => false

/-- An optional text: a string, or the literal for a missing value. -/
def optionalText? : Json → Option (Option String)
  | .null => some none
  | .text s => some (some s)
  | _ => none

/-- The entry made of its parts; a flag that is not given is not set. The flag may be embedded as
a text. -/
def ofParts? (kind strategy : Json) (required : Option Json) : Option PropertyEntry := do
  let kind ← optionalText? kind
  let strategy ← optionalText? strategy
  match required with
  | none => some ⟨kind, strategy, false⟩
  | some j => j.resolve?.map fun j => ⟨kind, strategy, flag j⟩

/-- The entry that a value writes. Members with other names are passed over. -/
def ofJson? : Json → Option PropertyEntry
  | .object members => do
    let kind ← Json.member? members "type"
    let strategy ← Json.member? members "strategy"
    let required ← Json.member? members "required"
    ofParts? (kind.getD .null) (strategy.getD .null) required
  | .array [kind, strategy] => ofParts? kind strategy none
  | .array [kind, strategy, required] => ofParts? kind strategy (some required)
  | _ => none

end PropertyEntry

end PropertyFilter
