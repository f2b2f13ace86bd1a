import PropertyFilter.LogEvent
import PropertyFilter.Parameter
import PropertyFilter.SortedMap

/-!
# Outcomes

What becomes of a filter in a request. Input that cannot be used is no error: the filter is
left out, and a notice tells the client why.

## Main definitions

* `SkipReason`, `IgnoredReason` — why a filter is left out, silently and with a notice
* `Outcome` — applied, skipped or ignored
* `Notice` — what the client is told
-/

namespace PropertyFilter

/-- Why a filter does not take part in a request. -/
inductive SkipReason where
  | nullValue
  | propertyNotEnabled
  | columnNotMapped
  | columnNotJson
deriving DecidableEq, Repr

/-- The name of a reason. -/
def SkipReason.name : SkipReason → String
  | nullValue => "null_value"
  | propertyNotEnabled => "property_not_enabled"
  | columnNotMapped => "column_not_mapped"
  | columnNotJson => "column_not_json"

/-- Why the input for a filter is refused. -/
inductive IgnoredReason where
  | invalidStrategy (strategy : String)
  | emptyValue
  | invalidNumeric
  | invalidBoolean
  | unsupportedMultiValueStrategy (strategy : String)
deriving DecidableEq, Repr

/-- What a client is told about a filter. -/
structure Notice where
  /-- A short category. -/
  kind : String
  /-- The whole message. -/
  message : String
  /-- The names and values that belong to it, in the order of the names. -/
  context : List (String × String)
deriving DecidableEq, Repr

namespace IgnoredReason

/-- The name of a reason. -/
def name : IgnoredReason → String
  | invalidStrategy _ => "invalid_strategy"
  | emptyValue => "empty_value"
  | invalidNumeric => "invalid_numeric"
  | invalidBoolean => "invalid_boolean"
  | unsupportedMultiValueStrategy _ => "unsupported_multi_value_strategy"

/-- The strategy that a reason is about, if it is about one. -/
def strategy? : IgnoredReason → Option String
  | invalidStrategy strategy => some strategy
  | unsupportedMultiValueStrategy strategy => some strategy
  | _ => none

/-- The category of the notice for a reason. -/
def category : IgnoredReason → String
  | invalidStrategy _ => "Invalid filter strategy"
  | _ => "Invalid filter ignored"

/-- A reason in words, for the property it is about. -/
def message (property : String) : IgnoredReason → String
  | invalidStrategy strategy =>
    "Invalid filter strategy (" ++ strategy ++ ") specified for \"" ++ property ++ "\" property"
  | emptyValue =>
    "At least one value is required, multiple values should be in \"" ++ property ++
      "[]=firstvalue&" ++ property ++ "[]=secondvalue\" format"
  | invalidNumeric => "Invalid numeric value for \"" ++ property ++ "\" property"
  | invalidBoolean =>
    "Invalid boolean value for \"" ++ property ++
      "\" property, expected one of ( \"true\" | \"false\" | \"1\" | \"0\" )"
  | unsupportedMultiValueStrategy strategy =>
    "\"" ++ strategy ++ "\" strategy selected for \"" ++ property ++
      "\" property, but only \"exact\" strategy supports multiple values"

/-- The names and values that belong to a reason. -/
def context (property : String) (r : IgnoredReason) : List (String × String) :=
  ("property", property) :: (r.strategy?.map (("strategy", ·))).toList

/-- What the client is told. -/
def notice (property : String) (r : IgnoredReason) : Notice :=
  ⟨r.category, r.message property, r.context property⟩

/-- A reason in a report. -/
def toJson (r : IgnoredReason) : Json :=
  .object (("kind", .text r.name) :: (r.strategy?.map (("strategy", .text ·))).toList)

end IgnoredReason

/-- A notice in a report. -/
def Notice.toJson (n : Notice) : Json :=
  .object [("kind", .text n.kind), ("message", .text n.message),
    ("context", .object (n.context.map fun e => (e.1, .text e.2)))]

/-- What becomes of a filter. -/
inductive Outcome where
  /-- The condition is part of the query. -/
  | applied (predicate : Predicate)
  /-- The filter does not take part. -/
  | skipped (reason : SkipReason)
  /-- The input is refused. -/
  | ignored (reason : IgnoredReason)
deriving DecidableEq

namespace Outcome

/-- The predicate of an applied filter. -/
def predicate? : Outcome → Option Predicate
  | applied p => some p
  | _ => none

/-- The reason of an ignored filter. -/
def ignoredReason? : Outcome → Option IgnoredReason
  | ignored r => some r
  | _ => none

/-- Whether the filter is part of the query. -/
def isApplied (o : Outcome) : Bool := o.predicate?.isSome

/-- What the client is told about the filter of a property. -/
def notice? (property : String) (o : Outcome) : Option Notice :=
  o.ignoredReason?.map (·.notice property)

/-- An outcome in a report. -/
def toJson : Outcome → Json
  | applied p => .object [("status", .text "applied"), ("predicate", p.toJson)]
  | skipped r => .object [("status", .text "skipped"), ("reason", .text r.name)]
  | ignored r => .object [("status", .text "ignored"), ("reason", r.toJson)]

end Outcome

end PropertyFilter
