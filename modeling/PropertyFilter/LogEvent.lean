/-!
# Log events

What is said to the operator beside the answer to a request.

## Main definitions

* `LogEvent` — a level, a message and named fields
-/

namespace PropertyFilter

/-- How urgent an event is. -/
inductive LogLevel where
  | warn
  | info
deriving DecidableEq, Repr

/-- The name of a level. -/
def LogLevel.name : LogLevel → String
  | warn => "WARN"
  | info => "INFO"

/-- Something said to the operator. -/
structure LogEvent where
  /-- How urgent it is. -/
  level : LogLevel
  /-- What happened. -/
  message : String
  /-- The names and values that belong to it. -/
  fields : List (String × String)
deriving DecidableEq, Repr

end PropertyFilter
