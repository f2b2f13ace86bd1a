import PropertyFilter.Backend
import PropertyFilter.KeyPath

/-!
# Errors

What stops a filter altogether, as opposed to a value that is merely refused: a property that
cannot be configured, and an engine that conditions cannot be compiled for.

## Main definitions

* `FilterError` — the causes
* `FilterError.message` — their wording
-/

namespace PropertyFilter

/-- Why a filter cannot be configured or compiled. -/
inductive FilterError where
  | unsupportedType (property kind : String)
  | invalidPath (property : String) (defect : PathDefect)
  | invalidPlatform (found : Backend)
deriving DecidableEq, Repr

/-- An error in words. -/
def FilterError.message : FilterError → String
  | unsupportedType property kind =>
    "Type \"" ++ kind ++ "\" specified for property \"" ++ property ++ "\" is not supported"
  | invalidPath property defect =>
    "Invalid filter path \"" ++ property ++ "\": " ++ defect.reason
  | invalidPlatform found =>
    "Invalid database platform: postgres required but " ++ found.name ++ " found"

end PropertyFilter
