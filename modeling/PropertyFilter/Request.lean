import PropertyFilter.Scalar
import PropertyFilter.SortedMap
import PropertyFilter.Text.Split

/-!
# Requests

The values of a request by property. They come as pairs of a name and a text, where a name
with empty brackets behind it collects several values and a name without them has one.

## Main definitions

* `Request` — the values by property
* `Request.ofPairs` — the request that a list of pairs makes
* `Request.splitPair` — a pair that is written as one text
-/

namespace PropertyFilter

/-- The values of a request, by property. -/
abbrev Request := SortedMap RequestValue

namespace Request

/-- What stands behind the name of a property that is given several values. -/
def collectionSuffix : List Char := ['[', ']']

/-- The property of a name that has the brackets behind it. -/
def collected? (name : String) : Option String :=
  let cs := name.toList
  if collectionSuffix.isSuffixOf cs then some (String.ofList (cs.take (cs.length - 2))) else none

/-- Adds a pair. A pair with brackets is added to the values that such pairs have collected; a
pair without them discards what was there, and so does a first pair with brackets. -/
def addPair (r : Request) (pair : String × String) : Request :=
  match collected? pair.1 with
  | none => r.insert pair.1 (.one (.text pair.2))
  | some property =>
    match r.get? property with
    | some (.many values) => r.insert property (.many (values ++ [.text pair.2]))
    | _ => r.insert property (.many [.text pair.2])

/-- The request that a list of pairs makes, in its order. -/
def ofPairs (pairs : List (String × String)) : Request := pairs.foldl addPair .empty

/-- A pair written as one text: the first equals sign separates name and value, and without one
the value is empty. -/
def splitPair (s : String) : String × String :=
  let (name, value) := Text.cut '=' s.toList
  (String.ofList name, String.ofList (value.getD []))

end Request

end PropertyFilter
