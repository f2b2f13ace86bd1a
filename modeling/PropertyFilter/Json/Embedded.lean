import PropertyFilter.Json.Reader

/-!
# Embedded texts

A value may be written as a JSON text of its own inside an object: the only member of the object
has a name that is kept for this and holds the text. Resolving a value puts what such texts
write in their place, to any depth of texts in texts. The name means this only where it comes
first; behind another member it is a name like any other.

## Main definitions

* `Json.embeddingName` — the name of the member that holds a text
* `Json.resolve?` — a value with what its texts write in their place
-/

namespace PropertyFilter.Json

/-- The name of the member that holds an embedded text. -/
def embeddingName : String := "$serde_json::private::RawValue"

/-- Whether an object with these members embeds something. -/
def embeds (members : List (String × Json)) : Bool :=
  members.head?.any (·.1 == embeddingName)

/-- The text of an only member. -/
def onlyText? : List (String × Json) → Option String
  | [(_, text s)] => some s
  | _ => none

/-- Puts `read s` in the place of each object that embeds a text `s`. A value that is not sound,
and an object that embeds something else than a text or has more members, stand for nothing. -/
def resolveWithin (read : String → Option Json) : Nat → Json → Option Json
  | _, null => some null
  | _, bool b => some (bool b)
  | _, number literal => if (Number.ofLiteral? literal).isSome then some (number literal) else none
  | _, text s => some (text s)
  | _, unreadable => none
  | 0, array _ => none
  | 0, object _ => none
  | levels + 1, array items => (items.mapM (resolveWithin read levels)).map array
  | levels + 1, object members =>
    if embeds members then (onlyText? members).bind read
    else (members.mapM fun m => (resolveWithin read levels m.2).map (m.1, ·)).map object

/-- What a text writes, if texts are embedded in it at most `fuel` deep. -/
def resolveText? : Nat → String → Option Json
  | 0, _ => none
  | fuel + 1, s => (parse? s).bind (resolveWithin (resolveText? fuel) maxLevels)

/-- What an embedded text writes. A text that is embedded in another one is shorter than that, so
the depth of texts in texts is at most the length of the outermost. -/
def ofEmbedded? (s : String) : Option Json := resolveText? (s.length + 1) s

/-- A sound value with what its texts write in their place. -/
def resolve? (j : Json) : Option Json := resolveWithin ofEmbedded? maxLevels j

end PropertyFilter.Json
