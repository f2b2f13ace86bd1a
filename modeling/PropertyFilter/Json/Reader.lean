import PropertyFilter.Json.Token

/-!
# Reading JSON

A tree is built from tokens one at a time. The state of the reader is the stack of arrays and
objects that are open, together with what may come next, so the depth of a text is no concern
of the reader itself.

## Main definitions

* `Json.Reader.step` — what one token does to the state
* `Json.parse?` — the value that a text writes
-/

namespace PropertyFilter.Json

namespace Reader

/-- An array or object that is not closed yet, with what it holds so far, last first. -/
inductive Container where
  | array (items : List Json)
  /-- An object, with the name whose value is being read. -/
  | object (members : List (Option String × Json)) (name : Option String)

/-- What may come next. -/
inductive Turn where
  /-- A value. -/
  | value
  /-- A value, or the end of an empty array. -/
  | item
  /-- A member's name. -/
  | name
  /-- A member's name, or the end of an empty object. -/
  | member
  /-- The colon between a name and its value. -/
  | colon
  /-- Whatever may follow the value that has just been read. -/
  | done (j : Json)

/-- The state of the reader. -/
structure State where
  /-- What may come next. -/
  turn : Turn
  /-- The containers around that place, innermost first. -/
  stack : List Container

/-- The members of an object, or nothing that can be read if a name cannot. -/
def closeObject (members : List (Option String × Json)) : Json :=
  match members.reverse.mapM fun m => m.1.map (·, m.2) with
  | some named => .object named
  | none => .unreadable

/-- The state after a token that starts a value. -/
def stepValue (stack : List Container) : Token → Option State
  | .null => some ⟨.done .null, stack⟩
  | .bool b => some ⟨.done (.bool b), stack⟩
  | .number literal => some ⟨.done (.number literal), stack⟩
  | .text (some s) => some ⟨.done (.text s), stack⟩
  | .text none => some ⟨.done .unreadable, stack⟩
  | .openBracket => some ⟨.item, .array [] :: stack⟩
  | .openBrace => some ⟨.member, .object [] none :: stack⟩
  | _ => none

/-- The state after a token; none if the token may not come there. -/
def step (s : State) (t : Token) : Option State :=
  match s.turn, t, s.stack with
  | .value, t, stack => stepValue stack t
  | .item, .closeBracket, .array _ :: stack => some ⟨.done (.array []), stack⟩
  | .item, t, stack => stepValue stack t
  | .name, .text name, .object members _ :: stack => some ⟨.colon, .object members name :: stack⟩
  | .member, .text name, .object members _ :: stack => some ⟨.colon, .object members name :: stack⟩
  | .member, .closeBrace, .object _ _ :: stack => some ⟨.done (.object []), stack⟩
  | .colon, .colon, stack => some ⟨.value, stack⟩
  | .done j, .comma, .array items :: stack => some ⟨.value, .array (j :: items) :: stack⟩
  | .done j, .comma, .object members name :: stack =>
    some ⟨.name, .object ((name, j) :: members) none :: stack⟩
  | .done j, .closeBracket, .array items :: stack =>
    some ⟨.done (.array (j :: items).reverse), stack⟩
  | .done j, .closeBrace, .object members name :: stack =>
    some ⟨.done (closeObject ((name, j) :: members)), stack⟩
  | _, _, _ => none

/-- The value that has been read when the tokens end. -/
def State.result? : State → Option Json
  | ⟨.done j, []⟩ => some j
  | _ => none

end Reader

/-- The value that a sequence of tokens writes. -/
def ofTokens? (ts : List Token) : Option Json :=
  (ts.foldlM Reader.step ⟨.value, []⟩).bind Reader.State.result?

/-- The value that a text writes; none if the text is no JSON. -/
def parse? (s : String) : Option Json := (Token.scan s.toList).bind ofTokens?

end PropertyFilter.Json
