import PropertyFilter.Json

/-!
# Writing JSON

A tree as text, on one line or laid out with two spaces for each level. Strings escape quotes,
backslashes and control characters, and nothing else.

## Main definitions

* `Json.compact` — a value on one line
* `Json.pretty` — a value laid out on several lines
-/

namespace PropertyFilter.Json

/-- How a character stands in a string. -/
def writeChar (c : Char) : List Char :=
  if c = '"' || c = '\\' then ['\\', c]
  else if c = '\x08' then ['\\', 'b']
  else if c = '\x0c' then ['\\', 'f']
  else if c = '\n' then ['\\', 'n']
  else if c = '\r' then ['\\', 'r']
  else if c = '\t' then ['\\', 't']
  else if c.toNat < 0x20 then
    let digits := Nat.toDigits 16 c.toNat
    ['\\', 'u'] ++ List.replicate (4 - digits.length) '0' ++ digits
  else [c]

/-- A string with its quotes. -/
def writeText (s : String) : String := String.ofList ('"' :: (s.toList.flatMap writeChar ++ ['"']))

mutual

/-- A value on one line, without blanks. -/
def compact : Json → String
  | null => "null"
  | bool b => if b then "true" else "false"
  | number literal => literal
  | text s => writeText s
  | unreadable => "null"
  | array items => "[" ++ String.intercalate "," (compactItems items) ++ "]"
  | object members => "\x7b" ++ String.intercalate "," (compactMembers members) ++ "\x7d"

/-- The items of an array, each on one line. -/
def compactItems : List Json → List String
  | [] => []
  | j :: js => compact j :: compactItems js

/-- The members of an object, each on one line. -/
def compactMembers : List (String × Json) → List String
  | [] => []
  | (name, j) :: ms => (writeText name ++ ":" ++ compact j) :: compactMembers ms

end

/-- A line break and the blanks of a level. -/
def lineBreak (level : Nat) : String := String.ofList ('\n' :: List.replicate (2 * level) ' ')

/-- Texts between brackets, each on a line of its own; nothing between the brackets if there
are none. -/
def writeLines (level : Nat) (opening closing : String) : List String → String
  | [] => opening ++ closing
  | lines =>
    opening ++ lineBreak (level + 1) ++ String.intercalate ("," ++ lineBreak (level + 1)) lines ++
      lineBreak level ++ closing

mutual

/-- A value laid out on several lines, inside `level` levels of containers. -/
def prettyAt (level : Nat) : Json → String
  | array items => writeLines level "[" "]" (prettyItems (level + 1) items)
  | object members => writeLines level "\x7b" "\x7d" (prettyMembers (level + 1) members)
  | null => "null"
  | bool b => if b then "true" else "false"
  | number literal => literal
  | text s => writeText s
  | unreadable => "null"

/-- The items of an array, laid out. -/
def prettyItems (level : Nat) : List Json → List String
  | [] => []
  | j :: js => prettyAt level j :: prettyItems level js

/-- The members of an object, laid out. -/
def prettyMembers (level : Nat) : List (String × Json) → List String
  | [] => []
  | (name, j) :: ms => (writeText name ++ ": " ++ prettyAt level j) :: prettyMembers level ms

end

/-- A value laid out on several lines: one line for each item and member, two more blanks for
each level, and empty containers closed at once. -/
def pretty (j : Json) : String := prettyAt 0 j

end PropertyFilter.Json
