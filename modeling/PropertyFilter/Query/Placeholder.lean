import PropertyFilter.Sql.Expression
import PropertyFilter.Text.Word

/-!
# Positional placeholders

SQL text with parameters by name becomes SQL text with parameters by position. A colon starts
a parameter if it stands outside literals, does not follow another colon, and is followed by
the name of a parameter; all other text stays as it is.

## Main definitions

* `Placeholder.position?` — the position of a parameter
* `Placeholder.render` — the text with positions
-/

namespace PropertyFilter.Placeholder

open Text

/-- The position of the last parameter of a name, the first parameter being at one. -/
def position? (names : List String) (name : String) : Option Nat :=
  (names.reverse.findIdx? (· == name)).map fun i => names.length - i

/-- The position for the word characters after a colon. A word that starts with a digit is no
name. -/
def ofWord? (names : List String) (word : List Char) : Option Nat :=
  match word with
  | [] => none
  | c :: _ => if c.isDigit then none else position? names (String.ofList word)

/-- Renders the text after a character, outside or inside a literal. `afterColon` tells whether
that character is a colon. -/
def renderFrom (names : List String) (inLiteral afterColon : Bool) :
    List Char → List Char
  | [] => []
  | c :: cs =>
    if c = '\'' then c :: renderFrom names (!inLiteral) false cs
    else if !inLiteral && !afterColon && c = ':' then
      match ofWord? names (cs.takeWhile isWord) with
      | some position =>
        have := (List.dropWhile_sublist isWord (l := cs)).length_le
        (Sql.placeholder position).toList ++ renderFrom names false false (cs.dropWhile isWord)
      | none => c :: renderFrom names inLiteral true cs
    else c :: renderFrom names inLiteral (c == ':') cs
termination_by cs => cs.length

/-- The text with positions in place of the names of parameters. -/
def render (names : List String) (sql : String) : String :=
  String.ofList (renderFrom names false false sql.toList)

end PropertyFilter.Placeholder
