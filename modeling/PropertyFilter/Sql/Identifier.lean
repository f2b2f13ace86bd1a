import PropertyFilter.Text.Blank
import PropertyFilter.Text.Word

/-!
# Names that may stand in SQL text

Column, table and alias names are written into SQL text as they are, and the segments of
a JSON key are written into a text-array literal. Only names that read back as themselves
in those places are accepted.

## Main definitions

* `Sql.isIdentifier` — names that need no quotes
* `Sql.isKeySegment` — texts that stand for themselves inside an unquoted array literal
-/

namespace PropertyFilter.Sql

open Text

/-- An identifier: a letter or underscore followed by letters, digits and underscores. -/
def isIdentifier (s : String) : Bool :=
  match s.toList with
  | [] => false
  | c :: cs => isWordStart c && cs.all isWord

/-- The characters that end or alter an element of an array literal. -/
def isKeyBreaker (c : Char) : Bool :=
  c == '\'' || c == '"' || c == '\\' || c == '\x7b' || c == '\x7d' || c == ',' || c == ';' ||
    isBlank c

/-- The element that an array literal reads as a missing value, whatever its case. -/
def isNullWord (cs : List Char) : Bool := cs.map Char.toLower == ['n', 'u', 'l', 'l']

/-- A segment of a JSON key that an array literal holds as it is. -/
def isKeySegment (s : String) : Bool :=
  let cs := s.toList
  !cs.isEmpty && !isNullWord cs && cs.all fun c => !isKeyBreaker c

end PropertyFilter.Sql
