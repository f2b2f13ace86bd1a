import PropertyFilter.Text.Case
import PropertyFilter.Text.Hidden

/-!
# Quoted text

How log fields show texts and collections of texts: between double quotes, with escapes
for quotes, backslashes and characters that are not visible.

## Main definitions

* `Text.quoted` — one text between quotes
* `Text.quotedList` — several, in brackets
* `Text.quotedPairs` — names with their values, in braces
-/

namespace PropertyFilter.Text

/-- How a character stands between quotes. -/
def quotedChar (c : Char) : List Char :=
  if c = '"' || c = '\\' then ['\\', c]
  else if c = '\n' then ['\\', 'n']
  else if c = '\r' then ['\\', 'r']
  else if c = '\t' then ['\\', 't']
  else if c = '\x00' then ['\\', '0']
  else if c.toNat < 0x20 || inRanges hiddenRanges c.toNat then
    ['\\', 'u', '\x7b'] ++ Nat.toDigits 16 c.toNat ++ ['\x7d']
  else [c]

/-- A text between double quotes. -/
def quoted (s : String) : String :=
  String.ofList ('"' :: (s.toList.flatMap quotedChar ++ ['"']))

/-- Texts between quotes, in brackets. -/
def quotedList (ss : List String) : String :=
  "[" ++ String.intercalate ", " (ss.map quoted) ++ "]"

/-- Names and values between quotes, in braces. -/
def quotedPairs (ps : List (String × String)) : String :=
  "\x7b" ++ String.intercalate ", " (ps.map fun p => quoted p.1 ++ ": " ++ quoted p.2) ++ "\x7d"

end PropertyFilter.Text
