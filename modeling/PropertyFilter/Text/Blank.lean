/-!
# Blank characters

The characters of the Unicode property White_Space, and texts with the blank
characters at both ends removed.

## Main definitions

* `Text.isBlank` — membership in White_Space
* `Text.trim` — a text without its leading and trailing blanks
-/

namespace PropertyFilter.Text

/-- The code points of the Unicode property White_Space. -/
def isBlank (c : Char) : Bool :=
  let n := c.toNat
  (9 ≤ n && n ≤ 13) || n == 0x20 || n == 0x85 || n == 0xA0 || n == 0x1680 ||
    (0x2000 ≤ n && n ≤ 0x200A) || n == 0x2028 || n == 0x2029 || n == 0x202F ||
    n == 0x205F || n == 0x3000

/-- A text without the blank characters at its two ends. -/
def trim (cs : List Char) : List Char :=
  ((cs.dropWhile isBlank).reverse.dropWhile isBlank).reverse

end PropertyFilter.Text
