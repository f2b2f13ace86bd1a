/-!
# Word characters

The characters of identifiers: ASCII letters, ASCII digits and the underscore.

## Main definitions

* `Text.isWord` — a character of an identifier
* `Text.isWordStart` — a character that may open one
-/

namespace PropertyFilter.Text

/-- An ASCII letter, an ASCII digit or an underscore. -/
def isWord (c : Char) : Bool := c.isAlphanum || c == '_'

/-- A word character that is not a digit. -/
def isWordStart (c : Char) : Bool := c.isAlpha || c == '_'

theorem isWord_of_isWordStart {c : Char} (h : isWordStart c) : isWord c := by
  simp only [isWordStart, isWord, Char.isAlphanum, Bool.or_eq_true] at h ⊢
  exact h.imp_left .inl

end PropertyFilter.Text
