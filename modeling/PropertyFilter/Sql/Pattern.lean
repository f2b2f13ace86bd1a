/-!
# Patterns of LIKE

In a pattern, a percent sign stands for any text, an underscore for any one character, and
a backslash takes the character after it literally.

## Main definitions

* `Sql.Pattern.escape` — the pattern that a text alone matches
* `Sql.Pattern.Matches` — what a pattern matches

## Main results

* `Pattern.matches_escape_append` — an escaped text takes exactly itself off the front
-/

namespace PropertyFilter.Sql.Pattern

/-- Puts a backslash before each character that a pattern gives a meaning to. -/
def escape : List Char → List Char
  | [] => []
  | c :: cs => if c = '\\' || c = '%' || c = '_' then '\\' :: c :: escape cs else c :: escape cs

/-- Whether a pattern matches a whole text. A pattern that ends in a lone backslash matches
nothing. -/
def Matches : List Char → List Char → Prop
  | [], text => text = []
  | '%' :: pattern, text => ∃ skipped rest, text = skipped ++ rest ∧ Matches pattern rest
  | '_' :: pattern, text => ∃ c rest, text = c :: rest ∧ Matches pattern rest
  | ['\\'], _ => False
  | '\\' :: c :: pattern, text => ∃ rest, text = c :: rest ∧ Matches pattern rest
  | c :: pattern, text => ∃ rest, text = c :: rest ∧ Matches pattern rest

/-- A character without a meaning of its own stands for itself. -/
theorem matches_cons {c : Char} {pattern text : List Char} (hb : c ≠ '\\') (hp : c ≠ '%')
    (hu : c ≠ '_') :
    Matches (c :: pattern) text ↔ ∃ rest, text = c :: rest ∧ Matches pattern rest := by
  rw [Matches.eq_def]
  split <;> simp_all

/-- An escaped text takes exactly itself off the front. -/
theorem matches_escape_append {literal pattern text : List Char} :
    Matches (escape literal ++ pattern) text ↔
      ∃ rest, text = literal ++ rest ∧ Matches pattern rest := by
  induction literal generalizing text with
  | nil => simp [escape]
  | cons c cs ih =>
    rw [escape]
    split
    · simp only [List.cons_append, Matches, ih]
      constructor
      · rintro ⟨_, rfl, rest, rfl, h⟩
        exact ⟨rest, rfl, h⟩
      · rintro ⟨rest, rfl, h⟩
        exact ⟨_, rfl, rest, rfl, h⟩
    · rename_i h
      simp only [Bool.or_eq_true, decide_eq_true_eq, not_or] at h
      rw [List.cons_append, matches_cons h.1.1 h.1.2 h.2]
      simp only [ih]
      constructor
      · rintro ⟨_, rfl, rest, rfl, h⟩
        exact ⟨rest, rfl, h⟩
      · rintro ⟨rest, rfl, h⟩
        exact ⟨_, rfl, rest, rfl, h⟩

end PropertyFilter.Sql.Pattern
