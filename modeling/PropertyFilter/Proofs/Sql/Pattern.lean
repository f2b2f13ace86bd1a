import PropertyFilter.Sql.Pattern

/-!
# Escaped texts in patterns

With wildcards around it, an escaped text is found literally: at the front, at the end or
anywhere in what the pattern matches. No escaped text leaves an escape character open.

## Main definitions

* `Pattern.isComplete` — a pattern that does not end in an open escape character

## Main results

* `Pattern.matches_escape_percent_iff`, `Pattern.matches_percent_escape_iff`,
  `Pattern.matches_percent_escape_percent_iff` — where an escaped text is found
* `Pattern.isComplete_escape_append` — escaping leaves nothing open
-/

namespace PropertyFilter.Sql.Pattern

variable {literal pattern text : List Char} {c : Char}

/-! ### Where an escaped text is found -/

theorem matches_percent_iff :
    Matches ('%' :: pattern) text ↔
      ∃ skipped rest, text = skipped ++ rest ∧ Matches pattern rest := by
  rw [Matches]

/-- An escaped text matches itself and nothing else. -/
theorem matches_escape_iff : Matches (escape literal) text ↔ text = literal := by
  rw [← List.append_nil (escape literal), matches_escape_append]
  constructor
  · rintro ⟨rest, rfl, hrest⟩
    obtain rfl : rest = [] := hrest
    exact List.append_nil literal
  · rintro rfl
    exact ⟨[], (List.append_nil text).symm, rfl⟩

theorem matches_percent_nil : Matches ['%'] text :=
  matches_percent_iff.2 ⟨text, [], (List.append_nil text).symm, rfl⟩

/-- In front of a wildcard, an escaped text is found at the front. -/
theorem matches_escape_percent_iff :
    Matches (escape literal ++ ['%']) text ↔ literal <+: text := by
  rw [matches_escape_append]
  constructor
  · rintro ⟨rest, rfl, -⟩
    exact List.prefix_append literal rest
  · rintro ⟨rest, rfl⟩
    exact ⟨rest, rfl, matches_percent_nil⟩

/-- Behind a wildcard it is found at the end. -/
theorem matches_percent_escape_iff :
    Matches ('%' :: escape literal) text ↔ literal <:+ text := by
  rw [matches_percent_iff]
  constructor
  · rintro ⟨skipped, rest, rfl, h⟩
    obtain rfl := matches_escape_iff.1 h
    exact List.suffix_append skipped rest
  · rintro ⟨skipped, rfl⟩
    exact ⟨skipped, literal, rfl, matches_escape_iff.2 rfl⟩

/-- Between two wildcards it is found anywhere. -/
theorem matches_percent_escape_percent_iff :
    Matches ('%' :: (escape literal ++ ['%'])) text ↔ literal <:+: text := by
  rw [matches_percent_iff]
  constructor
  · rintro ⟨skipped, rest, rfl, h⟩
    obtain ⟨after, rfl⟩ := matches_escape_percent_iff.1 h
    exact ⟨skipped, after, List.append_assoc skipped literal after⟩
  · rintro ⟨skipped, after, rfl⟩
    exact ⟨skipped, literal ++ after, List.append_assoc skipped literal after,
      matches_escape_percent_iff.2 (List.prefix_append literal after)⟩

/-- A blank in front of an escaped text belongs to what is found. -/
theorem escape_blank_cons : escape (' ' :: literal) = ' ' :: escape literal := by
  rw [escape, if_neg (by decide)]

/-! ### Escape characters that are left open -/

/-- Whether every escape character of a pattern has a character after it to take literally. -/
def isComplete : List Char → Bool
  | [] => true
  | ['\\'] => false
  | '\\' :: _ :: cs => isComplete cs
  | _ :: cs => isComplete cs

theorem isComplete_cons (h : c ≠ '\\') : isComplete (c :: pattern) = isComplete pattern := by
  rw [isComplete.eq_def]
  split <;> simp_all

/-- Escaping leaves nothing open. -/
theorem isComplete_escape_append : isComplete (escape literal ++ pattern) = isComplete pattern := by
  induction literal with
  | nil => rfl
  | cons c cs ih =>
    rw [escape]
    split
    · rw [List.cons_append, List.cons_append, isComplete, ih]
    · rename_i hc
      -- an escape character would have been escaped
      have hne : c ≠ '\\' := by
        rintro rfl
        exact hc (by decide)
      rw [List.cons_append, isComplete_cons hne, ih]

theorem isComplete_escape : isComplete (escape literal) := by
  rw [← List.append_nil (escape literal), isComplete_escape_append]
  rfl

end PropertyFilter.Sql.Pattern
