/-!
# Splitting a text at a separator

## Main definitions

* `Text.cut` — the two sides of the first separator

## Main results

* `cut_append_cons` — a separator-free text followed by the separator is cut off exactly
* `eq_append_of_cut` — the two sides and the separator are the text
-/

namespace PropertyFilter.Text

/-- The text before the first `sep`, and what follows that separator if there is one. -/
def cut (sep : Char) : List Char → List Char × Option (List Char)
  | [] => ([], none)
  | c :: cs => if c = sep then ([], some cs) else ((c :: (cut sep cs).1), (cut sep cs).2)

variable {sep : Char} {before after : List Char}

theorem cut_append_cons (h : sep ∉ before) :
    cut sep (before ++ sep :: after) = (before, some after) := by
  induction before with
  | nil => simp [cut]
  | cons c cs ih =>
    obtain ⟨hc, hcs⟩ := List.ne_and_not_mem_of_not_mem_cons h
    simp [cut, hc.symm, ih hcs]

/-- The two sides and the separator between them are the text. -/
theorem eq_append_of_cut {cs : List Char} (h : cut sep cs = (before, some after)) :
    cs = before ++ sep :: after := by
  induction cs generalizing before with
  | nil => simp [cut] at h
  | cons c cs ih =>
    rw [cut] at h
    split at h
    · rename_i hc
      obtain ⟨rfl, hafter⟩ := Prod.mk.inj h
      rw [hc, Option.some.inj hafter, List.nil_append]
    · obtain ⟨rfl, hafter⟩ := Prod.mk.inj h
      rw [List.cons_append, ← ih (Prod.ext rfl hafter)]

end PropertyFilter.Text
