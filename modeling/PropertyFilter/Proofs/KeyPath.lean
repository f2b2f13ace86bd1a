import PropertyFilter.KeyPath
import PropertyFilter.Proofs.Text.Joined

/-!
# Safe key paths

A path is safe if its column is an identifier and its keys stand for themselves in an array
literal. The paths that pass the check are the safe ones.

## Main definitions

* `KeyPath.IsSafe` — a path whose parts can be written into SQL text

## Main results

* `check_eq_ok_iff` — the check accepts the safe paths and no others
* `quote_notMem_key` — no key of a safe path can close the literal that it stands in
-/

namespace PropertyFilter.KeyPath

/-- A path whose parts can be written into SQL text. -/
structure IsSafe (p : KeyPath) : Prop where
  column : Sql.isIdentifier p.column
  segments : ∀ s ∈ p.segments, Sql.isKeySegment s

variable {p : KeyPath} {property : String}

theorem IsSafe.isEmpty_key (h : p.IsSafe) : p.key.isEmpty = false := by
  cases hempty : p.key.isEmpty with
  | false => rfl
  | true =>
    -- an empty text has one segment, which is empty
    have hkey : p.key = "" := by simpa using hempty
    have hsegment := h.segments "" (by simp [KeyPath.segments, hkey])
    exact absurd hsegment (by decide)

/-- The check accepts the safe paths and no others. -/
theorem check_eq_ok_iff : check property = .ok p ↔ p = ofProperty property ∧ p.IsSafe := by
  constructor
  · intro h
    obtain rfl := ofProperty_of_check h
    refine ⟨rfl, ?_⟩
    -- the column is checked first, then the keys
    simp only [check] at h
    split at h
    · simp at h
    · rename_i hcolumn
      split at h
      · simp at h
      · split at h
        · simp at h
        · rename_i hfind
          refine ⟨by simpa using hcolumn, fun s hs => ?_⟩
          simpa using List.find?_eq_none.1 hfind s hs
  · rintro ⟨rfl, h⟩
    have hfind : (ofProperty property).segments.find? (fun s => !Sql.isKeySegment s) = none := by
      rw [List.find?_eq_none]
      intro s hs
      simp [h.segments s hs]
    simp only [check]
    rw [if_neg (by simp [h.column]), if_neg (by simp [h.isEmpty_key]), hfind]

/-- The keys are separated by commas. -/
theorem intercalate_segments (p : KeyPath) : String.intercalate "," p.segments = p.key := by
  rw [← String.toList_inj, String.toList_intercalate, segments, List.map_map]
  simp [Function.comp_def]

/-- A character of a key is the comma or stands for itself. -/
theorem IsSafe.eq_comma_or (h : p.IsSafe) {c : Char} (hc : c ∈ p.key.toList) :
    c = ',' ∨ Sql.isKeyBreaker c = false := by
  rw [← p.intercalate_segments, String.toList_intercalate] at hc
  rcases Text.mem_of_mem_intercalate hc with hc | ⟨segment, hsegment, hc⟩
  · exact .inl (by simpa using hc)
  · right
    obtain ⟨s, hs, rfl⟩ := List.mem_map.1 hsegment
    have hkey := h.segments s hs
    simp only [Sql.isKeySegment, Bool.and_eq_true] at hkey
    simpa using List.all_eq_true.1 hkey.2 c hc

/-- No key of a safe path can close the literal that it stands in. -/
theorem IsSafe.quote_notMem_key (h : p.IsSafe) : '\'' ∉ p.key.toList := by
  intro hquote
  rcases h.eq_comma_or hquote with heq | hbreaker
  · exact absurd heq (by decide)
  · exact absurd hbreaker (by decide)

end PropertyFilter.KeyPath
