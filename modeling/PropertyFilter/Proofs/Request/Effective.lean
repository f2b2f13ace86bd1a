import Mathlib.Data.List.DropRight
import PropertyFilter.Proofs.Request.Interleaving

/-!
# The pairs that count

Not all pairs for a property leave something in the request. A pair without brackets discards all
pairs in front of it, and so does the first pair with brackets behind it. What is left is the last
pair alone, if it has no brackets, and otherwise the pairs with brackets at the end.

## Main definitions

* `Request.collecting` — the pairs with brackets at the end
* `Request.effective?` — what the pairs for a property amount to

## Main results

* `Request.ofPairs_effective` — the request holds what the pairs for a property amount to
-/

namespace PropertyFilter.Request

variable {property text : String} {pair : String × String} {addressed : List (String × String)}

/-- The pairs at the end of a list that have the name of the property with brackets behind it, back
to the last pair that has not. -/
def collecting (property : String) (addressed : List (String × String)) :
    List (String × String) :=
  addressed.rtakeWhile fun pair => pair.1 = property ++ "[]"

/-- What the pairs for a property amount to: nothing if there are none, the text of the last pair
if it has no brackets, and otherwise the texts of the pairs with brackets at the end. -/
def effective? (property : String) (addressed : List (String × String)) : Option RequestValue :=
  match addressed.getLast? with
  | none => none
  | some (name, text) =>
    if name = property then some (.one (.text text))
    else some (.many ((collecting property addressed).map fun pair => .text pair.2))

theorem ne_append_brackets (property : String) : property ++ "[]" ≠ property := by
  intro h
  simpa using congrArg String.length h

theorem effective?_concat_plain : effective? property (addressed ++ [(property, text)]) =
    some (.one (.text text)) := by
  simp [effective?]

theorem effective?_concat_collected :
    effective? property (addressed ++ [(property ++ "[]", text)]) =
      some (.many ((collecting property addressed).map (fun pair => .text pair.2) ++
        [.text text])) := by
  simp [effective?, collecting, List.rtakeWhile_concat_pos]

/-- Nothing is collected in front of a pair without brackets. -/
theorem collecting_concat_plain : collecting property (addressed ++ [(property, text)]) = [] :=
  List.rtakeWhile_concat_neg _ _ _ (by simpa using (ne_append_brackets property).symm)

/-- The pairs for a property have its name, with brackets or without. -/
theorem eq_or_of_addresses {name : String} (h : Addresses name property) :
    name = property ++ "[]" ∧ collected? name = some property ∨
      name = property ∧ collected? name = none := by
  obtain rfl | ⟨hplain, rfl⟩ := h
  · exact .inl ⟨rfl, collected?_append property⟩
  · exact .inr ⟨rfl, collected?_eq_none_iff.2 hplain⟩

/-- A pair with brackets is put behind the pairs that are being collected. -/
theorem amend_effective?_collected (h : ∀ pair ∈ addressed, Addresses pair.1 property) :
    some (amend (effective? property addressed) (property ++ "[]", text)) =
      effective? property (addressed ++ [(property ++ "[]", text)]) := by
  have hcollected : collected? (property ++ "[]") = some property := collected?_append property
  rw [effective?_concat_collected]
  cases addressed using List.reverseRecOn with
  | nil => simp [amend, hcollected, effective?, collecting]
  | append_singleton addressed last =>
    obtain ⟨name, before⟩ := last
    have hname : Addresses name property := h (name, before) (by simp)
    obtain ⟨rfl, -⟩ | ⟨rfl, -⟩ := eq_or_of_addresses hname
    · rw [effective?_concat_collected]
      simp [amend, hcollected, collecting, List.rtakeWhile_concat_pos]
    · -- the pair without brackets is discarded
      rw [effective?_concat_plain, collecting_concat_plain]
      simp [amend, hcollected]

/-- Amending pair by pair leaves what the pairs amount to. -/
theorem foldl_amend_eq_effective? (h : ∀ pair ∈ addressed, Addresses pair.1 property) :
    addressed.foldl (fun value pair => some (amend value pair)) none =
      effective? property addressed := by
  induction addressed using List.reverseRecOn with
  | nil => rfl
  | append_singleton addressed pair ih =>
    obtain ⟨name, text⟩ := pair
    have hname : Addresses name property := h (name, text) (by simp)
    have hothers : ∀ pair ∈ addressed, Addresses pair.1 property :=
      fun pair hpair => h pair (List.mem_append_left _ hpair)
    rw [List.foldl_concat, ih hothers]
    obtain ⟨rfl, -⟩ | ⟨rfl, hplain⟩ := eq_or_of_addresses hname
    · exact amend_effective?_collected hothers
    · rw [effective?_concat_plain]
      simp [amend, hplain]

/-- Pairs for a property amount to something. -/
theorem isSome_effective? : (effective? property addressed).isSome ↔ addressed ≠ [] := by
  cases addressed using List.reverseRecOn with
  | nil => simp [effective?]
  | append_singleton addressed pair =>
    simp only [effective?, List.getLast?_concat]
    split_ifs <;> simp

theorem get?_ofPairs_eq_effective? (pairs : List (String × String)) (property : String) :
    (ofPairs pairs).get? property = effective? property (addressing property pairs) := by
  rw [get?_ofPairs]
  refine foldl_amend_eq_effective? fun pair hpair => ?_
  simpa using (List.mem_filter.1 hpair).2

/-- A request has a value for the properties that there are pairs for. -/
theorem isSome_get?_ofPairs {pairs : List (String × String)} :
    ((ofPairs pairs).get? property).isSome ↔ ∃ pair ∈ pairs, Addresses pair.1 property := by
  rw [get?_ofPairs_eq_effective?, isSome_effective?, addressing, ne_eq, List.filter_eq_nil_iff]
  simp

/-- A request has a value for a property just if there is a pair for it, and the value is what the
pairs for it amount to. -/
theorem ofPairs_effective (pairs : List (String × String)) (property : String) :
    (((ofPairs pairs).get? property).isSome ↔ ∃ pair ∈ pairs, Addresses pair.1 property) ∧
      (ofPairs pairs).get? property = effective? property (addressing property pairs) :=
  ⟨isSome_get?_ofPairs, get?_ofPairs_eq_effective? pairs property⟩

/-- Pairs in front of one without brackets leave nothing behind. -/
example : (ofPairs [("data.size[]", "1"), ("data.size", "2"), ("data.size[]", "3"),
    ("data.size[]", "4")]).toList = [("data.size", .many [.text "3", .text "4"])] := by decide

end PropertyFilter.Request
