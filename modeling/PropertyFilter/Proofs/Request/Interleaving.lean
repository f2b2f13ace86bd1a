import PropertyFilter.Proofs.Report
import PropertyFilter.Proofs.Request

/-!
# Pairs of different properties

The pairs of a request act on one property each. What the request holds for a property is made of
the pairs for that property alone, in their order, so pairs of different properties may come in
any order: the request is the same, and with it the query and the report.

## Main definitions

* `Request.Addresses` — the names that a property is given values under
* `Request.addressing` — the pairs for a property
* `Request.amend` — what a pair makes of the value that its property has so far

## Main results

* `Request.get?_addPair` — a pair changes the value of its property, and no other
* `Request.get?_ofPairs` — the value of a property is made of the pairs for it
* `Resource.compile_interleaved` — the order of pairs for different properties does not matter
-/

namespace PropertyFilter

namespace Request

/-! ### The pairs for a property -/

/-- A property is given values under its name with brackets behind it, and under its name alone
unless that ends in brackets itself. -/
def Addresses (name property : String) : Prop :=
  name = property ++ "[]" ∨ ¬ "[]".toList <:+ name.toList ∧ name = property

instance (name property : String) : Decidable (Addresses name property) := by
  unfold Addresses
  infer_instance

/-- The pairs for a property, in their order. -/
def addressing (property : String) (pairs : List (String × String)) : List (String × String) :=
  pairs.filter fun pair => Addresses pair.1 property

/-- What a pair makes of the value that its property has so far. -/
def amend (value : Option RequestValue) (pair : String × String) : RequestValue :=
  match collected? pair.1, value with
  | none, _ => .one (.text pair.2)
  | some _, some (.many values) => .many (values ++ [.text pair.2])
  | some _, _ => .many [.text pair.2]

variable {name property : String} {pairs pairs' : List (String × String)}

/-- A name is for one property. -/
theorem addresses_iff : Addresses name property ↔ (collected? name).getD name = property := by
  cases h : collected? name with
  | none =>
    have hplain : ¬ "[]".toList <:+ name.toList := collected?_eq_none_iff.1 h
    have hne : name ≠ property ++ "[]" := by
      rintro rfl
      exact hplain ⟨property.toList, by simp⟩
    simp only [Addresses, hne, hplain, not_false_eq_true, true_and, false_or, Option.getD_none]
  | some stem =>
    obtain rfl : name = stem ++ "[]" := collected?_eq_some_iff.1 h
    have hsuffix : "[]".toList <:+ (stem ++ "[]").toList := ⟨stem.toList, by simp⟩
    simp only [Addresses, hsuffix, not_true_eq_false, false_and, or_false, Option.getD_some]
    rw [← String.toList_inj, String.toList_append, String.toList_append, List.append_left_inj,
      String.toList_inj]

/-! ### Values of a request -/

/-- A pair changes the value of its property, and no other. -/
theorem get?_addPair (r : Request) (pair : String × String) (property : String) :
    (r.addPair pair).get? property =
      if Addresses pair.1 property then some (amend (r.get? property) pair)
      else r.get? property := by
  obtain ⟨name, text⟩ := pair
  simp only [addresses_iff]
  cases hname : collected? name with
  | none =>
    rw [addPair_plain hname, SortedMap.get?_insert]
    simp [amend, hname]
  | some stem =>
    -- the pair is put behind the list of its property, or starts one
    have hinsert : r.addPair (name, text) = r.insert stem (amend (r.get? stem) (name, text)) := by
      simp only [addPair, amend, hname]
      split
      · rename_i values hvalues
        rw [hvalues]
      · rename_i hother
        cases hvalue : r.get? stem with
        | none => rfl
        | some value =>
          cases value with
          | one scalar => rfl
          | many values => exact absurd hvalue (hother values)
    rw [hinsert, SortedMap.get?_insert, Option.getD_some]
    by_cases hstem : stem = property
    · rw [if_pos hstem, if_pos hstem, hstem]
    · rw [if_neg hstem, if_neg hstem]

/-- The value of a property is made of the pairs for it, in their order. -/
theorem get?_ofPairs (pairs : List (String × String)) (property : String) :
    (ofPairs pairs).get? property =
      (addressing property pairs).foldl (fun value pair => some (amend value pair)) none := by
  induction pairs using List.reverseRecOn with
  | nil => rfl
  | append_singleton pairs pair ih =>
    rw [ofPairs_concat, get?_addPair, ih, addressing, addressing, List.filter_append]
    by_cases h : Addresses pair.1 property
    · simp [h]
    · simp [h]

/-- Pairs that come in the same order for each property make one request. -/
theorem ofPairs_congr (h : ∀ property, addressing property pairs = addressing property pairs') :
    ofPairs pairs = ofPairs pairs' := by
  refine SortedMap.ext_get? fun property => ?_
  rw [get?_ofPairs, get?_ofPairs, h]

end Request

/-! ### Queries and reports -/

/-- The order of pairs for different properties does not matter to the query, nor to the report. -/
theorem Resource.compile_interleaved (r : Resource) {pairs pairs' : List (String × String)}
    (h : ∀ property, Request.addressing property pairs = Request.addressing property pairs') :
    ∃ draft report, r.compile pairs = .ok (draft, report) ∧
      r.compile pairs' = .ok (draft, report) := by
  obtain ⟨outcomes, draft, happly⟩ : ∃ outcomes draft, r.filters.applyEach r.schema
      (Draft.new r.schema.table r.schema.tableAlias .postgres) (Request.ofPairs pairs).toList =
        .ok (outcomes, draft) := FilterSet.exists_applyEach_eq_ok rfl
  have hcompile := compile_of_applyEach happly
  refine ⟨draft, _, hcompile, ?_⟩
  -- compiling reads the request that the pairs make, and nothing else of them
  rw [← hcompile, compile, compile, Request.ofPairs_congr h]

/-- Values for two properties, one of which collects them, in two orders. -/
theorem Resource.compile_interleaved_two : ∃ r : Resource,
    r.filters.properties.keys = ["data.name", "data.size"] ∧
    (∀ property,
      Request.addressing property [("data.size[]", "1"), ("data.name", "x"), ("data.size[]", "2")] =
      Request.addressing property
        [("data.size[]", "1"), ("data.size[]", "2"), ("data.name", "x")]) ∧
    ∃ draft report,
      r.compile [("data.size[]", "1"), ("data.name", "x"), ("data.size[]", "2")] =
        .ok (draft, report) ∧
      r.compile [("data.size[]", "1"), ("data.size[]", "2"), ("data.name", "x")] =
        .ok (draft, report) := by
  have hpairs (property : String) :
      Request.addressing property [("data.size[]", "1"), ("data.name", "x"), ("data.size[]", "2")] =
      Request.addressing property
        [("data.size[]", "1"), ("data.size[]", "2"), ("data.name", "x")] := by
    have hsize : Request.Addresses "data.size[]" property ↔ "data.size" = property :=
      Request.addresses_iff
    have hname : Request.Addresses "data.name" property ↔ "data.name" = property :=
      Request.addresses_iff
    simp only [Request.addressing, List.filter_cons, hsize, hname, List.filter_nil]
    by_cases h : "data.name" = property
    · subst h
      rfl
    · simp [h]
  obtain ⟨s, hs⟩ : ∃ s, FilterSet.ofEntries [("data.name", ⟨none, none, false⟩),
      ("data.size", ⟨some "int", none, false⟩)] = .ok s := ⟨_, rfl⟩
  refine ⟨⟨"items", ⟨"items", "i", .ofList [("data", .json)]⟩, s⟩, ?_, hpairs,
    compile_interleaved _ hpairs⟩
  obtain rfl := Except.ok.inj hs
  rfl

end PropertyFilter
