import PropertyFilter.Description
import PropertyFilter.Proofs.FilterSet
import PropertyFilter.Proofs.Request

/-!
# Described names

The names that a filter set is described by, and what requests that use them ask for. Brackets
behind a listed name are always taken for the mark of a list, so a property whose own name ends in
brackets cannot be asked for under the name it is listed by.

## Main definitions

* `FilterSet.Agrees` — a description that requests are read by

## Main results

* `FilterSet.get?_describe_own` — every property is listed under its own name
* `FilterSet.exists_of_get?_describe` — every name that is listed is one of a property
* `FilterSet.agrees_iff` — requests are read as described if no property has brackets behind its
  name
-/

namespace PropertyFilter

/-! ### Later entries -/

/-- An entry counts if no later entry has its name. -/
theorem SortedMap.get?_ofList_append_cons {α : Type} {before after : List (String × α)}
    {k : String} {a : α} (h : ∀ e ∈ after, e.1 ≠ k) :
    (ofList (before ++ (k, a) :: after)).get? k = some a := by
  have hafter : after.reverse.find? (·.1 == k) = none := by
    rw [List.find?_eq_none]
    intro e he
    simpa using h e (List.mem_reverse.1 he)
  rw [get?_ofList, List.reverse_append, List.reverse_cons, List.append_assoc, List.find?_append,
    hafter]
  simp

/-- No text comes before what it starts with. -/
theorem Text.not_append_lt (s t : String) : ¬ s ++ t < s := by
  change ¬ (s ++ t).toList < s.toList
  rw [String.toList_append]
  exact List.not_lt.2 List.le_append_left

namespace Property

variable {p : Property} {name : String}

theorem mem_listedNames_iff : name ∈ p.listedNames ↔ name = p.name ∨
    p.listsCollection ∧ name = p.name ++ String.ofList Request.collectionSuffix := by
  unfold listedNames
  split
  · rename_i h
    simp [h]
  · rename_i h
    simp [h]

/-- Among the names of a property, those with brackets are flagged as lists. -/
theorem isCollection_descriptor_iff :
    (p.descriptor name).isCollection ↔ Request.collectionSuffix <:+ name.toList :=
  List.isSuffixOf_iff_suffix

end Property

namespace FilterSet

variable {entries : List (String × PropertyEntry)} {s : FilterSet} {name : String} {p : Property}
  {d : Descriptor}

/-! ### What is listed -/

theorem mem_toList_iff (h : ofEntries entries = .ok s) : p ∈ s.toList ↔ s.get? p.name = some p := by
  unfold toList SortedMap.values
  rw [List.mem_map]
  constructor
  · rintro ⟨⟨key, q⟩, hmem, rfl⟩
    have hq := s.properties.mem_toList_iff.1 hmem
    rwa [get?_ofEntries_name h hq]
  · intro hp
    exact ⟨(p.name, p), s.properties.mem_toList_iff.2 hp, rfl⟩

/-- Every name that is listed is one of a property. -/
theorem exists_of_get?_describe (h : ofEntries entries = .ok s)
    (hd : s.describe.get? name = some d) :
    ∃ p, s.get? p.name = some p ∧ name ∈ p.listedNames ∧ d = p.descriptor name := by
  obtain ⟨p, hp, hmem⟩ := List.mem_flatMap.1 (SortedMap.mem_of_get?_ofList hd)
  obtain ⟨listed, hlisted, heq⟩ := List.mem_map.1 hmem
  obtain ⟨rfl, rfl⟩ := Prod.mk.inj heq
  exact ⟨p, (mem_toList_iff h).1 hp, hlisted, rfl⟩

/-- Every property is listed under its own name. -/
theorem get?_describe_own (h : ofEntries entries = .ok s) (hp : s.get? name = some p) :
    s.describe.get? name = some (p.descriptor name) := by
  obtain ⟨before, after, hsplit⟩ := List.append_of_mem (s.properties.mem_toList_iff.2 hp)
  have hname : p.name = name := get?_ofEntries_name h hp
  -- names listed later belong to properties whose names come later
  have hlater : ∀ q ∈ after.map (·.2), name < q.name := by
    intro q hq
    obtain ⟨e, he, rfl⟩ := List.mem_map.1 hq
    have hmem : e ∈ s.properties.toList := hsplit ▸ by simp [he]
    have hget : s.get? e.1 = some e.2 := s.properties.mem_toList_iff.1 hmem
    rw [get?_ofEntries_name h hget]
    have hsorted := s.properties.sorted
    rw [hsplit, List.pairwise_append, List.pairwise_cons] at hsorted
    exact hsorted.2.1.1 e he
  unfold describe toList SortedMap.values
  rw [hsplit, List.map_append, List.map_cons, List.flatMap_append, List.flatMap_cons,
    Property.listedNames, List.map_cons, List.cons_append, hname]
  refine SortedMap.get?_ofList_append_cons fun e he heq => ?_
  rcases List.mem_append.1 he with he | he
  · -- the other name of the property itself is longer
    obtain ⟨listed, hlisted, rfl⟩ := List.mem_map.1 he
    split at hlisted
    · obtain rfl := List.mem_singleton.1 hlisted
      exact absurd heq (by simp [Request.collectionSuffix])
    · simp at hlisted
  · obtain ⟨q, hq, he⟩ := List.mem_flatMap.1 he
    obtain ⟨listed, hlisted, rfl⟩ := List.mem_map.1 he
    have hlt := hlater q hq
    obtain rfl : listed = name := heq
    rcases Property.mem_listedNames_iff.1 hlisted with hown | ⟨-, hbrackets⟩
    · exact String.lt_irrefl _ (hown ▸ hlt)
    · exact Text.not_append_lt _ _ (hbrackets ▸ hlt)

/-! ### Requests that use listed names -/

/-- A description that requests are read by: every property is listed as taking one value under its
own name, and pairs of a listed name make a request for the property it stands for, with a list of
their values or with the last of them. -/
structure Agrees (s : FilterSet) : Prop where
  own : ∀ name p, s.get? name = some p →
    ∃ d, s.describe.get? name = some d ∧ d.property = name ∧ d.isCollection = false
  parsed : ∀ name d, s.describe.get? name = some d → ∀ (values : List String) (hne : values ≠ []),
    (Request.ofPairs (values.map fun v => (name, v))).toList =
      [(d.property, if d.isCollection then .many (values.map .text)
        else .one (.text (values.getLast hne)))]

/-- Pairs of a listed name ask for its property, unless it is the property's own name and ends in
brackets. -/
theorem toList_ofPairs_of_get?_describe (h : ofEntries entries = .ok s)
    (hd : s.describe.get? name = some d)
    (hown : name = d.property → ¬ Request.collectionSuffix <:+ name.toList)
    {values : List String} (hne : values ≠ []) :
    (Request.ofPairs (values.map fun v => (name, v))).toList =
      [(d.property, if d.isCollection then .many (values.map .text)
        else .one (.text (values.getLast hne)))] := by
  obtain ⟨p, -, hlisted, rfl⟩ := exists_of_get?_describe h hd
  rcases Property.mem_listedNames_iff.1 hlisted with rfl | ⟨-, rfl⟩
  · have hplain := hown rfl
    have hflag : ¬ (p.descriptor p.name).isCollection := by
      rwa [Property.isCollection_descriptor_iff]
    rw [if_neg hflag]
    exact Request.toList_ofPairs_plain (Request.collected?_eq_none_iff.2 hplain) hne
  · have hflag :
        (p.descriptor (p.name ++ String.ofList Request.collectionSuffix)).isCollection := by
      rw [Property.isCollection_descriptor_iff, String.toList_append, String.toList_ofList]
      exact List.suffix_append _ _
    rw [if_pos hflag]
    exact Request.toList_ofPairs_collected (Request.collected?_append p.name) hne

/-- Requests are read as described exactly if no property has brackets behind its name. -/
theorem agrees_iff (h : ofEntries entries = .ok s) :
    s.Agrees ↔ ∀ name p, s.get? name = some p → ¬ Request.collectionSuffix <:+ name.toList := by
  constructor
  · intro hagrees name p hp
    obtain ⟨d, hd, -, hflag⟩ := hagrees.own name p hp
    obtain rfl : p.descriptor name = d := Option.some.inj ((get?_describe_own h hp).symm.trans hd)
    rw [← Property.isCollection_descriptor_iff, hflag]
    exact Bool.false_ne_true
  · intro hplain
    constructor
    · intro name p hp
      refine ⟨_, get?_describe_own h hp, get?_ofEntries_name h hp, ?_⟩
      rw [Bool.eq_false_iff, Ne, Property.isCollection_descriptor_iff]
      exact hplain name p hp
    · intro name d hd values hne
      obtain ⟨p, hp, -, rfl⟩ := exists_of_get?_describe h hd
      exact toList_ofPairs_of_get?_describe h hd (fun hname => hname ▸ hplain p.name p hp) hne

/-- Numbers under a plain name are asked for as described. -/
theorem agrees_iff_level : ∃ s, ofEntries [("data.level", ⟨some "int", none, false⟩)] = .ok s ∧
    s.Agrees := by
  have h : ofEntries [("data.level", ⟨some "int", none, false⟩)] = .ok _ := rfl
  refine ⟨_, h, (agrees_iff h).2 fun name p hp => ?_⟩
  obtain ⟨rfl, -⟩ := Prod.mk.inj (List.mem_singleton.1 ((SortedMap.mem_toList_iff _).2 hp))
  decide

/-- A truth value whose name ends in brackets is listed as a list, and pairs of its name ask for
another property. -/
theorem not_agrees_brackets : ∃ s, ofEntries [("data.open[]", ⟨some "bool", none, false⟩)] = .ok s ∧
    s.describe.get? "data.open[]" = some ⟨"data.open[]", .bool, "exact", false, true⟩ ∧
      (Request.ofPairs [("data.open[]", "true")]).keys = ["data.open"] ∧ ¬ s.Agrees := by
  obtain ⟨s, hs⟩ : ∃ s, ofEntries [("data.open[]", ⟨some "bool", none, false⟩)] = .ok s := ⟨_, rfl⟩
  obtain rfl := Except.ok.inj hs
  refine ⟨_, rfl, rfl, rfl, fun hagrees => ?_⟩
  obtain ⟨d, hd, -, hflag⟩ := hagrees.own "data.open[]" _ rfl
  obtain rfl : (⟨"data.open[]", .bool, "exact", false, true⟩ : Descriptor) = d := Option.some.inj hd
  exact Bool.noConfusion hflag

end FilterSet

end PropertyFilter
