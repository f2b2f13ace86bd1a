import Mathlib.Data.List.Induction
import PropertyFilter.Request

/-!
# Pairs of one name

What a request holds if all its pairs have one name. With brackets behind it the name collects
the values of all pairs for the property in front of the brackets, and without them the last pair
is all that counts.

## Main results

* `collected?_eq_some_iff`, `collected?_eq_none_iff` — the names with brackets behind them
* `toList_ofPairs_collected`, `toList_ofPairs_plain` — the request that pairs of one name make
-/

namespace PropertyFilter

/-- Writing the only name of a map again replaces its value. -/
theorem SortedMap.toList_insert_of_toList_eq {α : Type} {m : SortedMap α} {k : String} {a : α}
    (h : m.toList = [(k, a)]) (b : α) : (m.insert k b).toList = [(k, b)] := by
  simp [SortedMap.insert, SortedMap.insertEntry, h]

theorem SortedMap.get?_of_toList_eq {α : Type} {m : SortedMap α} {k : String} {a : α}
    (h : m.toList = [(k, a)]) : m.get? k = some a := by
  simp [SortedMap.get?, h]

namespace Request

variable {name property : String} {values : List String} {r : Request}

/-! ### Names with brackets -/

/-- A name collects for a property if it is that property with brackets behind it. -/
theorem collected?_eq_some_iff :
    collected? name = some property ↔ name = property ++ String.ofList collectionSuffix := by
  rw [← String.toList_inj, String.toList_append, String.toList_ofList]
  unfold collected?
  simp only
  split
  · rename_i hsuffix
    obtain ⟨front, hfront⟩ := List.isSuffixOf_iff_suffix.1 hsuffix
    have htake : name.toList.take (name.toList.length - 2) = front := by
      rw [← hfront]
      simp [collectionSuffix]
    rw [htake, ← hfront, Option.some.injEq, List.append_left_inj, ← String.toList_inj,
      String.toList_ofList]
  · rename_i hsuffix
    simp only [reduceCtorEq, false_iff]
    intro hname
    exact hsuffix (List.isSuffixOf_iff_suffix.2 ⟨property.toList, hname.symm⟩)

theorem collected?_eq_none_iff : collected? name = none ↔ ¬ collectionSuffix <:+ name.toList := by
  unfold collected?
  simp [← List.isSuffixOf_iff_suffix]

/-- Brackets behind a property are taken off. -/
theorem collected?_append (property : String) :
    collected? (property ++ String.ofList collectionSuffix) = some property :=
  collected?_eq_some_iff.2 rfl

/-! ### Adding pairs -/

theorem addPair_plain (h : collected? name = none) (value : String) :
    r.addPair (name, value) = r.insert name (.one (.text value)) := by
  simp [addPair, h]

theorem addPair_collected (h : collected? name = some property) {collected : List Scalar}
    (hr : r.get? property = some (.many collected)) (value : String) :
    r.addPair (name, value) = r.insert property (.many (collected ++ [.text value])) := by
  simp [addPair, h, hr]

theorem ofPairs_concat (pairs : List (String × String)) (pair : String × String) :
    ofPairs (pairs ++ [pair]) = (ofPairs pairs).addPair pair := by
  simp [ofPairs]

/-- Of pairs with one name without brackets the last one counts. -/
theorem toList_ofPairs_plain (h : collected? name = none) (hne : values ≠ []) :
    (ofPairs (values.map fun v => (name, v))).toList =
      [(name, .one (.text (values.getLast hne)))] := by
  induction values using List.reverseRecOn with
  | nil => exact absurd rfl hne
  | append_singleton values value ih =>
    rw [List.map_append, List.map_singleton, ofPairs_concat, addPair_plain h,
      List.getLast_concat]
    cases values with
    | nil => rfl
    | cons first values => exact SortedMap.toList_insert_of_toList_eq (ih (by simp)) _

/-- Pairs with one name with brackets make a list of their values. -/
theorem toList_ofPairs_collected (h : collected? name = some property) (hne : values ≠ []) :
    (ofPairs (values.map fun v => (name, v))).toList =
      [(property, .many (values.map .text))] := by
  induction values using List.reverseRecOn with
  | nil => exact absurd rfl hne
  | append_singleton values value ih =>
    rw [List.map_append, List.map_singleton, ofPairs_concat]
    cases values with
    | nil =>
      have hempty : (ofPairs []).get? property = none := rfl
      simp only [List.map_nil, addPair, h, hempty]
      rfl
    | cons first values =>
      -- the pairs so far have made a list, which the next value is put behind
      have hlist := ih (by simp)
      rw [addPair_collected h (SortedMap.get?_of_toList_eq hlist),
        SortedMap.toList_insert_of_toList_eq hlist]
      simp

end Request

end PropertyFilter
