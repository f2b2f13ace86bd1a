/-!
# Maps sorted by name

A finite map from names to values, kept as a list in strictly ascending order of
names. Names are compared character by character by code point, which is also the
order of their UTF-8 bytes, so every listing of such a map comes out in byte order.

## Main definitions

* `SortedMap` — the map, with its order as a field
* `SortedMap.insert`, `SortedMap.ofList` — a later value replaces an earlier one
* `SortedMap.get?`, `SortedMap.keys`, `SortedMap.values` — the views

## Main results

* `get?_insert` — looking up after a write
* `get?_ofList` — the last entry of a name is the one that counts
* `mem_keys_iff` — a name is listed exactly when it can be looked up
* `ext_get?` — maps with the same look-ups are equal
* `toList_ofList` — a map of entries in ascending order lists those entries
-/

namespace PropertyFilter

/-- Entries in strictly ascending order of names. -/
structure SortedMap (α : Type) where
  /-- The entries, smallest name first. -/
  toList : List (String × α)
  /-- Each name is smaller than all names after it. -/
  sorted : toList.Pairwise fun a b => a.1 < b.1

namespace SortedMap

variable {α β : Type} {k k' : String} {a a' : α}

/-- Puts an entry into a sorted list, in place of the entry of that name if there is one. -/
def insertEntry (k : String) (a : α) : List (String × α) → List (String × α)
  | [] => [(k, a)]
  | e :: es =>
    if k < e.1 then (k, a) :: e :: es
    else if k = e.1 then (k, a) :: es
    else e :: insertEntry k a es

theorem mem_insertEntry {x : String × α} {es : List (String × α)} :
    x ∈ insertEntry k a es → x = (k, a) ∨ x ∈ es := by
  induction es with
  | nil => simp [insertEntry]
  | cons e es ih =>
    rw [insertEntry]
    split
    · simp
    · split
      · simp; grind
      · simp only [List.mem_cons]; grind

theorem insertEntry_sorted {es : List (String × α)}
    (h : es.Pairwise fun a b => a.1 < b.1) :
    (insertEntry k a es).Pairwise fun a b => a.1 < b.1 := by
  induction es with
  | nil => simp [insertEntry]
  | cons e es ih =>
    obtain ⟨he, hes⟩ := List.pairwise_cons.1 h
    rw [insertEntry]
    split
    · rename_i hlt
      refine List.pairwise_cons.2 ⟨fun x hx => ?_, h⟩
      rcases List.mem_cons.1 hx with rfl | hx
      · exact hlt
      · exact String.lt_trans hlt (he x hx)
    · split
      · rename_i heq
        exact List.pairwise_cons.2 ⟨fun x hx => heq ▸ he x hx, hes⟩
      · rename_i hlt hne
        refine List.pairwise_cons.2 ⟨fun x hx => ?_, ih hes⟩
        rcases mem_insertEntry hx with rfl | hx
        · exact Std.not_le.1 fun hle => hne (String.le_antisymm (String.not_lt.1 hlt) hle |>.symm)
        · exact he x hx

/-- The map without entries. -/
def empty : SortedMap α := ⟨[], .nil⟩

instance : Inhabited (SortedMap α) := ⟨empty⟩

/-- The map in which `k` has the value `a` and every other name the value it had. -/
def insert (m : SortedMap α) (k : String) (a : α) : SortedMap α :=
  ⟨insertEntry k a m.toList, insertEntry_sorted m.sorted⟩

/-- The map of a list of entries; of two entries with one name the later counts. -/
def ofList (es : List (String × α)) : SortedMap α :=
  es.foldl (fun m e => m.insert e.1 e.2) empty

/-- The value of a name. -/
def get? (m : SortedMap α) (k : String) : Option α :=
  (m.toList.find? (·.1 == k)).map (·.2)

/-- Whether a name has a value. -/
def contains (m : SortedMap α) (k : String) : Bool := (m.get? k).isSome

/-- The names, in ascending order. -/
def keys (m : SortedMap α) : List String := m.toList.map (·.1)

/-- The values, in ascending order of their names. -/
def values (m : SortedMap α) : List α := m.toList.map (·.2)

/-- The number of entries. -/
def size (m : SortedMap α) : Nat := m.toList.length

/-- Whether there are no entries. -/
def isEmpty (m : SortedMap α) : Bool := m.toList.isEmpty

/-- Changes every value and keeps the names. -/
def map (f : α → β) (m : SortedMap α) : SortedMap β :=
  ⟨m.toList.map fun e => (e.1, f e.2), List.pairwise_map.2 m.sorted⟩

/-! ### Looking up -/

@[simp] theorem get?_empty : (empty : SortedMap α).get? k = none := rfl

theorem find?_insertEntry {es : List (String × α)} :
    ((insertEntry k a es).find? (·.1 == k')).map (·.2) =
      if k = k' then some a else (es.find? (·.1 == k')).map (·.2) := by
  induction es with
  | nil => by_cases h : k = k' <;> simp [insertEntry, h]
  | cons e es ih =>
    rw [insertEntry]
    split
    · by_cases h : k = k' <;> simp [h]
    · split
      · rename_i heq
        by_cases h : k = k'
        · simp [h]
        · simp [h, ← heq]
      · rename_i hne
        by_cases h : e.1 = k'
        · have : k ≠ k' := fun hk => hne (hk.trans h.symm)
          simp [h, this]
        · simp [h, ih]

theorem get?_insert (m : SortedMap α) :
    (m.insert k a).get? k' = if k = k' then some a else m.get? k' :=
  find?_insertEntry

/-- The last entry of a name is the one that counts. -/
theorem get?_ofList (es : List (String × α)) :
    (ofList es).get? k = (es.reverse.find? (·.1 == k)).map (·.2) := by
  suffices h : ∀ m : SortedMap α, (es.foldl (fun m e => m.insert e.1 e.2) m).get? k =
      ((es.reverse.find? (·.1 == k)).map (·.2)).or (m.get? k) by
    simpa [ofList] using h empty
  induction es with
  | nil => simp
  | cons e es ih =>
    intro m
    rw [List.foldl_cons, ih, get?_insert, List.reverse_cons, List.find?_append]
    by_cases h : e.1 = k
    · cases hf : es.reverse.find? (·.1 == k) <;> simp [h]
    · cases hf : es.reverse.find? (·.1 == k) <;> simp [h]

/-- What a map of a list of entries holds is the value of one of them. -/
theorem mem_of_get?_ofList {es : List (String × α)} (h : (ofList es).get? k = some a) :
    (k, a) ∈ es := by
  rw [get?_ofList] at h
  obtain ⟨e, he, rfl⟩ := Option.map_eq_some_iff.1 h
  have hname : e.1 = k := by simpa using List.find?_some he
  exact hname ▸ List.mem_reverse.1 (List.mem_of_find?_eq_some he)

theorem mem_keys_iff (m : SortedMap α) : k ∈ m.keys ↔ (m.get? k).isSome := by
  simp [keys, get?]

theorem keys_sorted (m : SortedMap α) : m.keys.Pairwise (· < ·) :=
  List.pairwise_map.2 m.sorted

theorem mem_toList_iff (m : SortedMap α) : (k, a) ∈ m.toList ↔ m.get? k = some a := by
  obtain ⟨es, hes⟩ := m
  simp only [get?]
  induction es with
  | nil => simp
  | cons e es ih =>
    obtain ⟨he, hes⟩ := List.pairwise_cons.1 hes
    by_cases h : e.1 = k
    · obtain ⟨e₁, e₂⟩ := e
      subst h
      have : (e₁, a) ∉ es := fun hm => String.lt_irrefl e₁ (he _ hm)
      simp [this, eq_comm]
    · have : (k, a) ≠ e := fun hk => h (hk ▸ rfl)
      simp [h, this, ih hes]

/-- Maps with the same look-ups are equal. -/
theorem ext_get? {m m' : SortedMap α} (h : ∀ k, m.get? k = m'.get? k) : m = m' := by
  have hmem : ∀ e : String × α, e ∈ m.toList ↔ e ∈ m'.toList := fun e => by
    obtain ⟨k, a⟩ := e
    rw [mem_toList_iff, mem_toList_iff, h]
  obtain ⟨es, hes⟩ := m
  obtain ⟨es', hes'⟩ := m'
  congr
  simp only at hmem
  clear h
  induction es generalizing es' with
  | nil =>
    cases es' with
    | nil => rfl
    | cons e es' => exact absurd ((hmem e).2 (by simp)) (by simp)
  | cons e es ih =>
    cases es' with
    | nil => exact absurd ((hmem e).1 (by simp)) (by simp)
    | cons e' es' =>
      obtain ⟨he, htl⟩ := List.pairwise_cons.1 hes
      obtain ⟨he', htl'⟩ := List.pairwise_cons.1 hes'
      have heq : e = e' := by
        rcases List.mem_cons.1 ((hmem e).1 (by simp)) with h | h
        · exact h
        · rcases List.mem_cons.1 ((hmem e').2 (by simp)) with h' | h'
          · exact h'.symm
          · exact absurd (String.lt_trans (he _ h') (he' _ h)) (String.lt_irrefl _)
      subst heq
      congr 1
      refine ih htl es' htl' fun x => ?_
      have := hmem x
      constructor
      · intro hx
        rcases List.mem_cons.1 (this.1 (List.mem_cons_of_mem _ hx)) with rfl | h
        · exact absurd (he _ hx) (String.lt_irrefl _)
        · exact h
      · intro hx
        rcases List.mem_cons.1 (this.2 (List.mem_cons_of_mem _ hx)) with rfl | h
        · exact absurd (he' _ hx) (String.lt_irrefl _)
        · exact h

/-- A map of entries in ascending order lists those entries. -/
theorem toList_ofList {es : List (String × α)}
    (h : es.Pairwise fun a b => a.1 < b.1) : (ofList es).toList = es := by
  suffices heq : ofList es = ⟨es, h⟩ by rw [heq]
  refine ext_get? fun k => Option.ext fun a => ?_
  rw [← mem_toList_iff ⟨es, h⟩]
  constructor
  · exact mem_of_get?_ofList
  · intro hmem
    obtain ⟨b, hb⟩ : ∃ b, (ofList es).get? k = some b := by
      rw [← Option.isSome_iff_exists, get?_ofList]
      simpa using ⟨a, hmem⟩
    -- no other value stands under the name
    have hb' : (⟨es, h⟩ : SortedMap α).get? k = some b :=
      (mem_toList_iff _).1 (mem_of_get?_ofList hb)
    rw [hb, ← hb', ← mem_toList_iff]
    exact hmem

/-- The names of a map are those of its entries. -/
theorem mem_keys_ofList_iff {es : List (String × α)} :
    k ∈ (ofList es).keys ↔ k ∈ es.map (·.1) := by
  simp [mem_keys_iff, get?_ofList]

end SortedMap

end PropertyFilter
