import Mathlib.Data.List.Forall2
import PropertyFilter.Proofs.Text.Bytes
import PropertyFilter.Proofs.Text.Joined

/-!
# Checks in order

A list is checked element by element, and the first element that fails decides. If every element
passes, and each has a name, then what they have become is a map in which the last element of a name
counts.

## Main definitions

* `FirstOf`, `LastOf` — the first and the last element of a list that have a property
* `SortedMap.IsFirst` — the first entry of a map that has a property, in the order of bytes

## Main results

* `mapM_eq_ok_iff`, `mapM_eq_error_iff` — when a list passes a check, and which error it fails with
  otherwise
* `SortedMap.get?_ofList_of_mapM` — the map of what the elements have become
* `SortedMap.firstOf_toList_iff` — the first entry that is listed comes first in the order of bytes
-/

namespace PropertyFilter

variable {α β ε : Type}

/-! ### Lists -/

/-- The first element of a list that has a property. -/
def FirstOf (P : α → Prop) (xs : List α) (x : α) : Prop :=
  P x ∧ ∃ before after, xs = before ++ x :: after ∧ ∀ y ∈ before, ¬P y

/-- The last element of a list that has a property. -/
def LastOf (P : α → Prop) (xs : List α) (x : α) : Prop :=
  P x ∧ ∃ before after, xs = before ++ x :: after ∧ ∀ y ∈ after, ¬P y

section FirstOf

variable {P : α → Prop} {xs : List α} {x y : α}

theorem FirstOf.mem (h : FirstOf P xs x) : x ∈ xs := by
  obtain ⟨-, before, after, rfl, -⟩ := h
  simp

/-- An element at the front is the first one if it has the property. -/
theorem firstOf_cons_of_pos (hx : P x) : FirstOf P (x :: xs) y ↔ y = x := by
  constructor
  · rintro ⟨-, before, after, hsplit, hbefore⟩
    cases before with
    | nil => exact (List.cons.inj hsplit).1.symm
    | cons z before =>
      obtain ⟨rfl, -⟩ := List.cons.inj hsplit
      exact absurd hx (hbefore x List.mem_cons_self)
  · rintro rfl
    exact ⟨hx, [], xs, rfl, by simp⟩

/-- An element at the front without the property is passed over. -/
theorem firstOf_cons_of_neg (hx : ¬P x) : FirstOf P (x :: xs) y ↔ FirstOf P xs y := by
  refine and_congr_right fun hy => ?_
  constructor
  · rintro ⟨before, after, hsplit, hbefore⟩
    cases before with
    | nil => exact absurd ((List.cons.inj hsplit).1 ▸ hy) hx
    | cons z before =>
      obtain ⟨rfl, rfl⟩ := List.cons.inj hsplit
      exact ⟨before, after, rfl, (List.forall_mem_cons.1 hbefore).2⟩
  · rintro ⟨before, after, rfl, hbefore⟩
    exact ⟨x :: before, after, rfl, List.forall_mem_cons.2 ⟨hx, hbefore⟩⟩

/-- The last element is the first one from behind. -/
theorem firstOf_reverse_iff : FirstOf P xs.reverse x ↔ LastOf P xs x := by
  refine and_congr_right fun _ => ?_
  constructor
  · rintro ⟨after, before, hsplit, hafter⟩
    refine ⟨before.reverse, after.reverse, ?_, by simpa using hafter⟩
    rw [← List.reverse_reverse xs, hsplit]
    simp
  · rintro ⟨before, after, rfl, hafter⟩
    exact ⟨after.reverse, before.reverse, by simp, by simpa using hafter⟩

/-- A list with an element that has a property has a first one. -/
theorem exists_firstOf_iff : (∃ x, FirstOf P xs x) ↔ ∃ x ∈ xs, P x := by
  induction xs with
  | nil => simp [FirstOf]
  | cons x xs ih =>
    by_cases hx : P x
    · simp [firstOf_cons_of_pos hx, hx]
    · simp [firstOf_cons_of_neg hx, hx, ih]

theorem find?_eq_some_iff_firstOf {p : α → Bool} :
    xs.find? p = some x ↔ FirstOf (fun x => p x) xs x := by
  simp [List.find?_eq_some_iff_append, FirstOf]

/-- What is found first is found for the first element that it is found for. -/
theorem findSome?_eq_some_iff_firstOf {f : α → Option β} {b : β} : xs.findSome? f = some b ↔
    ∃ x, FirstOf (fun x => ∃ b, f x = some b) xs x ∧ f x = some b := by
  simp only [List.findSome?_eq_some_iff, FirstOf, ← Option.ne_none_iff_exists', ne_eq, not_not]
  constructor
  · rintro ⟨before, x, after, rfl, hx, hbefore⟩
    exact ⟨x, ⟨by simp [hx], before, after, rfl, hbefore⟩, hx⟩
  · rintro ⟨x, ⟨-, before, after, rfl, hbefore⟩, hx⟩
    exact ⟨before, x, after, rfl, hx, hbefore⟩

/-- In lists whose elements go together, the first elements go together. -/
theorem FirstOf.exists_of_forall₂ {R : α → β → Prop} {Q : β → Prop} {ys : List β}
    (h : List.Forall₂ R xs ys) (hPQ : ∀ x y, R x y → (P x ↔ Q y)) (hx : FirstOf P xs x) :
    ∃ y, FirstOf Q ys y ∧ R x y := by
  induction h with
  | nil => exact absurd hx.mem List.not_mem_nil
  | @cons x' y' xs ys hxy _ ih =>
    by_cases hpos : P x'
    · obtain rfl := (firstOf_cons_of_pos hpos).1 hx
      exact ⟨y', (firstOf_cons_of_pos ((hPQ x y' hxy).1 hpos)).2 rfl, hxy⟩
    · obtain ⟨y, hy, hR⟩ := ih ((firstOf_cons_of_neg hpos).1 hx)
      exact ⟨y, (firstOf_cons_of_neg fun hQ => hpos ((hPQ x' y' hxy).2 hQ)).2 hy, hR⟩

end FirstOf

/-! ### Checking a list -/

section Checking

variable {f : α → Except ε β} {xs : List α} {ys : List β} {e : ε}

/-- A list passes a check if its first element and the rest of it do. -/
theorem mapM_cons_eq_ok_iff {x : α} : (x :: xs).mapM f = .ok ys ↔
    ∃ y zs, f x = .ok y ∧ xs.mapM f = .ok zs ∧ ys = y :: zs := by
  rw [List.mapM_cons]
  change (f x).bind (fun y => (xs.mapM f).bind fun zs => .ok (y :: zs)) = .ok ys ↔ _
  cases f x with
  | error e => simp [Except.bind]
  | ok y =>
    cases xs.mapM f with
    | error e => simp [Except.bind]
    | ok zs => simp [Except.bind, eq_comm]

/-- A list passes a check if each of its elements does. -/
theorem mapM_eq_ok_iff : xs.mapM f = .ok ys ↔ List.Forall₂ (fun x y => f x = .ok y) xs ys := by
  induction xs generalizing ys with
  | nil => simp [pure, Except.pure, eq_comm]
  | cons x xs ih => simp only [mapM_cons_eq_ok_iff, List.forall₂_cons_left_iff, ih]

/-- Whatever passes a check comes from an element that passed. -/
theorem exists_mem_of_mapM_eq_ok (h : xs.mapM f = .ok ys) {y : β} (hy : y ∈ ys) :
    ∃ x ∈ xs, f x = .ok y :=
  Text.exists_mem_of_forall₂ (mapM_eq_ok_iff.1 h).flip y hy

/-- A list fails a check with the error of its first element that fails. -/
theorem mapM_eq_error_iff : xs.mapM f = .error e ↔
    ∃ x, FirstOf (fun x => ∃ e, f x = .error e) xs x ∧ f x = .error e := by
  induction xs with
  | nil => simp [FirstOf, pure, Except.pure]
  | cons x xs ih =>
    rw [List.mapM_cons]
    change (f x).bind (fun y => (xs.mapM f).bind fun zs => .ok (y :: zs)) = .error e ↔ _
    cases hx : f x with
    | error e' =>
      have hfails : ∃ e, f x = .error e := ⟨e', hx⟩
      simp [firstOf_cons_of_pos (P := fun x => ∃ e, f x = .error e) hfails, hx, Except.bind]
    | ok y =>
      have hpasses : ¬∃ e, f x = .error e := by simp [hx]
      simp only [firstOf_cons_of_neg (P := fun x => ∃ e, f x = .error e) hpasses, ← ih]
      cases xs.mapM f <;> simp [Except.bind]

/-- A list passes a check or fails it. -/
theorem exists_mapM_eq_error_iff : (∃ e, xs.mapM f = .error e) ↔ ∃ x ∈ xs, ∃ e, f x = .error e := by
  rw [← exists_firstOf_iff]
  simp only [mapM_eq_error_iff]
  constructor
  · rintro ⟨e, x, hfirst, -⟩
    exact ⟨x, hfirst⟩
  · rintro ⟨x, hfirst⟩
    obtain ⟨e, he⟩ := hfirst.1
    exact ⟨e, x, hfirst, he⟩

end Checking

/-! ### Names -/

namespace SortedMap

/-- The first entry of a map that has a property, in the order of the bytes of the names. -/
structure IsFirst (m : SortedMap α) (P : String → α → Prop) (k : String) (a : α) : Prop where
  get? : m.get? k = some a
  holds : P k a
  below : ∀ k' a', m.get? k' = some a' → Text.BytesBelow k' k → ¬P k' a'

variable {m : SortedMap α} {es : List (String × α)} {k : String} {a : α}

/-- The first entry that is listed comes first in the order of bytes. -/
theorem firstOf_toList_iff {P : String → α → Prop} :
    FirstOf (fun e => P e.1 e.2) m.toList (k, a) ↔ m.IsFirst P k a := by
  constructor
  · rintro ⟨hP, before, after, hsplit, hbefore⟩
    have hsorted := m.sorted
    rw [hsplit, List.pairwise_append, List.pairwise_cons] at hsorted
    refine ⟨m.mem_toList_iff.1 (hsplit ▸ by simp), hP, fun k' a' hk' hbelow => ?_⟩
    rw [Text.bytesBelow_iff] at hbelow
    -- a smaller name can only be listed in front
    rw [← mem_toList_iff, hsplit, List.mem_append, List.mem_cons] at hk'
    rcases hk' with hmem | heq | hmem
    · exact hbefore _ hmem
    · exact absurd ((Prod.mk.inj heq).1 ▸ hbelow) (String.lt_irrefl k)
    · exact absurd (String.lt_trans hbelow (hsorted.2.1.1 _ hmem)) (String.lt_irrefl k')
  · rintro ⟨hk, hP, hbelow⟩
    obtain ⟨before, after, hsplit⟩ := List.append_of_mem (m.mem_toList_iff.2 hk)
    have hsorted := m.sorted
    rw [hsplit, List.pairwise_append] at hsorted
    refine ⟨hP, before, after, hsplit, fun e he => ?_⟩
    have hmem : e ∈ m.toList := hsplit ▸ List.mem_append_left _ he
    exact hbelow e.1 e.2 (m.mem_toList_iff.1 hmem)
      (Text.bytesBelow_iff.2 (hsorted.2.2 e he (k, a) List.mem_cons_self))

/-- A map with an entry that has a property has a first one. -/
theorem exists_isFirst_iff {P : String → α → Prop} :
    (∃ k a, m.IsFirst P k a) ↔ ∃ k a, m.get? k = some a ∧ P k a := by
  have hfirst : (∃ e, FirstOf (fun e => P e.1 e.2) m.toList e) ↔ ∃ e ∈ m.toList, P e.1 e.2 :=
    exists_firstOf_iff
  simpa only [Prod.exists, firstOf_toList_iff, mem_toList_iff] using hfirst

/-- In a map the last entry of a name is its only one. -/
theorem lastOf_toList_iff : LastOf (fun e => e.1 = k) m.toList (k, a) ↔ m.get? k = some a := by
  rw [← firstOf_reverse_iff]
  constructor
  · intro h
    exact m.mem_toList_iff.1 (List.mem_reverse.1 h.mem)
  · intro h
    have hmem : (k, a) ∈ m.toList.reverse := List.mem_reverse.2 (m.mem_toList_iff.2 h)
    obtain ⟨⟨k', a'⟩, hfirst⟩ := exists_firstOf_iff (P := fun e => e.1 = k).2 ⟨(k, a), hmem, rfl⟩
    obtain rfl : k' = k := hfirst.1
    have hget : m.get? k' = some a' := m.mem_toList_iff.1 (List.mem_reverse.1 hfirst.mem)
    obtain rfl : a = a' := Option.some.inj (h.symm.trans hget)
    exact hfirst

/-- The last entry of a name is the one that counts. -/
theorem get?_ofList_eq_some_iff :
    (ofList es).get? k = some a ↔ LastOf (fun e => e.1 = k) es (k, a) := by
  simp only [← firstOf_reverse_iff, get?_ofList, Option.map_eq_some_iff,
    find?_eq_some_iff_firstOf, beq_iff_eq]
  constructor
  · rintro ⟨e, he, rfl⟩
    obtain rfl := he.1
    exact he
  · intro h
    exact ⟨(k, a), h, rfl⟩

section Named

variable {f : String × α → Except ε β} {name : β → String} {bs : List β} {b : β}

/-- What passes a check has the names of the elements that it comes from. -/
theorem map_name_of_mapM (hname : ∀ e b, f e = .ok b → name b = e.1) (h : es.mapM f = .ok bs) :
    bs.map name = es.map (·.1) := by
  have hpairs := mapM_eq_ok_iff.1 h
  clear h
  induction hpairs with
  | nil => rfl
  | @cons e b _ _ hb _ ih => rw [List.map_cons, List.map_cons, hname e b hb, ih]

/-- What passes a check is listed under its name, and the last element of a name counts. -/
theorem get?_ofList_of_mapM (hname : ∀ e b, f e = .ok b → name b = e.1)
    (h : es.mapM f = .ok bs) : (ofList (bs.map fun b => (name b, b))).get? k = some b ↔
      ∃ a, LastOf (fun e => e.1 = k) es (k, a) ∧ f (k, a) = .ok b := by
  have hpairs : List.Forall₂ (fun e p => f e = .ok p.2 ∧ e.1 = p.1) es.reverse
      (bs.map fun b => (name b, b)).reverse := by
    rw [List.forall₂_reverse_iff, List.forall₂_map_right_iff]
    exact (mapM_eq_ok_iff.1 h).imp fun e b hb => ⟨hb, (hname e b hb).symm⟩
  simp only [get?_ofList_eq_some_iff, ← firstOf_reverse_iff]
  constructor
  · intro hb
    obtain ⟨⟨k', a⟩, ha, hf, hkey⟩ := hb.exists_of_forall₂ (Q := fun e => e.1 = k) hpairs.flip
      fun p e hep => by rw [hep.2]
    obtain rfl : k' = k := hkey
    exact ⟨a, ha, hf⟩
  · rintro ⟨a, ha, hf⟩
    obtain ⟨⟨k', b'⟩, hb', hf', hkey⟩ := ha.exists_of_forall₂ (Q := fun p => p.1 = k) hpairs
      fun e p hep => by rw [hep.2]
    obtain rfl : k = k' := hkey
    obtain rfl : b = b' := Except.ok.inj (hf.symm.trans hf')
    exact hb'

theorem mem_keys_ofList_of_mapM (hname : ∀ e b, f e = .ok b → name b = e.1)
    (h : es.mapM f = .ok bs) :
    k ∈ (ofList (bs.map fun b => (name b, b))).keys ↔ ∃ a, (k, a) ∈ es := by
  rw [mem_keys_ofList_iff, List.map_map]
  change k ∈ bs.map name ↔ _
  rw [map_name_of_mapM hname h]
  simp

/-- Where the entries of a map pass a check, its names stay. -/
theorem keys_ofList_of_mapM (hname : ∀ e b, f e = .ok b → name b = e.1)
    (h : m.toList.mapM f = .ok bs) : (ofList (bs.map fun b => (name b, b))).keys = m.keys := by
  have hnames : bs.map name = m.keys := map_name_of_mapM hname h
  have hsorted : (bs.map fun b => (name b, b)).Pairwise fun a b => a.1 < b.1 := by
    have hkeys := m.keys_sorted
    rw [← hnames, List.pairwise_map] at hkeys
    exact List.pairwise_map.2 hkeys
  rw [keys, toList_ofList hsorted, List.map_map, ← hnames]
  rfl

end Named

end SortedMap

end PropertyFilter
