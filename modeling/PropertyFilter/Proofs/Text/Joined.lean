import Mathlib.Data.List.Forall2

/-!
# Joined lists

What holds of lists that are joined with a separator between them, and of lists that are read
element by element.

## Main results

* `mem_of_mem_intercalate`, `mem_intercalate_of_mem` — what occurs in a joined list
* `intercalate_induction` — what is kept when two lists are joined holds of joined lists
* `flatMap_intercalate` — writing out the parts of a joined list
* `nil_intercalate`, `intercalate_replicate_nil` — lists that are joined by nothing, and empty ones
* `mapM_eq_some_iff`, `mapM_eq_none_iff` — a list is read if each element is
* `mapM_option_map`, `forall₂_comp` — reading in two steps
* `takeWhile_append_stop`, `dropWhile_append_stop` — where reading a kind of element stops
-/

namespace PropertyFilter.Text

variable {α β : Type} {sep : List α} {parts : List (List α)} {a : α}

/-- What occurs in a joined list occurs in the separator or in a part. -/
theorem mem_of_mem_intercalate (h : a ∈ sep.intercalate parts) :
    a ∈ sep ∨ ∃ part ∈ parts, a ∈ part := by
  induction parts with
  | nil => simp at h
  | cons part parts ih =>
    cases parts with
    | nil =>
      rw [List.intercalate_singleton] at h
      exact .inr ⟨part, List.mem_cons_self, h⟩
    | cons next parts =>
      rw [List.intercalate_cons_cons, List.mem_append, List.mem_append] at h
      rcases h with (h | h) | h
      · exact .inr ⟨part, List.mem_cons_self, h⟩
      · exact .inl h
      · rcases ih h with h | ⟨p, hp, h⟩
        · exact .inl h
        · exact .inr ⟨p, List.mem_cons_of_mem part hp, h⟩

/-- What occurs in a part occurs in the joined list. -/
theorem mem_intercalate_of_mem {part : List α} (hpart : part ∈ parts) (h : a ∈ part) :
    a ∈ sep.intercalate parts := by
  induction parts with
  | nil => simp at hpart
  | cons first parts ih =>
    cases parts with
    | nil =>
      obtain rfl : part = first := by simpa using hpart
      rwa [List.intercalate_singleton]
    | cons next parts =>
      rw [List.intercalate_cons_cons, List.mem_append]
      rcases List.mem_cons.1 hpart with rfl | hpart
      · exact .inl (List.mem_append_left _ h)
      · exact .inr (ih hpart)

/-- What holds of all parts, and is kept when two lists are joined, holds of the joined list. -/
theorem intercalate_induction {P : List α → Prop} (hne : parts ≠ [])
    (hjoin : ∀ {xs ys}, P xs → P ys → P (xs ++ (sep ++ ys))) (h : ∀ part ∈ parts, P part) :
    P (sep.intercalate parts) := by
  induction parts with
  | nil => exact absurd rfl hne
  | cons part parts ih =>
    obtain ⟨hpart, hparts⟩ := List.forall_mem_cons.1 h
    cases parts with
    | nil => rwa [List.intercalate_singleton]
    | cons next parts =>
      rw [List.intercalate_cons_cons, List.append_assoc]
      exact hjoin hpart (ih (List.cons_ne_nil next parts) hparts)

theorem flatMap_intercalate (f : α → List β) :
    (sep.intercalate parts).flatMap f =
      (sep.flatMap f).intercalate (parts.map (·.flatMap f)) := by
  induction parts with
  | nil => rfl
  | cons part parts ih =>
    cases parts with
    | nil => simp
    | cons next parts =>
      rw [List.intercalate_cons_cons, List.flatMap_append, List.flatMap_append, ih]
      simp [List.intercalate_cons_cons]

theorem map_intercalate (f : α → β) :
    (sep.intercalate parts).map f = (sep.map f).intercalate (parts.map (·.map f)) := by
  simpa only [List.map_eq_flatMap] using flatMap_intercalate (fun a => [f a])

/-- Lists that are joined by nothing. -/
theorem nil_intercalate (parts : List (List α)) :
    List.intercalate [] parts = parts.flatten := by
  induction parts with
  | nil => rfl
  | cons part parts ih =>
    cases parts with
    | nil => simp
    | cons next parts =>
      rw [List.intercalate_cons_cons, ih]
      simp

/-- Of empty lists only what joins them is left. -/
theorem intercalate_replicate_nil (a : α) (n : Nat) :
    [a].intercalate (List.replicate n []) = List.replicate (n - 1) a := by
  induction n with
  | zero => rfl
  | succ n ih =>
    cases n with
    | zero => simp
    | succ n =>
      rw [List.replicate_succ, List.replicate_succ, List.intercalate_cons_cons,
        ← List.replicate_succ, ih]
      rfl

/-! ### Lists that are read -/

section Reading

variable {α β : Type} {f : α → Option β} {xs : List α} {ys : List β}

/-- A list is read if each element is. -/
theorem mapM_eq_some_iff : xs.mapM f = some ys ↔ List.Forall₂ (fun x y => f x = some y) xs ys := by
  induction xs generalizing ys with
  | nil => simp [eq_comm]
  | cons x xs ih =>
    rw [List.mapM_cons, List.forall₂_cons_left_iff]
    simp only [← ih]
    cases f x with
    | none => simp
    | some y => cases xs.mapM f <;> simp [eq_comm]

/-- A list is not read if some element is not. -/
theorem mapM_eq_none_iff : xs.mapM f = none ↔ ∃ x ∈ xs, f x = none := by
  induction xs with
  | nil => simp
  | cons x xs ih =>
    rw [List.mapM_cons, List.exists_mem_cons_iff, ← ih]
    cases f x with
    | none => simp
    | some y => cases xs.mapM f <;> simp

theorem mapM_congr {g : α → Option β} (h : ∀ x ∈ xs, f x = g x) : xs.mapM f = xs.mapM g := by
  induction xs with
  | nil => rfl
  | cons x xs ih =>
    obtain ⟨hx, hxs⟩ := List.forall_mem_cons.1 h
    rw [List.mapM_cons, List.mapM_cons, hx, ih hxs]

theorem exists_mapM_eq_some (h : ∀ x ∈ xs, ∃ y, f x = some y) : ∃ ys, xs.mapM f = some ys := by
  induction xs with
  | nil => exact ⟨[], rfl⟩
  | cons x xs ih =>
    obtain ⟨⟨y, hy⟩, hrest⟩ := List.forall_mem_cons.1 h
    obtain ⟨ys, hys⟩ := ih hrest
    exact ⟨y :: ys, by rw [List.mapM_cons, hy, hys]; rfl⟩

/-- A list is read back if its elements are. -/
theorem mapM_map_eq_some {g : β → α} (h : ∀ y ∈ ys, f (g y) = some y) :
    (ys.map g).mapM f = some ys := by
  rw [mapM_eq_some_iff, List.forall₂_map_left_iff, List.forall₂_same]
  exact h

/-- Reading each element and then turning it into another. -/
theorem mapM_option_map {γ : Type} (g : β → γ) (xs : List α) :
    (xs.mapM fun x => (f x).map g) = (xs.mapM f).map (List.map g) := by
  induction xs with
  | nil => rfl
  | cons x xs ih =>
    rw [List.mapM_cons, List.mapM_cons, ih]
    cases f x with
    | none => rfl
    | some y => cases xs.mapM f <;> rfl

/-- Two lists are related element by element if they are in another relation that is the same for
these elements. -/
theorem forall₂_congr {R S : α → β → Prop} (h : ∀ x ∈ xs, ∀ y, R x y ↔ S x y) :
    List.Forall₂ R xs ys ↔ List.Forall₂ S xs ys := by
  simp only [List.forall₂_iff_get]
  refine and_congr_right fun _ => forall_congr' fun i => ?_
  exact forall_congr' fun hi => forall_congr' fun _ => h _ (List.getElem_mem hi) _

/-- Relations between lists, element by element, are put together. -/
theorem forall₂_comp {γ : Type} {zs : List γ} {R : α → β → Prop} {S : β → γ → Prop}
    (hR : List.Forall₂ R xs ys) (hS : List.Forall₂ S ys zs) :
    List.Forall₂ (fun x z => ∃ y, R x y ∧ S y z) xs zs := by
  induction hR generalizing zs with
  | nil =>
    cases hS
    exact .nil
  | cons hxy _ ih =>
    obtain ⟨z, zs, hyz, hrest, rfl⟩ := List.forall₂_cons_left_iff.1 hS
    exact .cons ⟨_, hxy, hyz⟩ (ih hrest)

/-- Every element of one list is related to one of the other. -/
theorem exists_mem_of_forall₂ {R : α → β → Prop} (h : List.Forall₂ R xs ys) :
    ∀ x ∈ xs, ∃ y ∈ ys, R x y := by
  induction h with
  | nil => simp
  | cons hxy _ ih =>
    rw [List.forall_mem_cons]
    refine ⟨⟨_, List.mem_cons_self, hxy⟩, fun x hx => ?_⟩
    obtain ⟨y, hy, hxy⟩ := ih x hx
    exact ⟨y, List.mem_cons_of_mem _ hy, hxy⟩

end Reading

section Stop

variable {p : α → Bool} {w rest : List α}

/-- Elements of one kind are read up to the first that is of another. -/
theorem takeWhile_append_stop (hw : w.all p) (hrest : ∀ c ∈ rest.head?, !p c) :
    (w ++ rest).takeWhile p = w := by
  rw [List.takeWhile_append_of_pos (by simpa using hw)]
  cases rest with
  | nil => simp
  | cons c cs =>
    have hc : p c = false := by simpa using hrest c (by simp)
    simp [hc]

theorem dropWhile_append_stop (hw : w.all p) (hrest : ∀ c ∈ rest.head?, !p c) :
    (w ++ rest).dropWhile p = rest := by
  rw [List.dropWhile_append_of_pos (by simpa using hw)]
  cases rest with
  | nil => simp
  | cons c cs =>
    have hc : p c = false := by simpa using hrest c (by simp)
    simp [hc]

end Stop

end PropertyFilter.Text
