import Mathlib.Data.Set.Subsingleton
import PropertyFilter.Proofs.KeyPath
import PropertyFilter.Proofs.Sql.Token

/-!
# Names with dots

A name is written with dots: a column, and behind the first dot the keys that further dots
separate. The check looks at the keys after their dots have become commas. So a comma in a name
separates keys as well, and only names without commas are read as they are written.

## Main definitions

* `KeyPath.dotted?` — the column and the keys that dots separate in a name

## Main results

* `check_eq_ok_iff_dotted` — which names pass the check, and what their keys are
* `check_dotted` — the names without commas that pass are those that are safe between their dots,
  and no two of them lead to one place
* `check_comma` — a comma in a name is taken for a dot
-/

namespace PropertyFilter

namespace Text

variable {α : Type} [BEq α] [LawfulBEq α] {sep : α} {parts : List (List α)}

/-- A joined list falls apart at the separators of its parts, too. -/
theorem splitOn_intercalate_flatMap (h : parts ≠ []) :
    ([sep].intercalate parts).splitOn sep = parts.flatMap (·.splitOn sep) := by
  induction parts with
  | nil => exact absurd rfl h
  | cons part parts ih =>
    cases parts with
    | nil => simp
    | cons next parts =>
      have hrest := ih (List.cons_ne_nil next parts)
      have hcut : ∀ rest : List α, (part ++ sep :: rest).splitOn sep =
          part.splitOn sep ++ rest.splitOn sep :=
        fun rest => List.splitOnP_append_cons part rest (beq_self_eq_true sep)
      rw [List.intercalate_cons_cons, List.append_assoc, List.singleton_append, hcut, hrest]
      rfl

theorem splitOn_eq_singleton {xs : List α} (h : sep ∉ xs) : xs.splitOn sep = [xs] := by
  have hsplit : ([sep].intercalate [xs]).splitOn sep = [xs] :=
    List.splitOn_intercalate sep (by simpa using h) (by simp)
  rwa [List.intercalate_singleton] at hsplit

end Text

namespace KeyPath

/-- The column that a name writes before its first dot, and the keys that dots separate behind
it. -/
def dotted? (property : String) : Option (String × List String) :=
  match Text.cut '.' property.toList with
  | (column, some keys) => some (String.ofList column, (keys.splitOn '.').map String.ofList)
  | (_, none) => none

/-- The parts of a key between its commas. -/
def commaParts (key : String) : List String := (key.toList.splitOn ',').map String.ofList

variable {property column : String} {keys : List String} {p : KeyPath}

/-! ### Reading at the dots -/

theorem exists_cut_of_dotted? (h : dotted? property = some (column, keys)) :
    ∃ before after, Text.cut '.' property.toList = (before, some after) ∧
      column = String.ofList before ∧ keys = (after.splitOn '.').map String.ofList := by
  unfold dotted? at h
  split at h
  · rename_i before after hcut
    obtain ⟨rfl, rfl⟩ := Prod.mk.inj (Option.some.inj h)
    exact ⟨before, after, hcut, rfl, rfl⟩
  · simp at h

/-- What is read at the dots is all that the name holds. -/
theorem toList_of_dotted? (h : dotted? property = some (column, keys)) :
    property.toList = column.toList ++ '.' :: ['.'].intercalate (keys.map String.toList) := by
  obtain ⟨before, after, hcut, rfl, rfl⟩ := exists_cut_of_dotted? h
  rw [Text.eq_append_of_cut hcut]
  simp [Function.comp_def]

theorem keys_ne_nil_of_dotted? (h : dotted? property = some (column, keys)) : keys ≠ [] := by
  obtain ⟨before, after, -, -, rfl⟩ := exists_cut_of_dotted? h
  simp

theorem ofProperty_of_dotted? (h : dotted? property = some (column, keys)) :
    ofProperty property = ⟨column, String.intercalate "," keys⟩ := by
  obtain ⟨before, after, hcut, rfl, rfl⟩ := exists_cut_of_dotted? h
  have hkey : String.ofList ([','].intercalate (after.splitOn '.')) =
      String.intercalate "," ((after.splitOn '.').map String.ofList) := by
    rw [← String.toList_inj, String.toList_intercalate]
    simp [Function.comp_def]
  rw [ofProperty, hcut, ← hkey]

/-- A name without a dot has no keys. -/
theorem key_ofProperty_of_dotted?_eq_none (h : dotted? property = none) :
    (ofProperty property).key = "" := by
  cases hcut : Text.cut '.' property.toList with
  | mk before after =>
    cases after with
    | none => rw [ofProperty, hcut]
    | some after =>
      rw [dotted?, hcut] at h
      simp at h

/-- The keys of the path of a name lie between its dots and commas. -/
theorem segments_ofProperty (h : dotted? property = some (column, keys)) :
    (ofProperty property).segments = keys.flatMap commaParts := by
  have hne : keys.map String.toList ≠ [] := by simpa using keys_ne_nil_of_dotted? h
  rw [ofProperty_of_dotted? h, segments, String.toList_intercalate]
  change (List.splitOn ',' ([','].intercalate _)).map _ = _
  rw [Text.splitOn_intercalate_flatMap hne, List.flatMap_map, List.map_flatMap]
  rfl

/-! ### Names that pass the check -/

/-- A name passes the check if its column is safe and so are the parts of it between dots and
commas. Those parts are the keys of its path. -/
theorem check_eq_ok_iff_dotted : check property = .ok p ↔
    p.IsSafe ∧ ∃ keys, dotted? property = some (p.column, keys) ∧
      p.segments = keys.flatMap commaParts := by
  rw [check_eq_ok_iff, and_comm]
  refine and_congr_right fun hsafe => ?_
  constructor
  · rintro rfl
    cases hdotted : dotted? property with
    | none =>
      -- without a dot there is no key, and then the path is not safe
      have hempty := hsafe.isEmpty_key
      rw [key_ofProperty_of_dotted?_eq_none hdotted] at hempty
      exact absurd hempty (by decide)
    | some parts =>
      obtain ⟨column, keys⟩ := parts
      rw [segments_ofProperty hdotted, ofProperty_of_dotted? hdotted]
      exact ⟨keys, rfl, rfl⟩
  · rintro ⟨keys, hdotted, hsegments⟩
    -- a path is made of its column and its keys, and both are those of the name
    have hkey : String.intercalate "," keys = p.key := by
      rw [← intercalate_segments p, hsegments, ← segments_ofProperty hdotted,
        intercalate_segments, ofProperty_of_dotted? hdotted]
    rw [ofProperty_of_dotted? hdotted, hkey]

/-! ### Names without commas -/

/-- A comma of a name is in its column or in one of its keys. -/
theorem comma_mem_iff (h : dotted? property = some (column, keys)) :
    ',' ∈ property.toList ↔ ',' ∈ column.toList ∨ ∃ key ∈ keys, ',' ∈ key.toList := by
  rw [toList_of_dotted? h, List.mem_append, List.mem_cons]
  refine or_congr_right ?_
  constructor
  · rintro (hdot | hmem)
    · exact absurd hdot (by decide)
    · rcases Text.mem_of_mem_intercalate hmem with hdot | ⟨part, hpart, hmem⟩
      · exact absurd (List.mem_singleton.1 hdot) (by decide)
      · obtain ⟨key, hkey, rfl⟩ := List.mem_map.1 hpart
        exact ⟨key, hkey, hmem⟩
  · rintro ⟨key, hkey, hmem⟩
    exact .inr (Text.mem_intercalate_of_mem (List.mem_map_of_mem hkey) hmem)

theorem commaParts_eq_singleton {key : String} (h : ',' ∉ key.toList) : commaParts key = [key] := by
  rw [commaParts, Text.splitOn_eq_singleton h]
  simp

theorem comma_notMem_of_isKeySegment {key : String} (h : Sql.isKeySegment key) :
    ',' ∉ key.toList := by
  intro hcomma
  simp only [Sql.isKeySegment, Bool.and_eq_true] at h
  have hbreaker := List.all_eq_true.1 h.2 ',' hcomma
  exact absurd hbreaker (by decide)

theorem comma_notMem_of_isIdentifier {column : String} (h : Sql.isIdentifier column) :
    ',' ∉ column.toList := by
  intro hcomma
  obtain ⟨c, cs, hcolumn, -, hall⟩ := Sql.exists_cons_of_isIdentifier h
  rw [hcolumn] at hcomma
  exact absurd (List.all_eq_true.1 hall ',' hcomma) (by decide)

/-- Without commas, the keys between the dots stay whole. -/
theorem flatMap_commaParts (h : ∀ key ∈ keys, ',' ∉ key.toList) :
    keys.flatMap commaParts = keys := by
  induction keys with
  | nil => rfl
  | cons key keys ih =>
    obtain ⟨hkey, hkeys⟩ := List.forall_mem_cons.1 h
    rw [List.flatMap_cons, commaParts_eq_singleton hkey, ih hkeys, List.singleton_append]

/-- A name without commas passes the check if it is safe between its dots. -/
theorem check_eq_ok_and_comma_notMem_iff : check property = .ok p ∧ ',' ∉ property.toList ↔
    Sql.isIdentifier p.column ∧ (∀ key ∈ p.segments, Sql.isKeySegment key) ∧
      dotted? property = some (p.column, p.segments) := by
  rw [check_eq_ok_iff_dotted]
  constructor
  · rintro ⟨⟨hsafe, keys, hdotted, hsegments⟩, hcomma⟩
    rw [comma_mem_iff hdotted, not_or] at hcomma
    have hkeys : ∀ key ∈ keys, ',' ∉ key.toList := fun key hkey hmem =>
      hcomma.2 ⟨key, hkey, hmem⟩
    rw [flatMap_commaParts hkeys] at hsegments
    exact ⟨hsafe.column, hsafe.segments, hsegments ▸ hdotted⟩
  · rintro ⟨hcolumn, hsegments, hdotted⟩
    have hkeys : ∀ key ∈ p.segments, ',' ∉ key.toList := fun key hkey =>
      comma_notMem_of_isKeySegment (hsegments key hkey)
    refine ⟨⟨⟨hcolumn, hsegments⟩, p.segments, hdotted, (flatMap_commaParts hkeys).symm⟩, ?_⟩
    rw [comma_mem_iff hdotted, not_or]
    refine ⟨comma_notMem_of_isIdentifier hcolumn, ?_⟩
    rintro ⟨key, hkey, hmem⟩
    exact hkeys key hkey hmem

/-- The names without commas that pass the check are those that are safe between their dots, and
no two of them have one path. -/
theorem check_dotted (p : KeyPath) :
    (∀ property, check property = .ok p ∧ ',' ∉ property.toList ↔
      Sql.isIdentifier p.column ∧ (∀ key ∈ p.segments, Sql.isKeySegment key) ∧
        dotted? property = some (p.column, p.segments)) ∧
    {property | check property = .ok p ∧ ',' ∉ property.toList}.Subsingleton := by
  refine ⟨fun property => check_eq_ok_and_comma_notMem_iff, ?_⟩
  intro property hproperty other hother
  -- what is read at the dots gives the name back
  have hdotted := (check_eq_ok_and_comma_notMem_iff.1 hproperty).2.2
  have hdotted' := (check_eq_ok_and_comma_notMem_iff.1 hother).2.2
  rw [← String.toList_inj, toList_of_dotted? hdotted, toList_of_dotted? hdotted']

/-- A comma in a name is taken for a dot. -/
theorem check_comma : check "data.a,b" = .ok ⟨"data", "a,b"⟩ ∧
    dotted? "data.a,b" = some ("data", ["a,b"]) ∧ Sql.isKeySegment "a,b" = false ∧
      (⟨"data", "a,b"⟩ : KeyPath).segments = ["a", "b"] ∧
        check "data.a.b" = .ok ⟨"data", "a,b"⟩ := by
  decide

end KeyPath

end PropertyFilter
