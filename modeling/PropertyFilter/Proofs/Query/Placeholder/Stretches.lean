import Mathlib.Data.List.Induction
import PropertyFilter.Proofs.Query.Placeholder

/-!
# Placeholders, stretch by stretch

Quotes split a text into stretches that lie outside and inside literals by turns. Outside, colons
split a stretch into parts, and a bound name at the start of a part makes way for a dollar sign and
its position together with the colon, unless another colon stands directly in front. What is
rendered is the text with its stretches and parts put together again.

## Main definitions

* `Placeholder.isNameChar` — the characters of names
* `Placeholder.lastPosition?` — the last position of a name
* `Placeholder.fillPart` — the part of a stretch behind a colon
* `Placeholder.fillStretch` — a stretch
* `Placeholder.fillText` — a text

## Main results

* `Placeholder.ofWord?_eq_some_iff` — a bound name has the position of the last parameter
* `Placeholder.fillPart_eq` — a part is filled as the text behind a colon is rendered
* `Placeholder.render_eq_fillText` — the text is rendered stretch by stretch
-/

namespace PropertyFilter

/-- What a separator splits does not hold the separator. -/
theorem Text.sep_notMem_of_mem_splitOn {sep : Char} {cs part : List Char}
    (h : part ∈ cs.splitOn sep) : sep ∉ part := by
  induction cs generalizing part with
  | nil =>
    obtain rfl : part = [] := by simpa using h
    exact List.not_mem_nil
  | cons c cs ih =>
    rw [List.splitOn_cons_eq_if_modifyHead] at h
    obtain ⟨first, parts, hsplit⟩ := List.exists_cons_of_ne_nil (List.splitOn_ne_nil sep cs)
    rw [hsplit] at h ih
    have hall : ∀ part ∈ first :: parts, sep ∉ part := fun part hpart => ih hpart
    obtain ⟨hfirst, hparts⟩ := List.forall_mem_cons.1 hall
    split_ifs at h with hc
    · rcases List.mem_cons.1 h with rfl | h
      · exact List.not_mem_nil
      · exact ih h
    · rw [List.modifyHead_cons] at h
      rcases List.mem_cons.1 h with rfl | h
      · exact List.not_mem_cons_of_ne_of_not_mem (fun heq => hc (by simp [heq])) hfirst
      · exact hparts part h

/-- A joined text, with each separator at the head of the part behind it. -/
theorem Text.intercalate_cons_eq (sep : Char) (first : List Char) (parts : List (List Char)) :
    [sep].intercalate (first :: parts) = first ++ (parts.map (sep :: ·)).flatten := by
  induction parts generalizing first with
  | nil => simp
  | cons next parts ih =>
    rw [List.intercalate_cons_cons, ih, List.map_cons, List.flatten_cons]
    simp

namespace Placeholder

open Text

variable {names : List String}

section Positions

variable {name : String} {position : ℕ} {word : List Char}

theorem position?_concat (names : List String) (last name : String) :
    position? (names ++ [last]) name =
      if last = name then some (names.length + 1) else position? names name := by
  simp only [position?, List.reverse_append, List.reverse_singleton, List.singleton_append,
    List.findIdx?_cons, beq_iff_eq, List.length_append, List.length_singleton]
  split_ifs with h
  · simp
  · simp [Option.map_map, Function.comp_def]

/-- The position of a name is that of the last parameter of this name, counted from one. -/
theorem position?_eq_some_iff : position? names name = some position ↔
    ∃ i, position = i + 1 ∧ names[i]? = some name ∧ ∀ j, i < j → names[j]? ≠ some name := by
  induction names using List.reverseRecOn with
  | nil => simp [position?]
  | append_singleton names last ih =>
    have hlength {j : ℕ} (hj : names.length < j) : (names ++ [last])[j]? = none := by simp; omega
    rw [position?_concat]
    split_ifs with hlast
    · subst hlast
      rw [Option.some.injEq]
      constructor
      · rintro rfl
        refine ⟨names.length, rfl, List.getElem?_concat_length, fun j hj => ?_⟩
        simp [hlength hj]
      · rintro ⟨i, rfl, hi, hbehind⟩
        -- no other parameter than the last one has nothing of its name behind it
        obtain hlt | rfl | hgt := Nat.lt_trichotomy i names.length
        · exact absurd List.getElem?_concat_length (hbehind _ hlt)
        · rfl
        · rw [hlength hgt] at hi
          cases hi
    · have hsame (j : ℕ) : (names ++ [last])[j]? = some name ↔ names[j]? = some name := by
        obtain hlt | rfl | hgt := Nat.lt_trichotomy j names.length
        · rw [List.getElem?_append_left hlt]
        · simp [hlast]
        · rw [hlength hgt, List.getElem?_eq_none (Nat.le_of_lt hgt)]
      simp only [ih, hsame, ne_eq]

/-- A word has a position if it is not empty, does not start with a digit and is a bound name. -/
theorem ofWord?_eq_some_iff : ofWord? names word = some position ↔
    word ≠ [] ∧ (∀ c ∈ word.head?, !c.isDigit) ∧
      position? names (String.ofList word) = some position := by
  cases word with
  | nil => simp [ofWord?]
  | cons c cs => simp [ofWord?]

end Positions

/-! ### Stretches and parts -/

def isDigitChar (c : Char) : Bool := '0' ≤ c && c ≤ '9'

/-- The characters of names. -/
def isNameChar (c : Char) : Bool :=
  ('A' ≤ c && c ≤ 'Z') || ('a' ≤ c && c ≤ 'z') || isDigitChar c || c = '_'

/-- The last position of a name among the bound ones, counted from one. -/
def lastPosition? (names : List String) (name : String) : Option ℕ :=
  ((names.zipIdx 1).filter (·.1 = name)).getLast?.map (·.2)

/-- A colon with the part of a stretch behind it, up to the next colon. If the part starts with a
bound name, which is not empty and does not start with a digit, then the colon and the name make way
for a dollar sign and the last position of the name, unless a colon stands in front. -/
def fillPart (names : List String) (behindColon : Bool) (part : List Char) : List Char :=
  let name := part.takeWhile isNameChar
  match lastPosition? names (String.ofList name) with
  | none => ':' :: part
  | some position =>
    if behindColon || name.isEmpty || name.head?.any isDigitChar then ':' :: part
    else '$' :: (toString position).toList ++ part.dropWhile isNameChar

/-- A stretch outside literals. A colon stands directly behind another one if the part between
them is empty. -/
def fillUnquoted (names : List String) (stretch : List Char) : List Char :=
  match stretch.splitOn ':' with
  | [] => []
  | first :: parts =>
    first ++ (List.zipWith (fillPart names) (false :: parts.map (·.isEmpty)) parts).flatten

/-- A stretch. Nothing is replaced inside literals. -/
def fillStretch (names : List String) (inLiteral : Bool) (stretch : List Char) : List Char :=
  if inLiteral then stretch else fillUnquoted names stretch

/-- A text, whose stretches lie outside and inside literals by turns. -/
def fillText (names : List String) (sql : String) : String :=
  String.ofList (['\''].intercalate
    ((sql.toList.splitOn '\'').mapIdx fun i stretch => fillStretch names (i % 2 == 1) stretch))

theorem isDigitChar_eq : isDigitChar = Char.isDigit := rfl

theorem isNameChar_eq : isNameChar = isWord := by
  funext c
  have hupper : ('A' ≤ c && c ≤ 'Z' : Bool) = c.isUpper := (Bool.decide_and _ _).symm
  rw [isNameChar, hupper]
  rfl

theorem lastPosition?_eq (names : List String) (name : String) :
    lastPosition? names name = position? names name := by
  induction names using List.reverseRecOn with
  | nil => rfl
  | append_singleton names last ih =>
    rw [position?_concat, ← ih, lastPosition?, List.zipIdx_append, List.filter_append]
    split_ifs with hlast
    · simp [hlast, Nat.add_comm]
    · simp [hlast, lastPosition?]

/-- A part is filled as the text behind a colon is rendered. -/
theorem fillPart_eq (names : List String) (behindColon : Bool) (part : List Char) :
    fillPart names behindColon part =
      match ofWord? names (part.takeWhile isWord) with
      | none => ':' :: part
      | some position =>
        if behindColon then ':' :: part
        else (Sql.placeholder position).toList ++ part.dropWhile isWord := by
  simp only [fillPart, isNameChar_eq, isDigitChar_eq, lastPosition?_eq]
  cases part.takeWhile isWord with
  | nil => cases position? names (String.ofList []) <;> simp [ofWord?]
  | cons c cs =>
    rw [ofWord?]
    cases hdigit : c.isDigit with
    | true => cases position? names (String.ofList (c :: cs)) <;> simp [hdigit]
    | false => cases position? names (String.ofList (c :: cs)) <;> simp [hdigit, Sql.placeholder]

section Rendering

variable {part stretch rest : List Char} {stretches parts : List (List Char)}

/-- What follows a stretch is a quote, if anything. -/
theorem renderFrom_stretchEnd (hrest : ∀ c ∈ rest.head?, c = '\'') (inLiteral afterColon : Bool) :
    renderFrom names inLiteral afterColon rest = renderFrom names inLiteral false rest := by
  cases rest with
  | nil => rw [renderFrom, renderFrom]
  | cons c cs =>
    obtain rfl : c = '\'' := hrest c rfl
    rw [renderFrom_quote, renderFrom_quote]

/-- Nothing is replaced inside literals. -/
theorem renderFrom_quoted (hstretch : '\'' ∉ stretch) (hrest : ∀ c ∈ rest.head?, c = '\'')
    (afterColon : Bool) :
    renderFrom names true afterColon (stretch ++ rest) =
      stretch ++ renderFrom names true false rest := by
  induction stretch generalizing afterColon with
  | nil => exact renderFrom_stretchEnd hrest true afterColon
  | cons c cs ih =>
    obtain ⟨hc, hcs⟩ := List.ne_and_not_mem_of_not_mem_cons hstretch
    rw [List.cons_append, renderFrom_inside (Ne.symm hc), ih hcs, List.cons_append]

/-- Nothing is replaced before the next colon. -/
theorem renderFrom_plain (hquote : '\'' ∉ part) (hcolon : ':' ∉ part) (afterColon : Bool)
    (rest : List Char) :
    renderFrom names false afterColon (part ++ rest) =
      part ++ renderFrom names false (part.isEmpty && afterColon) rest := by
  induction part generalizing afterColon with
  | nil => simp
  | cons c cs ih =>
    obtain ⟨hcquote, hquote⟩ := List.ne_and_not_mem_of_not_mem_cons hquote
    obtain ⟨hccolon, hcolon⟩ := List.ne_and_not_mem_of_not_mem_cons hcolon
    rw [List.cons_append, renderFrom_cons (Ne.symm hcquote) (Ne.symm hccolon),
      ih hquote hcolon]
    simp

/-- A word ends where its part does. -/
theorem takeWhile_dropWhile_part (part : List Char) (hrest : ∀ c ∈ rest.head?, !isWord c) :
    (part ++ rest).takeWhile isWord = part.takeWhile isWord ∧
      (part ++ rest).dropWhile isWord = part.dropWhile isWord ++ rest := by
  induction part with
  | nil => exact ⟨takeWhile_append_stop rfl hrest, dropWhile_append_stop rfl hrest⟩
  | cons c cs ih =>
    rw [List.cons_append, List.takeWhile_cons, List.takeWhile_cons, List.dropWhile_cons,
      List.dropWhile_cons, ih.1, ih.2]
    split <;> simp

/-- A colon and the part behind it are rendered together. -/
theorem renderFrom_part (hquote : '\'' ∉ part) (hcolon : ':' ∉ part)
    (hrest : ∀ c ∈ rest.head?, !isWord c) (behindColon : Bool) :
    renderFrom names false behindColon (':' :: (part ++ rest)) =
      fillPart names behindColon part ++ renderFrom names false part.isEmpty rest := by
  obtain ⟨htake, hdrop⟩ := takeWhile_dropWhile_part part hrest
  have hplain : renderFrom names false true (part ++ rest) =
      part ++ renderFrom names false part.isEmpty rest := by
    rw [renderFrom_plain hquote hcolon, Bool.and_true]
  cases behindColon with
  | true =>
    rw [renderFrom_colon_colon, hplain, fillPart_eq]
    cases ofWord? names (part.takeWhile isWord) <;> rfl
  | false =>
    rw [fillPart_eq]
    cases hword : ofWord? names (part.takeWhile isWord) with
    | none =>
      rw [renderFrom_colon (by rwa [htake]), hplain]
      rfl
    | some position =>
      -- the part is not empty, since it starts with a name
      have hne : part.isEmpty = false := by
        cases part with
        | nil => simp [ofWord?] at hword
        | cons c cs => rfl
      have hdropWhile : ∀ c, c ∉ part → c ∉ part.dropWhile isWord :=
        fun c hc hmem => hc (List.dropWhile_sublist isWord |>.subset hmem)
      rw [renderFrom_name (by rwa [htake]), hdrop,
        renderFrom_plain (hdropWhile _ hquote) (hdropWhile _ hcolon), Bool.and_false, hne]
      simp

/-- Parts with a colon before each are rendered one after the other. -/
theorem renderFrom_parts (hparts : ∀ part ∈ parts, '\'' ∉ part ∧ ':' ∉ part)
    (hrest : ∀ c ∈ rest.head?, c = '\'') (behindColon : Bool) :
    renderFrom names false behindColon ((parts.map (':' :: ·)).flatten ++ rest) =
      (List.zipWith (fillPart names) (behindColon :: parts.map (·.isEmpty)) parts).flatten ++
        renderFrom names false false rest := by
  induction parts generalizing behindColon with
  | nil => simpa using renderFrom_stretchEnd hrest false behindColon
  | cons part parts ih =>
    obtain ⟨hpart, hparts⟩ := List.forall_mem_cons.1 hparts
    have hnext : ∀ c ∈ ((parts.map (':' :: ·)).flatten ++ rest).head?, !isWord c := by
      cases parts with
      | nil =>
        intro c hc
        rw [hrest c hc]
        decide
      | cons next parts =>
        intro c hc
        obtain rfl : ':' = c := by simpa using hc
        decide
    rw [List.map_cons, List.flatten_cons, List.append_assoc, List.cons_append,
      renderFrom_part hpart.1 hpart.2 hnext, ih hparts]
    simp

/-- A stretch outside literals is filled. -/
theorem renderFrom_unquoted (hstretch : '\'' ∉ stretch) (hrest : ∀ c ∈ rest.head?, c = '\'') :
    renderFrom names false false (stretch ++ rest) =
      fillUnquoted names stretch ++ renderFrom names false false rest := by
  have hjoin : [':'].intercalate (stretch.splitOn ':') = stretch := List.intercalate_splitOn ':'
  have hcolons : ∀ part ∈ stretch.splitOn ':', ':' ∉ part :=
    fun part => Text.sep_notMem_of_mem_splitOn
  have hquotes : ∀ part ∈ stretch.splitOn ':', '\'' ∉ part := by
    intro part hpart hmem
    rw [← hjoin] at hstretch
    exact hstretch (mem_intercalate_of_mem hpart hmem)
  unfold fillUnquoted
  cases hsplit : stretch.splitOn ':' with
  | nil => exact absurd hsplit (List.splitOn_ne_nil _ _)
  | cons first parts =>
    rw [hsplit] at hcolons hquotes hjoin
    rw [List.forall_mem_cons] at hcolons hquotes
    rw [Text.intercalate_cons_eq] at hjoin
    rw [← hjoin, List.append_assoc, renderFrom_plain hquotes.1 hcolons.1, Bool.and_false,
      renderFrom_parts (fun part hpart => ⟨hquotes.2 part hpart, hcolons.2 part hpart⟩) hrest,
      List.append_assoc]

/-- The stretches lie outside and inside literals by turns. -/
theorem quoted_succ (inLiteral : Bool) (i : ℕ) :
    (inLiteral != ((i + 1) % 2 == 1)) = (!inLiteral != (i % 2 == 1)) := by
  obtain h | h := Nat.mod_two_eq_zero_or_one i
  · simp [show (i + 1) % 2 = 1 by omega, h]
  · simp [show (i + 1) % 2 = 0 by omega, h]

/-- Stretches between quotes are rendered one after the other. -/
theorem renderFrom_stretches (hstretches : ∀ stretch ∈ stretches, '\'' ∉ stretch)
    (inLiteral : Bool) :
    renderFrom names inLiteral false (['\''].intercalate stretches) =
      ['\''].intercalate (stretches.mapIdx fun i stretch =>
        fillStretch names (inLiteral != (i % 2 == 1)) stretch) := by
  induction stretches generalizing inLiteral with
  | nil => rw [List.intercalate_nil, renderFrom]; rfl
  | cons stretch stretches ih =>
    obtain ⟨hstretch, hstretches⟩ := List.forall_mem_cons.1 hstretches
    have hone {rest : List Char} (hrest : ∀ c ∈ rest.head?, c = '\'') :
        renderFrom names inLiteral false (stretch ++ rest) =
          fillStretch names inLiteral stretch ++ renderFrom names inLiteral false rest := by
      cases inLiteral with
      | false => exact renderFrom_unquoted hstretch hrest
      | true => exact renderFrom_quoted hstretch hrest false
    cases stretches with
    | nil =>
      have hend : renderFrom names inLiteral false (stretch ++ []) = _ := hone (by simp)
      rw [List.append_nil, renderFrom, List.append_nil] at hend
      rw [List.intercalate_singleton, hend]
      simp
    | cons next stretches =>
      rw [List.intercalate_cons_cons, List.append_assoc, List.singleton_append,
        hone (by simp), renderFrom_quote, ih hstretches, List.mapIdx_cons, List.mapIdx_cons,
        List.mapIdx_cons, List.intercalate_cons_cons]
      simp only [quoted_succ]
      simp

end Rendering

/-- A text is rendered stretch by stretch. -/
theorem render_eq_fillText (names : List String) (sql : String) :
    render names sql = fillText names sql := by
  have hstretches : ∀ stretch ∈ sql.toList.splitOn '\'', '\'' ∉ stretch :=
    fun _ => Text.sep_notMem_of_mem_splitOn
  have h : renderFrom names false false _ = _ := renderFrom_stretches hstretches false
  rw [List.intercalate_splitOn] at h
  rw [render, fillText, h]
  simp

end Placeholder

end PropertyFilter
