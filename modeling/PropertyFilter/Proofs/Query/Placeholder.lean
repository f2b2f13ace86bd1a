import PropertyFilter.Proofs.Sql.Token
import PropertyFilter.Query.Placeholder

/-!
# Positions and names

Rendering puts a position in the place of every name that is bound, and leaves all other tokens
of the text as they are.

## Main definitions

* `Placeholder.fill` — the token that rendering makes of a token

## Main results

* `getElem?_of_position?` — a position leads back to its name
* `position?_of_getElem?` — among distinct names every position is in use
* `renderFrom_written` — rendering a text fills its tokens
* `scan_render` — so that the rendered text is read as the filled tokens
-/

namespace PropertyFilter.Placeholder

open Text Sql

variable {names : List String} {name : String} {position : Nat}

/-! ### Positions of names -/

/-- A position leads back to its name. -/
theorem getElem?_of_position? (h : position? names name = some position) :
    1 ≤ position ∧ position ≤ names.length ∧ names[position - 1]? = some name := by
  obtain ⟨i, hi, rfl⟩ := Option.map_eq_some_iff.1 h
  -- names are looked for from the last one, so the index counts from there
  obtain ⟨hlt, heq, -⟩ := List.findIdx?_eq_some_iff_getElem.1 hi
  rw [List.length_reverse] at hlt
  rw [List.getElem_reverse, beq_iff_eq] at heq
  refine ⟨by omega, by omega, ?_⟩
  rw [← heq, List.getElem?_eq_getElem (by omega)]
  congr 2
  omega

theorem isSome_position?_iff : (position? names name).isSome ↔ name ∈ names := by
  simp [position?, List.findIdx?_isSome]

/-- Among distinct names every position is in use. -/
theorem position?_of_getElem? {i : Nat} (hnodup : names.Nodup) (h : names[i]? = some name) :
    position? names name = some (i + 1) := by
  obtain ⟨p, hp⟩ := Option.isSome_iff_exists.1 (isSome_position?_iff.2 (List.mem_of_getElem? h))
  obtain ⟨hpos, hle, hname⟩ := getElem?_of_position? hp
  have hi : i < names.length := (List.getElem?_eq_some_iff.1 h).1
  -- the position that is found leads back to the same name, which stands nowhere else
  have heq : p - 1 = i := (List.getElem?_inj (by omega) hnodup).1 (hname.trans h.symm)
  rw [hp]
  congr 1
  omega

/-! ### Rendering tokens -/

/-- The token that rendering makes of a token: a bound name becomes its position. -/
def fill (names : List String) : Token → Token
  | .slot name =>
    match position? names name with
    | some position => .position (toString position)
    | none => .slot name
  | t => t

theorem renderFrom_quote (inLiteral afterColon : Bool) (cs : List Char) :
    renderFrom names inLiteral afterColon ('\'' :: cs) =
      '\'' :: renderFrom names (!inLiteral) false cs := by
  rw [renderFrom, if_pos rfl]

theorem renderFrom_inside {c : Char} (h : c ≠ '\'') (afterColon : Bool) (cs : List Char) :
    renderFrom names true afterColon (c :: cs) = c :: renderFrom names true (c == ':') cs := by
  rw [renderFrom, if_neg h, if_neg (by simp)]

theorem renderFrom_cons {c : Char} (hquote : c ≠ '\'') (hcolon : c ≠ ':') (afterColon : Bool)
    (cs : List Char) :
    renderFrom names false afterColon (c :: cs) = c :: renderFrom names false false cs := by
  rw [renderFrom, if_neg hquote, if_neg (by simp [hcolon]), beq_false_of_ne hcolon]

/-- A colon that starts no bound name stays. -/
theorem renderFrom_colon {cs : List Char} (h : ofWord? names (cs.takeWhile isWord) = none) :
    renderFrom names false false (':' :: cs) = ':' :: renderFrom names false true cs := by
  rw [renderFrom, if_neg (by decide), if_pos (by simp), h]

/-- So does a colon behind another one. -/
theorem renderFrom_colon_colon (cs : List Char) :
    renderFrom names false true (':' :: cs) = ':' :: renderFrom names false true cs := by
  rw [renderFrom, if_neg (by decide), if_neg (by simp)]
  simp

/-- A bound name makes way for its position. -/
theorem renderFrom_name {cs : List Char}
    (h : ofWord? names (cs.takeWhile isWord) = some position) :
    renderFrom names false false (':' :: cs) =
      (Sql.placeholder position).toList ++ renderFrom names false false (cs.dropWhile isWord) := by
  rw [renderFrom, if_neg (by decide), if_pos (by simp), h]

/-- Of a text behind a colon that starts with an identifier, the whole identifier is looked up. -/
theorem ofWord?_takeWhile_append {rest : List Char} (h : isIdentifier name)
    (hrest : ∀ c ∈ rest.head?, !isWord c) :
    ofWord? names ((name.toList ++ rest).takeWhile isWord) = position? names name := by
  obtain ⟨c, cs, hname, hc, hall⟩ := exists_cons_of_isIdentifier h
  -- the word reaches up to the end of the identifier, and is no number
  have hdigit : c.isDigit = false := isDigit_of_isWordStart hc
  rw [hname, takeWhile_append_stop hall hrest, ofWord?, hdigit, ← hname, String.ofList_toList]
  rfl

theorem renderFrom_word {w : List Char} (hw : w.all isWord) (hne : w ≠ []) (afterColon : Bool)
    (rest : List Char) :
    renderFrom names false afterColon (w ++ rest) = w ++ renderFrom names false false rest := by
  induction w generalizing afterColon with
  | nil => exact absurd rfl hne
  | cons c cs ih =>
    rw [List.all_cons, Bool.and_eq_true] at hw
    have hcolon : c ≠ ':' := by
      rintro rfl
      exact absurd hw.1 (by decide)
    rw [List.cons_append, renderFrom_cons (ne_quote_of_isWord hw.1) hcolon]
    cases cs with
    | nil => rfl
    | cons d ds =>
      rw [ih hw.2 (by simp)]
      rfl

theorem renderFrom_quoteBody (content rest : List Char) (afterColon : Bool) :
    renderFrom names true afterColon (quoteBody content ++ '\'' :: rest) =
      quoteBody content ++ '\'' :: renderFrom names false false rest := by
  induction content generalizing afterColon with
  | nil => exact renderFrom_quote true afterColon rest
  | cons c cs ih =>
    by_cases hc : c = '\''
    · -- the two quotes close the literal and open it again
      subst hc
      rw [quoteBody_quote, List.cons_append, List.cons_append, renderFrom_quote,
        renderFrom_quote, Bool.not_true, Bool.not_false, ih]
      rfl
    · rw [quoteBody_cons hc, List.cons_append, renderFrom_inside hc, ih]
      rfl

/-- Rendering fills the token at the front and goes on behind it. -/
theorem renderFrom_text_append {t : Token} {rest : List Char} (ht : t.isProper)
    (hrest : ∀ c ∈ rest.head?, t.stopsAt c) :
    renderFrom names false false (t.text ++ rest) =
      (fill names t).text ++ renderFrom names false false rest := by
  cases t with
  | word w =>
    simp only [Token.isProper, Bool.and_eq_true] at ht
    exact renderFrom_word ht.2 (by simpa using ht.1) false rest
  | literal content =>
    have htext : (Token.literal content).text ++ rest =
        '\'' :: (quoteBody content.toList ++ '\'' :: rest) := by
      simp [Token.text]
    rw [htext, renderFrom_quote, Bool.not_false, renderFrom_quoteBody]
    simp [fill, Token.text]
  | unclosed rest => simp [Token.isProper] at ht
  | slot name =>
    obtain ⟨c, cs, hname, -, hall⟩ := exists_cons_of_isIdentifier ht
    have hword : ofWord? names ((name.toList ++ rest).takeWhile isWord) = position? names name :=
      ofWord?_takeWhile_append ht hrest
    change renderFrom names false false (':' :: (name.toList ++ rest)) = _
    cases hp : position? names name with
    | none =>
      rw [renderFrom_colon (hword.trans hp), renderFrom_word (by rw [hname]; exact hall)
        (by simp [hname])]
      simp [fill, hp, Token.text]
    | some position =>
      rw [renderFrom_name (hword.trans hp), dropWhile_append_stop (by rw [hname]; exact hall) hrest]
      simp [fill, hp, Token.text, Sql.placeholder]
  | position digits =>
    simp only [Token.isProper, Bool.and_eq_true] at ht
    have hall : digits.toList.all isWord := by
      rw [List.all_eq_true] at ht ⊢
      exact fun c hc => isWord_of_isDigit (ht.2 c hc)
    change renderFrom names false false ('$' :: (digits.toList ++ rest)) = _
    rw [renderFrom_cons (by decide) (by decide), renderFrom_word hall (by simpa using ht.1)]
    rfl
  | cast type =>
    simp only [Token.isProper, Bool.and_eq_true] at ht
    -- the first colon is followed by no word, and the second one starts no name
    have hword : ofWord? names ((':' :: (type.toList ++ rest)).takeWhile isWord) = none := by
      rw [List.takeWhile_cons_of_neg (by decide)]
      rfl
    change renderFrom names false false (':' :: ':' :: (type.toList ++ rest)) = _
    rw [renderFrom_colon hword, renderFrom_colon_colon, renderFrom_word ht.2 (by simpa using ht.1)]
    rfl
  | mark c =>
    simp only [Token.isProper, Bool.and_eq_true, bne_iff_ne] at ht
    exact renderFrom_cons ht.1.1.2 ht.1.2 false rest

/-- Rendering a text fills its tokens. -/
theorem renderFrom_written {ts : List Token} (h : Spaced ts) :
    renderFrom names false false (written ts) = written (ts.map (fill names)) := by
  induction ts with
  | nil => rw [written_nil, renderFrom]; rfl
  | cons t ts ih =>
    obtain ⟨hproper, hstop, hts⟩ := h
    rw [written_cons, renderFrom_text_append hproper hstop, ih hts]
    rfl

/-! ### Filled tokens keep their bounds -/

/-- Filling leaves a token as it is, or makes a position of a bound name. -/
theorem fill_cases (names : List String) (t : Token) : fill names t = t ∨
    ∃ name position, t = .slot name ∧ position? names name = some position ∧
      fill names t = .position (toString position) := by
  cases t with
  | slot name =>
    cases hp : position? names name with
    | none => exact .inl (by simp [fill, hp])
    | some position => exact .inr ⟨name, position, rfl, hp, by simp [fill, hp]⟩
  | _ => exact .inl rfl

theorem isProper_position (n : Nat) : (Token.position (toString n)).isProper := by
  have hdigits : ∀ c ∈ Nat.toDigits 10 n, c.isDigit := fun c hc =>
    Nat.isDigit_of_mem_toDigits (by decide) (by decide) hc
  simpa [Token.isProper, Nat.toDigits_ne_nil] using hdigits

theorem isProper_fill {t : Token} (h : t.isProper) : (fill names t).isProper := by
  rcases fill_cases names t with hfill | ⟨name, position, -, -, hfill⟩
  · rwa [hfill]
  · rw [hfill]
    exact isProper_position position

theorem stopsAt_fill (t : Token) (c : Char) : (fill names t).stopsAt c = t.stopsAt c := by
  rcases fill_cases names t with hfill | ⟨name, position, rfl, -, hfill⟩ <;> rw [hfill]
  rfl

/-- Filled tokens begin as before, or with the sign of a position. -/
theorem head?_written_map_fill (ts : List Token) :
    ∀ c ∈ (written (ts.map (fill names))).head?, c ∈ (written ts).head? ∨ c = '$' := by
  induction ts with
  | nil => simp
  | cons t ts ih =>
    rw [List.map_cons, written_cons, written_cons]
    rcases fill_cases names t with hfill | ⟨name, position, -, -, hfill⟩
    · rw [hfill]
      cases htext : t.text with
      | nil => simpa using ih
      | cons c cs => simp
    · rw [hfill]
      intro c hc
      exact .inr (by simpa [eq_comm] using hc)

/-- Filled tokens keep their bounds. -/
theorem spaced_map_fill {ts : List Token} (h : Spaced ts) : Spaced (ts.map (fill names)) := by
  induction ts with
  | nil => exact spaced_nil
  | cons t ts ih =>
    obtain ⟨hproper, hstop, hts⟩ := h
    refine ⟨isProper_fill hproper, fun c hc => ?_, ih hts⟩
    rw [stopsAt_fill]
    rcases head?_written_map_fill ts c hc with hc | rfl
    · exact hstop c hc
    · -- the sign of a position ends every token
      exact t.stopsAt_of_isNeutral (by decide)

/-- The tokens of a rendered text are the filled tokens of the text. -/
theorem scan_render {ts : List Token} {sql : String} (h : Spaced ts)
    (hsql : sql.toList = written ts) : scan (render names sql).toList = ts.map (fill names) := by
  rw [render, String.toList_ofList, hsql, renderFrom_written h, scan_written (spaced_map_fill h)]

end PropertyFilter.Placeholder
