import PropertyFilter.Proofs.Text.Joined
import PropertyFilter.Sql.Identifier

/-!
# Tokens of SQL text

SQL text as a database reads it: words, literals, parameters, casts and single marks. Inside a
literal a quote is written twice, and nothing else in it has a meaning.

## Main definitions

* `Sql.Token` — a piece of SQL text, and `Token.text`, the characters that write it
* `Sql.scan` — the tokens of a text
* `Sql.Spaced` — tokens that keep their bounds when they are written one after the other

## Main results

* `written_scan` — the tokens of a text write the text, so that nothing is lost in reading
* `scan_written` — spaced tokens are read back as they are
-/

namespace PropertyFilter.Sql

open Text

/-- A piece of SQL text. -/
inductive Token where
  /-- A longest run of word characters. -/
  | word (w : String)
  /-- A literal, by its content. -/
  | literal (content : String)
  /-- A quote that no other quote closes, by the rest of the text. -/
  | unclosed (rest : String)
  /-- A parameter by its name. -/
  | slot (name : String)
  /-- A parameter by its position. -/
  | position (digits : String)
  /-- Two colons and the name of a type. -/
  | cast (type : String)
  /-- Any other character. -/
  | mark (c : Char)
deriving DecidableEq, Repr

/-! ### Writing tokens -/

/-- The content of a literal as it stands between the quotes. -/
def quoteBody (content : List Char) : List Char :=
  content.flatMap fun c => if c = '\'' then ['\'', '\''] else [c]

@[simp] theorem quoteBody_nil : quoteBody [] = [] := rfl

@[simp] theorem quoteBody_quote (cs : List Char) :
    quoteBody ('\'' :: cs) = '\'' :: '\'' :: quoteBody cs := rfl

theorem quoteBody_cons {c : Char} (h : c ≠ '\'') (cs : List Char) :
    quoteBody (c :: cs) = c :: quoteBody cs := by
  simp [quoteBody, h]

theorem quoteBody_eq_self {content : List Char} (h : '\'' ∉ content) :
    quoteBody content = content := by
  induction content with
  | nil => rfl
  | cons c cs ih =>
    obtain ⟨hc, hcs⟩ := List.ne_and_not_mem_of_not_mem_cons h
    rw [quoteBody_cons hc.symm, ih hcs]

/-- The characters that write a token. -/
def Token.text : Token → List Char
  | word w => w.toList
  | literal content => '\'' :: (quoteBody content.toList ++ ['\''])
  | unclosed rest => '\'' :: rest.toList
  | slot name => ':' :: name.toList
  | position digits => '$' :: digits.toList
  | cast type => ':' :: ':' :: type.toList
  | mark c => [c]

namespace Token

@[simp] theorem text_word (w : String) : (word w).text = w.toList := rfl

@[simp] theorem text_literal (content : String) :
    (literal content).text = '\'' :: (quoteBody content.toList ++ ['\'']) := rfl

@[simp] theorem text_slot (name : String) : (slot name).text = ':' :: name.toList := rfl

@[simp] theorem text_position (digits : String) :
    (position digits).text = '$' :: digits.toList := rfl

@[simp] theorem text_cast (type : String) : (cast type).text = ':' :: ':' :: type.toList := rfl

@[simp] theorem text_mark (c : Char) : (mark c).text = [c] := rfl

end Token

/-- The text of several tokens. -/
def written (ts : List Token) : List Char := ts.flatMap Token.text

@[simp] theorem written_nil : written [] = [] := rfl

@[simp] theorem written_cons (t : Token) (ts : List Token) :
    written (t :: ts) = t.text ++ written ts := rfl

@[simp] theorem written_append (ts us : List Token) :
    written (ts ++ us) = written ts ++ written us := by
  simp [written]

theorem written_intercalate (sep : List Token) (parts : List (List Token)) :
    written (sep.intercalate parts) = (written sep).intercalate (parts.map written) :=
  flatMap_intercalate Token.text

/-! ### Reading tokens -/

/-- The content of a literal and what follows it, for the text after the opening quote. -/
def literalBody? : List Char → Option (List Char × List Char)
  | [] => none
  | '\'' :: '\'' :: cs => (literalBody? cs).map fun r => ('\'' :: r.1, r.2)
  | '\'' :: cs => some ([], cs)
  | c :: cs => (literalBody? cs).map fun r => (c :: r.1, r.2)

/-- The token at the front of a text that starts with `c`, and what follows it. -/
def next (c : Char) (cs : List Char) : Token × List Char :=
  if c = '\'' then
    match literalBody? cs with
    | some (content, rest) => (.literal (String.ofList content), rest)
    | none => (.unclosed (String.ofList cs), [])
  else if isWord c then (.word (String.ofList (c :: cs.takeWhile isWord)), cs.dropWhile isWord)
  else if c = '$' && cs.head?.any Char.isDigit then
    (.position (String.ofList (cs.takeWhile Char.isDigit)), cs.dropWhile Char.isDigit)
  else if c = ':' then
    match cs with
    | ':' :: cs => (.cast (String.ofList (cs.takeWhile isWord)), cs.dropWhile isWord)
    | cs =>
      if cs.head?.any isWordStart then
        (.slot (String.ofList (cs.takeWhile isWord)), cs.dropWhile isWord)
      else (.mark ':', cs)
  else (.mark c, cs)

theorem eq_quoteBody_of_literalBody? {cs content rest : List Char}
    (h : literalBody? cs = some (content, rest)) : cs = quoteBody content ++ '\'' :: rest := by
  fun_induction literalBody? cs generalizing content with
  | case1 => simp at h
  | case2 cs ih =>
    -- two quotes stand for one
    obtain ⟨r, hr, heq⟩ := Option.map_eq_some_iff.1 h
    obtain ⟨rfl, rfl⟩ := Prod.mk.inj heq
    rw [ih hr, quoteBody_quote]
    rfl
  | case3 cs _ =>
    -- one quote closes the literal
    obtain ⟨rfl, rfl⟩ : [] = content ∧ cs = rest := by simpa using h
    rfl
  | case4 c cs _ hc ih =>
    obtain ⟨r, hr, heq⟩ := Option.map_eq_some_iff.1 h
    obtain ⟨rfl, rfl⟩ := Prod.mk.inj heq
    rw [ih hr, quoteBody_cons hc]
    rfl

/-- A token takes the first character and perhaps some of those after it. -/
theorem exists_text_next (c : Char) (cs : List Char) :
    ∃ taken, (next c cs).1.text = c :: taken ∧ taken ++ (next c cs).2 = cs := by
  unfold next
  split
  · rename_i hc
    cases h : literalBody? cs with
    | none => exact ⟨cs, by simp [Token.text, hc], List.append_nil cs⟩
    | some r =>
      refine ⟨quoteBody r.1 ++ ['\''], by simp [Token.text, hc], ?_⟩
      rw [eq_quoteBody_of_literalBody? h, List.append_assoc]
      rfl
  · split
    · exact ⟨cs.takeWhile isWord, by simp [Token.text], List.takeWhile_append_dropWhile⟩
    · split
      · rename_i hdollar
        simp only [Bool.and_eq_true, decide_eq_true_eq] at hdollar
        exact ⟨cs.takeWhile Char.isDigit, by simp [Token.text, hdollar.1],
          List.takeWhile_append_dropWhile⟩
      · split
        · rename_i hcolon
          -- a colon opens a cast or a parameter, or stands for itself
          split
          · rename_i rest _
            exact ⟨':' :: rest.takeWhile isWord, by simp [Token.text, hcolon], by simp⟩
          · split
            · exact ⟨cs.takeWhile isWord, by simp [Token.text, hcolon],
                List.takeWhile_append_dropWhile⟩
            · exact ⟨[], by simp [Token.text, hcolon], rfl⟩
        · exact ⟨[], rfl, rfl⟩

/-- A token and what follows it are the text that was read. -/
theorem text_next_append (c : Char) (cs : List Char) :
    (next c cs).1.text ++ (next c cs).2 = c :: cs := by
  obtain ⟨taken, htext, hrest⟩ := exists_text_next c cs
  rw [htext, List.cons_append, hrest]

theorem length_next_le (c : Char) (cs : List Char) : (next c cs).2.length ≤ cs.length := by
  obtain ⟨taken, -, hrest⟩ := exists_text_next c cs
  have hlen := congrArg List.length hrest
  rw [List.length_append] at hlen
  omega

/-- The tokens of a text. Each of them takes a character, so that reading comes to an end. -/
def scan : List Char → List Token
  | [] => []
  | c :: cs =>
    have := length_next_le c cs
    (next c cs).1 :: scan (next c cs).2
termination_by cs => cs.length

@[simp] theorem scan_nil : scan [] = [] := by rw [scan]

theorem scan_cons (c : Char) (cs : List Char) :
    scan (c :: cs) = (next c cs).1 :: scan (next c cs).2 := by
  rw [scan]

/-- The tokens of a text write the text. -/
theorem written_scan (cs : List Char) : written (scan cs) = cs := by
  fun_induction scan cs with
  | case1 => rfl
  | case2 c cs _ ih => rw [written_cons, ih, text_next_append]

/-! ### Tokens that are read back -/

/-- Whether a token is written in such a way that it alone can be read there. -/
def Token.isProper : Token → Bool
  | word w => !w.toList.isEmpty && w.toList.all isWord
  | literal _ => true
  | unclosed _ => false
  | slot name => isIdentifier name
  | position digits => !digits.toList.isEmpty && digits.toList.all Char.isDigit
  | cast type => !type.toList.isEmpty && type.toList.all isWord
  | mark c => !isWord c && c != '\'' && c != ':' && c != '$'

/-- Whether a token ends in front of a character. -/
def Token.stopsAt (t : Token) (c : Char) : Bool :=
  match t with
  | literal _ => c != '\''
  | mark _ => true
  | _ => !isWord c

/-- Tokens that keep their bounds when they are written one after the other. -/
def Spaced : List Token → Prop
  | [] => True
  | t :: ts => t.isProper ∧ (∀ c ∈ (written ts).head?, t.stopsAt c) ∧ Spaced ts

@[simp] theorem spaced_nil : Spaced [] := trivial

theorem spaced_cons {t : Token} {ts : List Token} :
    Spaced (t :: ts) ↔ t.isProper ∧ (∀ c ∈ (written ts).head?, t.stopsAt c) ∧ Spaced ts := Iff.rfl

instance decidableSpaced : DecidablePred Spaced
  | [] => .isTrue trivial
  | t :: ts =>
    have := decidableSpaced ts
    decidable_of_iff (t.isProper ∧ (written ts).head?.all t.stopsAt ∧ Spaced ts) (by
      rw [spaced_cons, Option.all_eq_true]
      rfl)

theorem Spaced.isProper {ts : List Token} (h : Spaced ts) : ∀ t ∈ ts, t.isProper := by
  induction ts with
  | nil => simp
  | cons t ts ih =>
    intro u hu
    rcases List.mem_cons.1 hu with rfl | hu
    · exact h.1
    · exact ih h.2.2 u hu

/-- A character in front of which every token ends. -/
def isNeutral (c : Char) : Bool := !isWord c && c != '\''

theorem Token.stopsAt_of_isNeutral {c : Char} (h : isNeutral c) (t : Token) : t.stopsAt c := by
  simp only [isNeutral, Bool.and_eq_true] at h
  cases t <;> simp [Token.stopsAt, h]

/-- Tokens whose text begins with a neutral character, if it has any. -/
def OpensNeutral (ts : List Token) : Prop := ∀ c ∈ (written ts).head?, isNeutral c

instance : DecidablePred OpensNeutral := fun ts =>
  decidable_of_iff ((written ts).head?.all isNeutral) (by
    rw [OpensNeutral, Option.all_eq_true]
    rfl)

theorem OpensNeutral.mark_cons {c : Char} {ts : List Token} (hc : isNeutral c) :
    OpensNeutral (.mark c :: ts) := by
  intro d hd
  obtain rfl : c = d := by simpa using hd
  exact hc

/-- Any token keeps its bounds in front of a neutral character. -/
theorem Spaced.cons {t : Token} {ts : List Token} (ht : t.isProper) (hopens : OpensNeutral ts)
    (h : Spaced ts) : Spaced (t :: ts) :=
  ⟨ht, fun c hc => t.stopsAt_of_isNeutral (hopens c hc), h⟩

/-- A mark keeps its bounds in front of anything. -/
theorem Spaced.mark_cons {c : Char} {ts : List Token} (hc : (Token.mark c).isProper)
    (h : Spaced ts) : Spaced (.mark c :: ts) :=
  ⟨hc, fun _ _ => rfl, h⟩

/-- Spaced tokens can be written behind one another where a neutral character begins. -/
theorem Spaced.append {ts us : List Token} (ht : Spaced ts) (hu : Spaced us)
    (hopens : OpensNeutral us) : Spaced (ts ++ us) := by
  induction ts with
  | nil => exact hu
  | cons t ts ih =>
    obtain ⟨hproper, hstop, hts⟩ := ht
    refine ⟨hproper, ?_, ih hts⟩
    intro c hc
    change c ∈ (written (ts ++ us)).head? at hc
    rw [written_append] at hc
    -- what follows the token is the neutral character only if nothing of the first list is left
    cases hw : written ts with
    | nil =>
      rw [hw, List.nil_append] at hc
      exact t.stopsAt_of_isNeutral (hopens c hc)
    | cons d ds =>
      rw [hw, List.cons_append] at hc
      refine hstop c ?_
      rw [hw]
      exact hc

/-- Lists that are joined by a word between blanks keep their bounds. -/
theorem Spaced.intercalate {w : String} {parts : List (List Token)}
    (hw : (Token.word w).isProper) (h : ∀ part ∈ parts, Spaced part) :
    Spaced ([.mark ' ', .word w, .mark ' '].intercalate parts) := by
  cases parts with
  | nil => exact spaced_nil
  | cons part parts =>
    refine Text.intercalate_induction (List.cons_ne_nil part parts) (fun {ts us} hts hus => ?_) h
    have hword : Spaced (.word w :: .mark ' ' :: us) :=
      .cons hw (.mark_cons (by decide)) (.mark_cons (by decide) hus)
    exact hts.append (.mark_cons (by decide) hword) (.mark_cons (by decide))

theorem literalBody?_quoteBody {content rest : List Char} (h : ∀ c ∈ rest.head?, c ≠ '\'') :
    literalBody? (quoteBody content ++ '\'' :: rest) = some (content, rest) := by
  induction content with
  | nil =>
    -- the quote behind the content closes the literal, since no other one follows it
    cases rest with
    | nil => rfl
    | cons c cs =>
      have hc : c ≠ '\'' := h c (by simp)
      simp [literalBody?, hc]
  | cons c cs ih =>
    by_cases hc : c = '\''
    · subst hc
      simp [literalBody?, ih]
    · rw [quoteBody_cons hc, List.cons_append, literalBody?, ih]
      · rfl
      · simp [hc]
      · simp [hc]

theorem ne_quote_of_isWord {c : Char} (h : isWord c) : c ≠ '\'' := by
  rintro rfl
  exact absurd h (by decide)

theorem isWord_of_isDigit {c : Char} (h : c.isDigit) : isWord c := by
  simp [isWord, Char.isAlphanum, h]

/-- Letters and the underscore come behind the digits. -/
theorem isDigit_of_isWordStart {c : Char} (h : isWordStart c) : c.isDigit = false := by
  have hlow : 65 ≤ c.val.toNat := by
    simp only [isWordStart, Bool.or_eq_true, beq_iff_eq] at h
    rcases h with h | rfl
    · rcases Bool.or_eq_true_iff.1 h with hupper | hlower
      · exact UInt32.le_iff_toNat_le.1 (of_decide_eq_true hupper).1
      · exact Nat.le_trans (by decide)
          (UInt32.le_iff_toNat_le.1 (of_decide_eq_true (Bool.and_eq_true_iff.1 hlower).1))
    · decide
  -- the code of the last digit is 57, and that of the first letter 65
  have hhigh : ¬ c.val ≤ 57 := by
    rw [UInt32.le_iff_toNat_le]
    exact fun hle => absurd (Nat.le_trans hlow hle) (by decide)
  simp [Char.isDigit, hhigh]

/-- An identifier begins in such a way that it cannot be taken for a number. -/
theorem exists_cons_of_isIdentifier {s : String} (h : isIdentifier s) :
    ∃ c cs, s.toList = c :: cs ∧ isWordStart c ∧ (c :: cs).all isWord := by
  unfold isIdentifier at h
  cases hs : s.toList with
  | nil => simp [hs] at h
  | cons c cs =>
    simp only [hs, Bool.and_eq_true] at h
    refine ⟨c, cs, rfl, h.1, ?_⟩
    rw [List.all_cons, isWord_of_isWordStart h.1, h.2]
    rfl

theorem next_of_isWord {c : Char} (h : isWord c) (cs : List Char) :
    next c cs = (.word (String.ofList (c :: cs.takeWhile isWord)), cs.dropWhile isWord) := by
  unfold next
  rw [if_neg (ne_quote_of_isWord h), if_pos h]

theorem next_dollar {d : Char} (h : d.isDigit) (cs : List Char) :
    next '$' (d :: cs) = (.position (String.ofList ((d :: cs).takeWhile Char.isDigit)),
      (d :: cs).dropWhile Char.isDigit) := by
  unfold next
  rw [if_neg (by decide), if_neg (by decide), if_pos (by simp [h])]

theorem next_colon {d : Char} (h : isWordStart d) (cs : List Char) :
    next ':' (d :: cs) =
      (.slot (String.ofList ((d :: cs).takeWhile isWord)), (d :: cs).dropWhile isWord) := by
  -- otherwise this would be a cast
  have hd : d ≠ ':' := by
    rintro rfl
    exact absurd h (by decide)
  unfold next
  rw [if_neg (by decide), if_neg (by decide), if_neg (by simp), if_pos rfl]
  split
  · rename_i heq
    exact absurd (List.cons.inj heq).1 hd
  · rw [if_pos (by simpa using h)]

/-- A proper token is read in front of a text at which it stops. -/
theorem exists_next_of_isProper {t : Token} {rest : List Char} (ht : t.isProper)
    (hrest : ∀ c ∈ rest.head?, t.stopsAt c) :
    ∃ c cs, t.text ++ rest = c :: cs ∧ next c cs = (t, rest) := by
  cases t with
  | word w =>
    cases hw : w.toList with
    | nil => simp [Token.isProper, hw] at ht
    | cons c cs =>
      simp only [Token.isProper, hw, List.all_cons, Bool.and_eq_true] at ht
      obtain ⟨-, hc, hcs⟩ := ht
      refine ⟨c, cs ++ rest, by simp [Token.text, hw], ?_⟩
      rw [next_of_isWord hc, Text.takeWhile_append_stop hcs hrest,
        Text.dropWhile_append_stop hcs hrest, ← hw, String.ofList_toList]
  | literal content =>
    have hstop : ∀ c ∈ rest.head?, c ≠ '\'' := fun c hc => by
      simpa [Token.stopsAt] using hrest c hc
    refine ⟨'\'', quoteBody content.toList ++ '\'' :: rest, by simp [Token.text], ?_⟩
    simp [next, literalBody?_quoteBody hstop]
  | unclosed rest => simp [Token.isProper] at ht
  | slot name =>
    obtain ⟨c, cs, hname, hc, hall⟩ := exists_cons_of_isIdentifier ht
    refine ⟨':', c :: (cs ++ rest), by simp [Token.text, hname], ?_⟩
    rw [next_colon hc, ← List.cons_append, Text.takeWhile_append_stop hall hrest,
      Text.dropWhile_append_stop hall hrest, ← hname, String.ofList_toList]
  | position digits =>
    cases hd : digits.toList with
    | nil => simp [Token.isProper, hd] at ht
    | cons c cs =>
      simp only [Token.isProper, hd, Bool.and_eq_true] at ht
      have hc : c.isDigit := by
        have := ht.2
        rw [List.all_cons, Bool.and_eq_true] at this
        exact this.1
      -- digits are word characters, so a number ends where a word does
      have hstop : ∀ c ∈ rest.head?, !c.isDigit := by
        intro c hc
        have hword : isWord c = false := by simpa [Token.stopsAt] using hrest c hc
        cases hdigit : c.isDigit with
        | false => rfl
        | true => exact absurd (isWord_of_isDigit hdigit) (by simp [hword])
      refine ⟨'$', c :: (cs ++ rest), by simp [Token.text, hd], ?_⟩
      rw [next_dollar hc, ← List.cons_append, Text.takeWhile_append_stop ht.2 hstop,
        Text.dropWhile_append_stop ht.2 hstop, ← hd, String.ofList_toList]
  | cast type =>
    simp only [Token.isProper, Bool.and_eq_true] at ht
    refine ⟨':', ':' :: (type.toList ++ rest), by simp [Token.text], ?_⟩
    have hcolon : isWord ':' = false := by decide
    simp [next, hcolon, Text.takeWhile_append_stop ht.2 hrest,
      Text.dropWhile_append_stop ht.2 hrest]
  | mark c =>
    simp only [Token.isProper, Bool.and_eq_true, bne_iff_ne, Bool.not_eq_true'] at ht
    obtain ⟨⟨⟨hword, hquote⟩, hcolon⟩, hdollar⟩ := ht
    refine ⟨c, rest, rfl, ?_⟩
    unfold next
    rw [if_neg hquote, if_neg (by simp [hword]), if_neg (by simp [hdollar]), if_neg hcolon]

/-- Spaced tokens are read back as they are. -/
theorem scan_written {ts : List Token} (h : Spaced ts) : scan (written ts) = ts := by
  induction ts with
  | nil => exact scan_nil
  | cons t ts ih =>
    -- the first token is read, and the text of the others is left
    obtain ⟨hproper, hstop, hts⟩ := h
    obtain ⟨c, cs, htext, hnext⟩ := exists_next_of_isProper hproper hstop
    rw [written_cons, htext, scan_cons, hnext, ih hts]

end PropertyFilter.Sql
