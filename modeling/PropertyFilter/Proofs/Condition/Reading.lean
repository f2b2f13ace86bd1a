import PropertyFilter.Proofs.Condition.Tokens

/-!
# Reading conditions

The condition that a text writes, found from the text alone: a comparison, or several of them
in parentheses. What was written is read back, so a text has the meaning of its condition.

## Main definitions

* `Sql.phrases` — the tokens of a text, with columns and operands put together
* `Comparison.ofPhrases?` — the comparison that phrases write
* `Condition.ofText?` — the condition that a text writes

## Main results

* `Condition.ofText?_sql` — the text of a safe condition is read as that condition
-/

namespace PropertyFilter

open Sql

/-! ### Phrases -/

namespace Sql

/-- A token, or tokens that belong together. -/
inductive Phrase where
  /-- A column of a table. -/
  | column (name : String)
  /-- A parameter, perhaps cast to text. -/
  | operand (slot : String) (isCast : Bool)
  | token (t : Token)
deriving DecidableEq

/-- Puts together what belongs together, and leaves out blanks. -/
def phrases : List Token → List Phrase
  | .word table :: .mark '.' :: .word column :: ts =>
    .column (table ++ "." ++ column) :: phrases ts
  | .slot name :: .cast "TEXT" :: ts => .operand name true :: phrases ts
  | .slot name :: ts => .operand name false :: phrases ts
  | .mark ' ' :: ts => phrases ts
  | t :: ts => .token t :: phrases ts
  | [] => []

/-- Phrases do not reach over a mark, unless it is a dot. -/
theorem phrases_append_mark {c : Char} (hc : c ≠ '.') (ts us : List Token) :
    phrases (ts ++ .mark c :: us) = phrases ts ++ phrases (.mark c :: us) := by
  fun_induction phrases ts with
  | case1 table column ts ih => simpa [phrases] using ih
  | case2 name ts ih => simpa [phrases] using ih
  | case3 name ts hcast ih =>
    rw [List.cons_append, phrases, ih]
    · rfl
    · -- the mark is no cast
      intro vs hvs
      cases ts with
      | nil => simp at hvs
      | cons u ts =>
        rw [List.cons_append, List.cons.injEq] at hvs
        exact hcast ts (by rw [hvs.1])
  | case4 ts ih => simpa [phrases] using ih
  | case5 t ts hcolumn _ hslot hblank ih =>
    rw [List.cons_append, phrases, ih]
    · rfl
    · -- a column would end before the mark, or in it
      intro table column vs ht hvs
      match ts with
      | [] => simp [hc] at hvs
      | [u] => simp at hvs
      | u :: v :: ts =>
        simp only [List.cons_append, List.cons.injEq] at hvs
        exact hcolumn table column ts ht (by rw [hvs.1, hvs.2.1])
    · exact fun name _ ht _ => hslot name ht
    · exact hslot
    · exact hblank
  | case6 => rfl

theorem phrases_spacedWord (w : String) (ts : List Token) :
    phrases (spacedWord w ++ ts) = .token (.word w) :: phrases ts := rfl

/-- The phrases of lists that are joined by a word between blanks. -/
theorem phrases_intercalate (w : String) (parts : List (List Token)) :
    phrases ((spacedWord w).intercalate parts) =
      [.token (.word w)].intercalate (parts.map phrases) := by
  induction parts with
  | nil => rfl
  | cons part parts ih =>
    cases parts with
    | nil => simp
    | cons next parts =>
      have happend :
          phrases (part ++ (spacedWord w ++ (spacedWord w).intercalate (next :: parts))) =
            phrases part ++ phrases (spacedWord w ++ (spacedWord w).intercalate (next :: parts)) :=
        phrases_append_mark (by decide) _ _
      rw [List.intercalate_cons_cons, List.append_assoc, happend, phrases_spacedWord, ih]
      simp [List.intercalate_cons_cons]

end Sql

/-! ### Reading phrases -/

/-- The keys in the literal of a path. -/
def Sql.keyOfLiteral? (content : String) : Option String :=
  match content.toList with
  | '\x7b' :: cs => if cs.getLast? = some '\x7d' then some (String.ofList cs.dropLast) else none
  | _ => none

/-- The test that phrases write behind the stored text, with the operand and whether it is
cast. -/
def Test.ofPhrases? : List Phrase → Option (Test × String × Bool)
  | [.token (.mark '='), .operand x isCast] => some (.equal, x, isCast)
  | [.token (.word "LIKE"), .operand x isCast, .token (.word "ESCAPE"),
      .token (.literal "\\")] => some (.like "" "", x, isCast)
  | [.token (.word "LIKE"), .token (.word "CONCAT"), .token (.mark '('), .operand x isCast,
      .token (.mark ','), .token (.literal after), .token (.mark ')'), .token (.word "ESCAPE"),
      .token (.literal "\\")] => some (.like "" after, x, isCast)
  | [.token (.word "LIKE"), .token (.word "CONCAT"), .token (.mark '('),
      .token (.literal before), .token (.mark ','), .operand x isCast, .token (.mark ')'),
      .token (.word "ESCAPE"), .token (.literal "\\")] => some (.like before "", x, isCast)
  | [.token (.word "LIKE"), .token (.word "CONCAT"), .token (.mark '('),
      .token (.literal before), .token (.mark ','), .operand x isCast, .token (.mark ','),
      .token (.literal after), .token (.mark ')'), .token (.word "ESCAPE"),
      .token (.literal "\\")] => some (.like before after, x, isCast)
  | _ => none

/-- The comparison that phrases write. -/
def Comparison.ofPhrases? : List Phrase → Option (Comparison String)
  | .token (.word "LOWER") :: .token (.mark '(') :: .column column :: .token (.mark '#') ::
      .token (.mark '>') :: .token (.mark '>') :: .token (.literal path) :: .token (.mark ')') ::
      ps => do
    let key ← keyOfLiteral? path
    let (test, x, isCast) ← Test.ofPhrases? ps
    some ⟨column, key, true, test, isCast, x⟩
  | .column column :: .token (.mark '#') :: .token (.mark '>') :: .token (.mark '>') ::
      .token (.literal path) :: ps => do
    let key ← keyOfLiteral? path
    let (test, x, isCast) ← Test.ofPhrases? ps
    some ⟨column, key, false, test, isCast, x⟩
  | _ => none

/-- The condition that a text writes: a comparison, or a choice in parentheses. -/
def Condition.ofText? (text : String) : Option (Condition String) :=
  match phrases (scan text.toList) with
  | .token (.mark '(') :: ps =>
    if ps.getLast? = some (.token (.mark ')')) then
      ((ps.dropLast.splitOn (.token (.word "OR"))).mapM Comparison.ofPhrases?).map .anyOf
    else none
  | ps => (Comparison.ofPhrases? ps).map .single

/-! ### What was written is read back -/

@[simp] theorem Sql.keyOfLiteral?_path (key : String) :
    keyOfLiteral? ("\x7b" ++ key ++ "\x7d") = some key := by
  simp [keyOfLiteral?]

theorem Test.ofPhrases?_tokens {test : Test} (h : test ∈ known) (x : String) (isCast : Bool) :
    ofPhrases? (phrases (test.tokens [] (.slot x :: if isCast then [.cast "TEXT"] else []))) =
      some (test, x, isCast) := by
  simp only [known, List.mem_cons, List.not_mem_nil, or_false] at h
  rcases h with rfl | rfl | rfl | rfl | rfl <;> cases isCast <;> rfl

/-- A test goes on behind the stored text with a mark. -/
theorem Test.phrases_tokens (test : Test) (stored operand : List Token) :
    phrases (test.tokens stored operand) = phrases stored ++ phrases (test.tokens [] operand) := by
  obtain ⟨ts, hts⟩ : ∃ ts, test.tokens [] operand = .mark ' ' :: ts := by
    cases test with
    | equal => exact ⟨_, rfl⟩
    | like before after => exact ⟨_, rfl⟩
  rw [tokens_eq_append, hts, phrases_append_mark (by decide)]

section Reading

variable {tableAlias : String}

theorem Comparison.phrases_storedTokens {c : Comparison String} (ha : isIdentifier tableAlias)
    (hc : c.IsSafe tableAlias) : phrases c.storedTokens =
      let path := .token (.literal ("\x7b" ++ c.key ++ "\x7d"))
      let extract := [.column c.column, .token (.mark '#'), .token (.mark '>'),
        .token (.mark '>'), path]
      if c.foldsCase then
        .token (.word "LOWER") :: .token (.mark '(') :: extract ++ [.token (.mark ')')]
      else extract := by
  obtain ⟨column, hcolumn, hstored⟩ := storedTokens_eq ha hc
  rw [hstored, hcolumn]
  split <;> rfl

/-- A safe comparison is read back. -/
theorem Comparison.ofPhrases?_tokens {c : Comparison String} (ha : isIdentifier tableAlias)
    (hc : c.IsSafe tableAlias) : ofPhrases? (phrases (c.tokens .slot)) = some c := by
  have hstored := phrases_storedTokens ha hc
  obtain ⟨path, -, hreads⟩ := hc
  have htest := Test.ofPhrases?_tokens hreads.test c.slot c.castsSlot
  rw [tokens, Test.phrases_tokens, hstored]
  obtain ⟨column, key, foldsCase, test, castsSlot, slot⟩ := c
  cases foldsCase <;> simp [ofPhrases?, htest]

/-- No comparison has the word in it that joins comparisons, whatever its column is called. -/
theorem Comparison.or_notMem_phrases {c : Comparison String} (ha : isIdentifier tableAlias)
    (hc : c.IsSafe tableAlias) : .token (.word "OR") ∉ phrases (c.tokens .slot) := by
  have hstored := phrases_storedTokens ha hc
  obtain ⟨path, -, hreads⟩ := hc
  rw [tokens, Test.phrases_tokens, hstored, List.mem_append, not_or]
  constructor
  · -- the column is one phrase, so that its words are not found on their own
    split <;> simp
  · obtain ⟨column, key, foldsCase, test, castsSlot, slot⟩ := c
    have htest := hreads.test
    simp only [Test.known, List.mem_cons, List.not_mem_nil, or_false] at htest
    rcases htest with rfl | rfl | rfl | rfl | rfl <;> cases castsSlot <;>
      simp [Test.tokens, Test.patternTokens, spacedWord, phrases]

theorem Comparison.phrases_ne_open {c : Comparison String} (ha : isIdentifier tableAlias)
    (hc : c.IsSafe tableAlias) (ps : List Phrase) :
    phrases (c.tokens .slot) ≠ .token (.mark '(') :: ps := by
  rw [tokens, Test.phrases_tokens, phrases_storedTokens ha hc]
  split <;> simp

/-- The text of a safe condition is read as that condition. -/
theorem Condition.ofText?_sql {c : Condition String} (ha : isIdentifier tableAlias)
    (hc : c.IsSafe tableAlias) (hslots : ∀ x ∈ c.slots, isIdentifier x)
    (hne : c.comparisons ≠ []) : ofText? (c.sql Sql.slot) = some c := by
  have hwritten : written (c.tokens .slot) = (c.sql Sql.slot).toList :=
    written_tokens hc fun x => by simp [Sql.slot]
  have hspaced : Spaced (c.tokens Token.slot) := spaced_tokens ha hc hslots
  rw [ofText?, ← hwritten, scan_written hspaced]
  cases c with
  | single c =>
    have hsafe := hc c List.mem_cons_self
    rw [tokens]
    split
    · rename_i ps hps
      exact absurd hps (Comparison.phrases_ne_open ha hsafe ps)
    · rw [Comparison.ofPhrases?_tokens ha hsafe]
      rfl
  | anyOf cs =>
    have hphrases : phrases (tokens Token.slot (.anyOf cs)) = .token (.mark '(') ::
        ([.token (.word "OR")].intercalate (cs.map fun c => phrases (c.tokens .slot)) ++
          [.token (.mark ')')]) := by
      have hclose := phrases_append_mark (by decide : ')' ≠ '.')
        ((spacedWord "OR").intercalate (cs.map (·.tokens Token.slot))) []
      rw [phrases_intercalate, List.map_map] at hclose
      exact congrArg _ hclose
    have hparts : ∀ part ∈ cs.map fun c => phrases (c.tokens Token.slot),
        .token (.word "OR") ∉ part := by
      intro part hpart
      obtain ⟨c, hmem, rfl⟩ := List.mem_map.1 hpart
      exact Comparison.or_notMem_phrases ha (hc c hmem)
    have hread : (cs.map fun c => phrases (c.tokens Token.slot)).mapM Comparison.ofPhrases? =
        some cs :=
      Text.mapM_map_eq_some fun c hmem => Comparison.ofPhrases?_tokens ha (hc c hmem)
    have hsome : cs.map (fun c => phrases (c.tokens Token.slot)) ≠ [] := by
      rw [Ne, List.map_eq_nil_iff]
      exact hne
    -- without the parentheses, the phrases fall apart at the words between comparisons
    simp only [hphrases, List.getLast?_concat, if_true, List.dropLast_concat]
    rw [List.splitOn_intercalate _ hparts hsome, hread]
    rfl

end Reading

end PropertyFilter
