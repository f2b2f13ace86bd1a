import PropertyFilter.Proofs.KeyPath
import PropertyFilter.Proofs.Plan
import PropertyFilter.Proofs.Sql.Token

/-!
# Tokens of conditions

The text of a condition is the text of a list of tokens, which keep their bounds as long as the
condition reads a safe path. So the text is read back as those tokens.

## Main definitions

* `Comparison.IsSafe`, `Condition.IsSafe` — comparisons that read safe paths with known tests
* `Condition.tokens` — the tokens of a condition
* `Sql.Token.IsFixed` — the tokens that may stand beside the operands

## Main results

* `Condition.written_tokens` — the tokens write the text of the condition
* `Condition.spaced_tokens` — they keep their bounds
* `Condition.forall_mem_tokens` — nothing but fixed tokens and the slots occurs in them
-/

namespace PropertyFilter

open Sql

variable {σ : Type}

/-! ### Safe conditions -/

/-- A comparison that reads a safe path of a table with a known test. -/
def Comparison.IsSafe (tableAlias : String) (c : Comparison σ) : Prop :=
  ∃ path : KeyPath, path.IsSafe ∧
    Plan.Reads ⟨tableAlias ++ "." ++ path.column, path.key⟩ c

/-- A condition whose comparisons are safe. -/
def Condition.IsSafe (tableAlias : String) (c : Condition σ) : Prop :=
  ∀ comparison ∈ c.comparisons, comparison.IsSafe tableAlias

/-! ### Tokens -/

namespace Sql

/-- The tokens of the text at a key of a column. -/
def extractTokens (column key : String) : List Token :=
  scan column.toList ++ [.mark ' ', .mark '#', .mark '>', .mark '>', .mark ' ',
    .literal ("\x7b" ++ key ++ "\x7d")]

/-- A word between blanks. -/
def spacedWord (w : String) : List Token := [.mark ' ', .word w, .mark ' ']

end Sql

/-- The tokens of a pattern around the tokens of an operand; an empty text is left out. -/
def Test.patternTokens (before after : String) (operand : List Token) : List Token :=
  let front : List Token := if before.isEmpty then [] else [.literal before, .mark ',', .mark ' ']
  let back : List Token := if after.isEmpty then [] else [.mark ',', .mark ' ', .literal after]
  if before.isEmpty && after.isEmpty then operand
  else [.word "CONCAT", .mark '('] ++ front ++ operand ++ back ++ [.mark ')']

/-- The tokens of a test. -/
def Test.tokens (stored operand : List Token) : Test → List Token
  | equal => stored ++ [.mark ' ', .mark '=', .mark ' '] ++ operand
  | like before after => stored ++ spacedWord "LIKE" ++ patternTokens before after operand ++
      spacedWord "ESCAPE" ++ [.literal "\\"]

namespace Comparison

/-- The tokens of the stored text. -/
def storedTokens (c : Comparison σ) : List Token :=
  let e := extractTokens c.column c.key
  if c.foldsCase then [.word "LOWER", .mark '('] ++ e ++ [.mark ')'] else e

/-- The tokens of a comparison, given the token for a slot. -/
def tokens (slot : σ → Token) (c : Comparison σ) : List Token :=
  c.test.tokens c.storedTokens (slot c.slot :: if c.castsSlot then [.cast "TEXT"] else [])

end Comparison

/-- The tokens of a condition, given the token for a slot. -/
def Condition.tokens (slot : σ → Token) : Condition σ → List Token
  | single c => c.tokens slot
  | anyOf cs =>
    [.mark '('] ++ (spacedWord "OR").intercalate (cs.map (·.tokens slot)) ++ [.mark ')']

theorem Condition.tokens_anyOf {slot : σ → Token} (cs : List (Comparison σ)) :
    (anyOf cs).tokens slot =
      .mark '(' :: ((spacedWord "OR").intercalate (cs.map (·.tokens slot)) ++ [.mark ')']) := rfl

/-- The stored side of a test stands in front of the rest. -/
theorem Test.tokens_eq_append {stored operand : List Token} (test : Test) :
    test.tokens stored operand = stored ++ test.tokens [] operand := by
  cases test <;> simp [tokens]

/-- Filling a condition and then taking its tokens is taking them with the content. -/
theorem Condition.tokens_map {τ : Type} (f : σ → τ) (slot : τ → Token) (c : Condition σ) :
    (c.map f).tokens slot = c.tokens (slot ∘ f) := by
  cases c with
  | single c => rfl
  | anyOf cs =>
    simp only [tokens, map, List.map_map]
    rfl

/-- The tokens of a condition depend on what stands for its slots alone. -/
theorem Condition.tokens_congr {slot slot' : σ → Token} {c : Condition σ}
    (h : ∀ x ∈ c.slots, slot x = slot' x) : c.tokens slot = c.tokens slot' := by
  have hcomparison : ∀ comparison ∈ c.comparisons,
      comparison.tokens slot = comparison.tokens slot' := fun comparison hmem => by
    rw [Comparison.tokens, Comparison.tokens, h _ (List.mem_map_of_mem hmem)]
  cases c with
  | single c => exact hcomparison c List.mem_cons_self
  | anyOf cs =>
    have hparts : cs.map (·.tokens slot) = cs.map (·.tokens slot') :=
      List.map_congr_left hcomparison
    rw [tokens_anyOf, tokens_anyOf, hparts]

/-! ### The tokens write the text -/

theorem Sql.written_extractTokens {column key : String} (h : '\'' ∉ key.toList) :
    written (extractTokens column key) = (extract column key).toList := by
  have hcontent : quoteBody ('\x7b' :: (key.toList ++ ['\x7d'])) =
      '\x7b' :: (key.toList ++ ['\x7d']) := quoteBody_eq_self (by simpa using h)
  simp [extractTokens, extract, written_scan, hcontent]

theorem Test.written_tokens {stored operand : List Token} {storedText operandText : String}
    {test : Test} (htest : test ∈ known) (hstored : written stored = storedText.toList)
    (hoperand : written operand = operandText.toList) :
    written (test.tokens stored operand) = (test.sql storedText operandText).toList := by
  simp only [known, List.mem_cons, List.not_mem_nil, or_false] at htest
  rcases htest with rfl | rfl | rfl | rfl | rfl <;>
    simp [tokens, patternTokens, spacedWord, sql, pattern, quoteBody, hstored, hoperand,
      Sql.concat, Sql.literal]

section Written

variable {tableAlias : String} {slot : σ → Token} {write : σ → String}

theorem Comparison.written_tokens {c : Comparison σ} (hc : c.IsSafe tableAlias)
    (hslot : ∀ x, (slot x).text = (write x).toList) :
    written (c.tokens slot) = (c.sql write).toList := by
  obtain ⟨path, hpath, hreads⟩ := hc
  -- the keys are written as they are, since no quote in them has to be doubled
  have hkey : '\'' ∉ c.key.toList := hreads.key ▸ hpath.quote_notMem_key
  have hextract : written (extractTokens c.column c.key) = (extract c.column c.key).toList :=
    written_extractTokens hkey
  refine Test.written_tokens hreads.test ?_ ?_
  · unfold storedTokens stored
    split
    · simp [hextract, Sql.lower]
    · exact hextract
  · split
    · simp [hslot, Sql.asText]
    · simp [hslot]

/-- The tokens of a condition write its text. -/
theorem Condition.written_tokens {c : Condition σ} (hc : c.IsSafe tableAlias)
    (hslot : ∀ x, (slot x).text = (write x).toList) :
    written (c.tokens slot) = (c.sql write).toList := by
  cases c with
  | single c => exact Comparison.written_tokens (hc c List.mem_cons_self) hslot
  | anyOf cs =>
    have hparts : (cs.map (·.tokens slot)).map written =
        (cs.map (·.sql write)).map String.toList := by
      rw [List.map_map, List.map_map]
      exact List.map_congr_left fun c h => Comparison.written_tokens (hc c h) hslot
    simp only [tokens, spacedWord, written_append, sql, String.toList_append]
    rw [written_intercalate, hparts, String.toList_intercalate]
    simp

end Written

/-! ### The tokens keep their bounds -/

theorem Sql.isProper_word {s : String} (h : isIdentifier s) : (Token.word s).isProper := by
  obtain ⟨c, cs, hs, -, hall⟩ := exists_cons_of_isIdentifier h
  simpa [Token.isProper, hs] using hall

/-- A column of a table is read as three tokens. -/
theorem Sql.scan_column {tableAlias column : String} (ha : isIdentifier tableAlias)
    (hc : isIdentifier column) : scan (tableAlias ++ "." ++ column).toList =
      [.word tableAlias, .mark '.', .word column] := by
  have hcolumn : Spaced [.word column] := .cons (isProper_word hc) (by decide) spaced_nil
  have hspaced : Spaced [.word tableAlias, .mark '.', .word column] :=
    .cons (isProper_word ha) (.mark_cons (by decide)) (.mark_cons (by decide) hcolumn)
  rw [← scan_written hspaced]
  simp

/-- The stored text of a safe comparison, token by token. -/
theorem Comparison.storedTokens_eq {tableAlias : String} {c : Comparison σ}
    (ha : isIdentifier tableAlias) (hc : c.IsSafe tableAlias) :
    ∃ column, c.column = tableAlias ++ "." ++ column ∧ c.storedTokens =
      let e := [.word tableAlias, .mark '.', .word column, .mark ' ', .mark '#', .mark '>',
        .mark '>', .mark ' ', .literal ("\x7b" ++ c.key ++ "\x7d")]
      if c.foldsCase then .word "LOWER" :: .mark '(' :: (e ++ [.mark ')']) else e := by
  obtain ⟨path, hpath, hreads⟩ := hc
  have hscan : scan c.column.toList = [.word tableAlias, .mark '.', .word path.column] := by
    rw [hreads.column, scan_column ha hpath.column]
  refine ⟨path.column, hreads.column, ?_⟩
  rw [storedTokens, extractTokens, hscan]
  rfl

theorem Sql.spaced_extractTokens {tableAlias column key : String} (ha : isIdentifier tableAlias)
    (hc : isIdentifier column) : Spaced (extractTokens (tableAlias ++ "." ++ column) key) := by
  have hkey : Spaced [.mark ' ', .mark '#', .mark '>', .mark '>', .mark ' ',
      .literal ("\x7b" ++ key ++ "\x7d")] :=
    .mark_cons (by decide) <| .mark_cons (by decide) <| .mark_cons (by decide) <|
      .mark_cons (by decide) <| .mark_cons (by decide) <| .cons rfl (by decide) spaced_nil
  have hcolumn : Spaced (.word column :: _) :=
    .cons (isProper_word hc) (.mark_cons (by decide)) hkey
  rw [extractTokens, scan_column ha hc]
  exact .cons (isProper_word ha) (.mark_cons (by decide)) (.mark_cons (by decide) hcolumn)

theorem Sql.Spaced.between {w : String} {ts us : List Token} (hw : (Token.word w).isProper)
    (ht : Spaced ts) (hu : Spaced us) : Spaced (ts ++ (spacedWord w ++ us)) := by
  have hword : Spaced (.word w :: .mark ' ' :: us) :=
    .cons hw (.mark_cons (by decide)) (.mark_cons (by decide) hu)
  exact ht.append (.mark_cons (by decide) hword) (.mark_cons (by decide))

theorem Test.spaced_patternTokens (before after : String) {operand : List Token}
    (hoperand : Spaced operand) : Spaced (patternTokens before after operand) := by
  unfold patternTokens
  lift_lets
  intro front back
  split
  · exact hoperand
  · -- from the closing parenthesis to the front
    have hend : Spaced (back ++ [.mark ')']) ∧ OpensNeutral (back ++ [.mark ')']) := by
      unfold back
      split
      · decide
      · exact ⟨.mark_cons (by decide) (.mark_cons (by decide) (.cons rfl (by decide) (by decide))),
          .mark_cons (by decide)⟩
    have hmiddle := hoperand.append hend.1 hend.2
    have hfront : Spaced (front ++ (operand ++ (back ++ [.mark ')']))) := by
      unfold front
      split
      · exact hmiddle
      · exact .cons rfl (.mark_cons (by decide)) (.mark_cons (by decide)
          (.mark_cons (by decide) hmiddle))
    have hconcat : Spaced (.word "CONCAT" :: .mark '(' :: _) :=
      .cons (by decide) (.mark_cons (by decide)) (.mark_cons (by decide) hfront)
    simpa only [List.append_assoc, List.cons_append, List.nil_append] using hconcat

/-- The tokens of a test keep their bounds when those of its sides do. -/
theorem Test.spaced_tokens {stored operand : List Token} (test : Test) (hstored : Spaced stored)
    (hoperand : Spaced operand) : Spaced (test.tokens stored operand) := by
  cases test with
  | equal =>
    have hequal : Spaced ([.mark ' ', .mark '=', .mark ' '] ++ operand) :=
      .mark_cons (by decide) (.mark_cons (by decide) (.mark_cons (by decide) hoperand))
    simpa only [tokens, List.append_assoc] using
      hstored.append hequal (.mark_cons (by decide))
  | like before after =>
    have hpattern := spaced_patternTokens before after hoperand
    have hescape : Spaced [.literal "\\"] := by decide
    simpa only [tokens, List.append_assoc] using
      hstored.between (by decide) (hpattern.between (by decide) hescape)

section Spaced

variable {tableAlias : String} {slot : σ → Token}

theorem Comparison.spaced_tokens {c : Comparison σ} (ha : isIdentifier tableAlias)
    (hc : c.IsSafe tableAlias) (hproper : (slot c.slot).isProper) : Spaced (c.tokens slot) := by
  obtain ⟨path, hpath, hreads⟩ := hc
  have hextract : Spaced (extractTokens c.column c.key) :=
    hreads.column ▸ spaced_extractTokens ha hpath.column
  refine Test.spaced_tokens c.test ?_ ?_
  · unfold storedTokens
    split
    · have hclose : Spaced (extractTokens c.column c.key ++ [.mark ')']) :=
        hextract.append (by decide) (.mark_cons (by decide))
      exact .cons (by decide) (.mark_cons (by decide)) (.mark_cons (by decide) hclose)
    · exact hextract
  · split
    · exact .cons hproper (by decide) (by decide)
    · exact .cons hproper (by decide) (by decide)

/-- The tokens of a condition keep their bounds. -/
theorem Condition.spaced_tokens {c : Condition σ} (ha : isIdentifier tableAlias)
    (hc : c.IsSafe tableAlias) (hproper : ∀ x ∈ c.slots, (slot x).isProper) :
    Spaced (c.tokens slot) := by
  have hcomparison : ∀ comparison ∈ c.comparisons, Spaced (comparison.tokens slot) :=
    fun comparison h => Comparison.spaced_tokens ha (hc comparison h)
      (hproper _ (List.mem_map_of_mem h))
  cases c with
  | single c => exact hcomparison c List.mem_cons_self
  | anyOf cs =>
    have hgroup : Spaced ((spacedWord "OR").intercalate (cs.map (·.tokens slot))) := by
      refine Spaced.intercalate (by decide) fun part hpart => ?_
      obtain ⟨c, hmem, rfl⟩ := List.mem_map.1 hpart
      exact hcomparison c hmem
    have hclosed : Spaced (_ ++ [.mark ')']) := hgroup.append (by decide) (.mark_cons (by decide))
    exact .mark_cons (by decide) hclosed

end Spaced

/-! ### What the tokens are -/

/-- Tokens that may stand beside the operands of a condition. -/
inductive Sql.Token.IsFixed : Token → Prop where
  | word (w : String) : IsFixed (.word w)
  | mark (c : Char) (h : c ∈ [' ', '.', ',', '(', ')', '=', '#', '>']) : IsFixed (.mark c)
  | text : IsFixed (.cast "TEXT")
  | wildcard (content : String) (h : content ∈ ["%", "% ", "\\"]) : IsFixed (.literal content)
  | path (path : KeyPath) (h : path.IsSafe) : IsFixed (.literal ("\x7b" ++ path.key ++ "\x7d"))

open Sql.Token (IsFixed)

theorem Sql.isFixed_spacedWord (w : String) : ∀ t ∈ spacedWord w, t.IsFixed := by
  simp only [spacedWord, List.forall_mem_cons]
  exact ⟨.mark _ (by decide), .word w, .mark _ (by decide), by simp⟩

theorem Sql.isFixed_extractTokens {tableAlias : String} {path : KeyPath}
    (ha : isIdentifier tableAlias) (hpath : path.IsSafe) :
    ∀ t ∈ extractTokens (tableAlias ++ "." ++ path.column) path.key, t.IsFixed := by
  rw [extractTokens, scan_column ha hpath.column]
  simp only [List.forall_mem_append, List.forall_mem_cons]
  exact ⟨⟨.word _, .mark _ (by decide), .word _, by simp⟩, .mark _ (by decide),
    .mark _ (by decide), .mark _ (by decide), .mark _ (by decide), .mark _ (by decide),
    .path path hpath, by simp⟩

/-- A known test has nothing but fixed tokens beside its sides. -/
theorem Test.forall_mem_tokens {stored operand : List Token} {test : Test} {P : Token → Prop}
    (htest : test ∈ known) (hfixed : ∀ t, t.IsFixed → P t) (hstored : ∀ t ∈ stored, P t)
    (hoperand : ∀ t ∈ operand, P t) : ∀ t ∈ test.tokens stored operand, P t := by
  have hword (w : String) : P (.word w) := hfixed _ (.word w)
  have hmark : ∀ c ∈ [' ', '.', ',', '(', ')', '=', '#', '>'], P (.mark c) := fun c hc =>
    hfixed _ (.mark c hc)
  have hliteral : ∀ content ∈ ["%", "% ", "\\"], P (.literal content) := fun content hcontent =>
    hfixed _ (.wildcard content hcontent)
  simp only [known, List.mem_cons, List.not_mem_nil, or_false] at htest
  rcases htest with rfl | rfl | rfl | rfl | rfl <;>
    simpa [tokens, patternTokens, spacedWord, or_imp, forall_and, hword, hmark, hliteral]
      using And.intro hstored hoperand

theorem Test.mem_tokens_of_mem_operand {stored operand : List Token} {t : Token} (test : Test)
    (h : t ∈ operand) : t ∈ test.tokens stored operand := by
  cases test with
  | equal => simp [tokens, h]
  | like before after =>
    have hpattern : t ∈ patternTokens before after operand := by
      unfold patternTokens
      lift_lets
      intro front back
      split
      · exact h
      · simp [h]
    simp [tokens, hpattern]

/-- A map that leaves fixed tokens as they are is put on the sides of a known test. -/
theorem Test.map_tokens {stored operand : List Token} {test : Test} {g : Token → Token}
    (htest : test ∈ known) (hg : ∀ t, t.IsFixed → g t = t) :
    (test.tokens stored operand).map g = test.tokens (stored.map g) (operand.map g) := by
  have hword (w : String) : g (.word w) = .word w := hg _ (.word w)
  have hmark : ∀ c ∈ [' ', '.', ',', '(', ')', '=', '#', '>'], g (.mark c) = .mark c := fun c hc =>
    hg _ (.mark c hc)
  have hliteral : ∀ content ∈ ["%", "% ", "\\"], g (.literal content) = .literal content :=
    fun content hcontent => hg _ (.wildcard content hcontent)
  simp only [known, List.mem_cons, List.not_mem_nil, or_false] at htest
  rcases htest with rfl | rfl | rfl | rfl | rfl <;>
    simp [tokens, patternTokens, spacedWord, hword, hmark, hliteral]

theorem Sql.map_of_isFixed {ts : List Token} {g : Token → Token} (hg : ∀ t, t.IsFixed → g t = t)
    (h : ∀ t ∈ ts, t.IsFixed) : ts.map g = ts :=
  (List.map_congr_left fun t ht => hg t (h t ht)).trans (List.map_id ts)

section Members

variable {tableAlias : String} {slot : σ → Token}

theorem Comparison.map_tokens {c : Comparison σ} {g : Token → Token} (ha : isIdentifier tableAlias)
    (hc : c.IsSafe tableAlias) (hg : ∀ t, t.IsFixed → g t = t) :
    (c.tokens slot).map g = c.tokens (g ∘ slot) := by
  obtain ⟨path, hpath, hreads⟩ := hc
  have hextract : (extractTokens c.column c.key).map g = extractTokens c.column c.key := by
    rw [hreads.column, hreads.key]
    exact map_of_isFixed hg (isFixed_extractTokens ha hpath)
  have hlower := hg _ (.word "LOWER")
  have hopen : g (.mark '(') = .mark '(' := hg _ (.mark _ (by decide))
  have hclose : g (.mark ')') = .mark ')' := hg _ (.mark _ (by decide))
  have htext := hg _ .text
  rw [tokens, Test.map_tokens hreads.test hg, tokens]
  congr 1
  · unfold storedTokens
    split
    · simp [hextract, hlower, hopen, hclose]
    · exact hextract
  · split
    · simp [htext]
    · rfl

theorem Comparison.forall_mem_tokens {c : Comparison σ} {P : Token → Prop}
    (ha : isIdentifier tableAlias) (hc : c.IsSafe tableAlias) (hfixed : ∀ t, t.IsFixed → P t)
    (hslot : P (slot c.slot)) : ∀ t ∈ c.tokens slot, P t := by
  obtain ⟨path, hpath, hreads⟩ := hc
  have hextract : ∀ t ∈ extractTokens c.column c.key, P t := fun t ht =>
    hfixed t (isFixed_extractTokens ha hpath t (by rwa [hreads.column, hreads.key] at ht))
  refine Test.forall_mem_tokens hreads.test hfixed ?_ ?_
  · have hlower := hfixed _ (.word "LOWER")
    have hopen : P (.mark '(') := hfixed _ (.mark _ (by decide))
    have hclose : P (.mark ')') := hfixed _ (.mark _ (by decide))
    unfold storedTokens
    split
    · simpa [or_imp, forall_and, hlower, hopen, hclose] using hextract
    · exact hextract
  · split
    · simpa [hslot] using hfixed _ .text
    · simpa using hslot

/-- A condition has nothing but fixed tokens beside its slots. -/
theorem Condition.forall_mem_tokens {c : Condition σ} {P : Token → Prop}
    (ha : isIdentifier tableAlias) (hc : c.IsSafe tableAlias) (hfixed : ∀ t, t.IsFixed → P t)
    (hslots : ∀ x ∈ c.slots, P (slot x)) : ∀ t ∈ c.tokens slot, P t := by
  have hcomparison : ∀ comparison ∈ c.comparisons, ∀ t ∈ comparison.tokens slot, P t :=
    fun comparison h => Comparison.forall_mem_tokens ha (hc comparison h) hfixed
      (hslots _ (List.mem_map_of_mem h))
  cases c with
  | single c => exact hcomparison c List.mem_cons_self
  | anyOf cs =>
    intro t ht
    -- a parenthesis, a part of the word between comparisons, or a token of a comparison
    simp only [tokens, List.mem_append, List.mem_singleton, or_assoc] at ht
    rcases ht with rfl | ht | rfl
    · exact hfixed _ (.mark _ (by decide))
    · obtain hsep | ⟨part, hpart, ht⟩ := Text.mem_of_mem_intercalate ht
      · exact hfixed t (isFixed_spacedWord "OR" t hsep)
      · obtain ⟨c, hmem, rfl⟩ := List.mem_map.1 hpart
        exact hcomparison c hmem t ht
    · exact hfixed _ (.mark _ (by decide))

/-- What leaves fixed tokens as they are changes nothing but the slots. -/
theorem Condition.map_tokens {c : Condition σ} {g : Token → Token} (ha : isIdentifier tableAlias)
    (hc : c.IsSafe tableAlias) (hg : ∀ t, t.IsFixed → g t = t) :
    (c.tokens slot).map g = c.tokens (g ∘ slot) := by
  have hcomparison : ∀ comparison ∈ c.comparisons,
      (comparison.tokens slot).map g = comparison.tokens (g ∘ slot) :=
    fun comparison h => Comparison.map_tokens ha (hc comparison h) hg
  cases c with
  | single c => exact hcomparison c List.mem_cons_self
  | anyOf cs =>
    have hopen := hg _ (.mark '(' (by decide))
    have hclose := hg _ (.mark ')' (by decide))
    have hor : (spacedWord "OR").map g = spacedWord "OR" := map_of_isFixed hg (isFixed_spacedWord _)
    have hparts : (cs.map (·.tokens slot)).map (List.map g) = cs.map (·.tokens (g ∘ slot)) := by
      rw [List.map_map]
      exact List.map_congr_left hcomparison
    simp only [tokens, List.map_append, List.map_cons, List.map_nil, hopen, hclose]
    rw [Text.map_intercalate, hor, hparts]

/-- Every slot of a condition occurs among its tokens. -/
theorem Condition.mem_tokens_of_mem_slots {c : Condition σ} {x : σ} (h : x ∈ c.slots) :
    slot x ∈ c.tokens slot := by
  obtain ⟨comparison, hmem, rfl⟩ := List.mem_map.1 h
  have hslot : slot comparison.slot ∈ comparison.tokens slot :=
    comparison.test.mem_tokens_of_mem_operand List.mem_cons_self
  cases c with
  | single c =>
    obtain rfl := List.mem_singleton.1 hmem
    exact hslot
  | anyOf cs =>
    have hpart : slot comparison.slot ∈ (spacedWord "OR").intercalate (cs.map (·.tokens slot)) :=
      Text.mem_intercalate_of_mem (List.mem_map_of_mem hmem) hslot
    exact List.mem_append_left _ (List.mem_append_right _ hpart)

end Members

end PropertyFilter
