import Mathlib.Algebra.Ring.Int.Defs
import PropertyFilter.Proofs.Condition.Tokens

/-!
# Nesting

How deep the tokens of a text stand in parentheses, and how deep the words between blanks that join
its parts. A condition has its parentheses in pairs, and a word joins its comparisons only inside
of them.

## Main definitions

* `Sql.depth`, `Sql.Balanced` — parentheses that are open, and parentheses in pairs
* `Sql.joinDepths` — the depths at which a word stands between blanks
* `Sql.Solid` — tokens that no such word reaches into

## Main results

* `joinDepths_intercalate` — the words in lists that are joined by a word
* `Condition.balanced_tokens`, `Condition.solid_tokens` — the tokens of a condition
* `Condition.joinDepths_tokens` — the words that join its comparisons
-/

namespace PropertyFilter

namespace Sql

/-! ### Parentheses -/

/-- How many parentheses a token opens. -/
def Token.nesting : Token → Int
  | mark '(' => 1
  | mark ')' => -1
  | _ => 0

/-- How many parentheses are open behind tokens. -/
def depth (ts : List Token) : Int := (ts.map Token.nesting).sum

@[simp] theorem depth_nil : depth [] = 0 := rfl

@[simp] theorem depth_cons (t : Token) (ts : List Token) :
    depth (t :: ts) = t.nesting + depth ts := by
  simp [depth]

@[simp] theorem depth_append (ts us : List Token) : depth (ts ++ us) = depth ts + depth us := by
  simp [depth]

/-- Tokens whose parentheses come in pairs: none is closed that is not open, and none stays
open. -/
structure Balanced (ts : List Token) : Prop where
  closed : depth ts = 0
  nonneg : ∀ us, us <+: ts → 0 ≤ depth us

/-- Tokens that are no parentheses leave the depth as it is. -/
theorem depth_eq_zero {ts : List Token} (h : ∀ t ∈ ts, t.nesting = 0) : depth ts = 0 := by
  induction ts with
  | nil => rfl
  | cons t ts ih =>
    obtain ⟨ht, hts⟩ := List.forall_mem_cons.1 h
    rw [depth_cons, ht, ih hts, Int.add_zero]

theorem balanced_of_forall {ts : List Token} (h : ∀ t ∈ ts, t.nesting = 0) : Balanced ts where
  closed := depth_eq_zero h
  nonneg _ hus := Int.le_of_eq (depth_eq_zero fun t ht => h t (hus.subset ht)).symm

namespace Balanced

variable {ts us : List Token}

theorem append (ht : Balanced ts) (hu : Balanced us) : Balanced (ts ++ us) where
  closed := by rw [depth_append, ht.closed, hu.closed, Int.add_zero]
  nonneg := by
    intro vs hvs
    -- the prefix ends in the first list, or takes all of it
    rcases List.prefix_or_prefix_of_prefix hvs (List.prefix_append ts us) with hleft | ⟨ws, rfl⟩
    · exact ht.nonneg vs hleft
    · rw [depth_append, ht.closed, Int.zero_add]
      exact hu.nonneg ws ((List.prefix_append_right_inj ts).1 hvs)

/-- Tokens between two parentheses. -/
theorem enclose (h : Balanced ts) : Balanced (.mark '(' :: (ts ++ [.mark ')'])) where
  closed := by simp [Token.nesting, h.closed]
  nonneg := by
    intro us hus
    rcases List.prefix_cons_iff.1 hus with rfl | ⟨vs, rfl, hvs⟩
    · exact Int.le_refl 0
    · rw [depth_cons]
      rcases List.prefix_concat_iff.1 hvs with rfl | hvs
      · simp [Token.nesting, h.closed]
      · exact Int.add_nonneg (by decide) (h.nonneg vs hvs)

theorem intercalate {sep : List Token} {parts : List (List Token)} (hsep : Balanced sep)
    (h : ∀ part ∈ parts, Balanced part) : Balanced (sep.intercalate parts) := by
  cases parts with
  | nil => exact balanced_of_forall (by simp)
  | cons part parts =>
    exact Text.intercalate_induction (List.cons_ne_nil part parts)
      (fun hxs hys => hxs.append (hsep.append hys)) h

end Balanced

theorem balanced_spacedWord (w : String) : Balanced (spacedWord w) :=
  balanced_of_forall (by simp [spacedWord, Token.nesting])

/-! ### Words between blanks -/

/-- The depths at which a word stands between blanks, for tokens that begin at depth `d`. -/
def joinDepths (w : String) (d : Int) : List Token → List Int
  | [] => []
  | t :: ts =>
    let later := joinDepths w (d + t.nesting) ts
    if spacedWord w <+: t :: ts then d :: later else later

/-- A token that is neither a word nor a blank. -/
def Token.isSolid : Token → Bool
  | word _ => false
  | mark c => c != ' '
  | _ => true

/-- Tokens that no word between blanks reaches into from outside. -/
structure Solid (ts : List Token) : Prop where
  front : ∀ w, ¬ [.word w, .mark ' '] <+: ts
  back : ∃ t, ts.getLast? = some t ∧ t.isSolid

variable {w v : String} {d : Int} {t : Token} {ts us : List Token}

@[simp] theorem joinDepths_nil : joinDepths w d [] = [] := rfl

theorem joinDepths_cons_of_ne (h : t ≠ .mark ' ') :
    joinDepths w d (t :: ts) = joinDepths w (d + t.nesting) ts := by
  rw [joinDepths, if_neg]
  rw [spacedWord, List.cons_prefix_cons]
  exact fun hstarts => h hstarts.1.symm

/-- What is behind solid tokens does not matter to the words in them. -/
theorem spacedWord_prefix_append_iff (h : ∃ u, (t :: ts).getLast? = some u ∧ u.isSolid) :
    spacedWord w <+: t :: ts ++ us ↔ spacedWord w <+: t :: ts := by
  refine ⟨fun hstarts => ?_, fun hstarts => hstarts.trans (List.prefix_append _ _)⟩
  obtain ⟨u, hlast, hu⟩ := h
  match ts with
  | [] =>
    -- the word would begin with the last token
    obtain rfl : t = u := by simpa using hlast
    obtain rfl : Token.mark ' ' = t := (List.cons_prefix_cons.1 hstarts).1
    exact absurd hu (by decide)
  | [t'] =>
    -- the last token would be the word
    obtain rfl : t' = u := by simpa using hlast
    have htail := (List.cons_prefix_cons.1 hstarts).2
    obtain rfl : Token.word w = t' := (List.cons_prefix_cons.1 htail).1
    exact absurd hu (by simp [Token.isSolid])
  | t' :: t'' :: ts =>
    simp only [spacedWord, List.cons_append, List.cons_prefix_cons] at hstarts ⊢
    exact ⟨hstarts.1, hstarts.2.1, hstarts.2.2.1, List.nil_prefix⟩

theorem joinDepths_append (h : ∃ t, ts.getLast? = some t ∧ t.isSolid) :
    joinDepths w d (ts ++ us) = joinDepths w d ts ++ joinDepths w (d + depth ts) us := by
  induction ts generalizing d with
  | nil => simp at h
  | cons t ts ih =>
    have hrest : joinDepths w (d + t.nesting) (ts ++ us) =
        joinDepths w (d + t.nesting) ts ++ joinDepths w (d + depth (t :: ts)) us := by
      rw [depth_cons, ← Int.add_assoc]
      cases ts with
      | nil => simp
      | cons t' ts => exact ih (by simpa using h)
    -- whether the word stands at the first token does not depend on what is appended
    have hstarts : spacedWord w <+: t :: (ts ++ us) ↔ spacedWord w <+: t :: ts :=
      spacedWord_prefix_append_iff h
    rw [List.cons_append, joinDepths, joinDepths, hrest]
    simp only [hstarts]
    split <;> rfl

theorem joinDepths_spacedWord_append (h : ¬ [.word w, .mark ' '] <+: us) :
    joinDepths w d (spacedWord v ++ us) =
      (if v = w then [d] else []) ++ joinDepths w d us := by
  -- the blank behind the word begins no other one
  have hblank : ¬ spacedWord w <+: .mark ' ' :: us := by
    rw [spacedWord, List.cons_prefix_cons]
    exact fun hstarts => h hstarts.2
  have hword : joinDepths w d (.word v :: .mark ' ' :: us) = joinDepths w d us := by
    rw [joinDepths_cons_of_ne (by simp), joinDepths, if_neg hblank]
    simp [Token.nesting]
  have hfirst : spacedWord w <+: .mark ' ' :: .word v :: .mark ' ' :: us ↔ v = w := by
    simp [spacedWord, eq_comm]
  change joinDepths w d (.mark ' ' :: .word v :: .mark ' ' :: us) = _
  rw [joinDepths, show d + (Token.mark ' ').nesting = d from Int.add_zero d, hword]
  simp only [hfirst]
  split <;> rfl

/-- Words in tokens between two parentheses. -/
theorem joinDepths_enclose (h : Solid ts) :
    joinDepths w d (.mark '(' :: (ts ++ [.mark ')'])) = joinDepths w (d + 1) ts := by
  rw [joinDepths_cons_of_ne (by decide), joinDepths_append h.back,
    joinDepths_cons_of_ne (by decide), joinDepths_nil, List.append_nil]
  rfl

namespace Solid

/-- What is behind solid tokens does not matter to their front. -/
theorem front_append (h : Solid ts) (w : String) : ¬ [.word w, .mark ' '] <+: ts ++ us := by
  obtain ⟨u, hlast, hu⟩ := h.back
  match ts with
  | [] => simp at hlast
  | [t] =>
    obtain rfl : t = u := by simpa using hlast
    intro hstarts
    obtain rfl : Token.word w = t := (List.cons_prefix_cons.1 hstarts).1
    exact absurd hu (by simp [Token.isSolid])
  | t :: t' :: ts =>
    have hfront := h.front w
    simp only [List.cons_append, List.cons_prefix_cons] at hfront ⊢
    exact fun hstarts => hfront ⟨hstarts.1, hstarts.2.1, List.nil_prefix⟩

theorem append (ht : Solid ts) (hu : Solid us) : Solid (ts ++ (spacedWord v ++ us)) where
  front w := ht.front_append w
  back := by
    obtain ⟨u, hlast, hsolid⟩ := hu.back
    exact ⟨u, by simp [List.getLast?_append, hlast], hsolid⟩

theorem intercalate {parts : List (List Token)} (hne : parts ≠ [])
    (h : ∀ part ∈ parts, Solid part) : Solid ((spacedWord v).intercalate parts) :=
  Text.intercalate_induction hne append h

end Solid

/-- The words in lists that are joined by a word: those in the lists, and perhaps the one between
them. -/
theorem joinDepths_intercalate {parts : List (List Token)} (hsolid : ∀ part ∈ parts, Solid part)
    (hclosed : ∀ part ∈ parts, depth part = 0) :
    joinDepths w d ((spacedWord v).intercalate parts) =
      (if v = w then [d] else []).intercalate (parts.map (joinDepths w d)) := by
  induction parts with
  | nil => rfl
  | cons part parts ih =>
    obtain ⟨hpart, hparts⟩ := List.forall_mem_cons.1 hsolid
    obtain ⟨hzero, hzeros⟩ := List.forall_mem_cons.1 hclosed
    cases parts with
    | nil => simp
    | cons next parts =>
      have hrest : Solid ((spacedWord v).intercalate (next :: parts)) :=
        .intercalate (List.cons_ne_nil next parts) hparts
      rw [List.intercalate_cons_cons, List.append_assoc, joinDepths_append hpart.back, hzero,
        Int.add_zero, joinDepths_spacedWord_append (hrest.front w), ih hparts hzeros]
      simp only [List.map_cons, List.intercalate_cons_cons, List.append_assoc]

end Sql

/-! ### Comparisons -/

/-- Whether a token stands for a parameter. -/
def Sql.Token.isParameter : Token → Bool
  | slot _ => true
  | position _ => true
  | _ => false

theorem Sql.Token.nesting_of_isParameter {t : Token} (h : t.isParameter) : t.nesting = 0 := by
  cases t <;> first | rfl | simp [isParameter] at h

theorem Sql.Token.isSolid_of_isParameter {t : Token} (h : t.isParameter) : t.isSolid := by
  cases t <;> first | rfl | simp [isParameter] at h

open Sql

section Comparisons

variable {σ : Type} {tableAlias : String} {slot : σ → Token} {c : Comparison σ}
  {stored operand : List Token} {w : String} {d : Int}

theorem Test.balanced_patternTokens (before after : String)
    (hoperand : ∀ t ∈ operand, t.nesting = 0) : Balanced (patternTokens before after operand) := by
  unfold patternTokens
  lift_lets
  intro front back
  split
  · exact balanced_of_forall hoperand
  · -- there are no parentheses between those of the function
    have hinner : Balanced (front ++ operand ++ back) := by
      refine balanced_of_forall ?_
      simp only [List.forall_mem_append]
      refine ⟨⟨?_, hoperand⟩, ?_⟩
      · unfold front
        split <;> simp [Token.nesting]
      · unfold back
        split <;> simp [Token.nesting]
    have hconcat : Balanced [.word "CONCAT"] := balanced_of_forall (by simp [Token.nesting])
    simpa using hconcat.append hinner.enclose

/-- The tokens of a test have their parentheses in pairs when those of its sides do. -/
theorem Test.balanced_tokens (test : Test) (hstored : Balanced stored)
    (hoperand : ∀ t ∈ operand, t.nesting = 0) : Balanced (test.tokens stored operand) := by
  cases test with
  | equal =>
    have hequal : Balanced [.mark ' ', .mark '=', .mark ' '] :=
      balanced_of_forall (by simp [Token.nesting])
    exact (hstored.append hequal).append (balanced_of_forall hoperand)
  | like before after =>
    have hescape : Balanced [.literal "\\"] := balanced_of_forall (by simp [Token.nesting])
    exact (((hstored.append (balanced_spacedWord _)).append
      (balanced_patternTokens before after hoperand)).append (balanced_spacedWord _)).append hescape

theorem Test.back_tokens (test : Test) (hoperand : ∃ t, operand.getLast? = some t ∧ t.isSolid) :
    ∃ t, (test.tokens [] operand).getLast? = some t ∧ t.isSolid := by
  obtain ⟨t, hlast, ht⟩ := hoperand
  cases test with
  | equal => exact ⟨t, by simp [tokens, List.getLast?_cons, hlast], ht⟩
  | like before after => exact ⟨.literal "\\", by simp [tokens], rfl⟩

/-- Behind its stored side, a test has no words between blanks but its own. -/
theorem Test.joinDepths_tokens {test : Test} (htest : test ∈ known) (t : Token) (isCast : Bool)
    (hlike : w ≠ "LIKE") (hescape : w ≠ "ESCAPE") :
    joinDepths w d (test.tokens [] (t :: if isCast then [.cast "TEXT"] else [])) = [] := by
  simp only [known, List.mem_cons, List.not_mem_nil, or_false] at htest
  -- every known test is looked through token by token
  rcases htest with rfl | rfl | rfl | rfl | rfl <;> cases isCast <;>
    simp [tokens, patternTokens, joinDepths, spacedWord, hlike, hescape]

namespace Comparison

theorem balanced_storedTokens (ha : isIdentifier tableAlias) (hc : c.IsSafe tableAlias) :
    Balanced c.storedTokens := by
  obtain ⟨column, -, heq⟩ := storedTokens_eq ha hc
  have he : Balanced [.word tableAlias, .mark '.', .word column, .mark ' ', .mark '#', .mark '>',
      .mark '>', .mark ' ', .literal ("\x7b" ++ c.key ++ "\x7d")] :=
    balanced_of_forall (by simp [Token.nesting])
  have hlower : Balanced [.word "LOWER"] := balanced_of_forall (by simp [Token.nesting])
  rw [heq]
  split
  · exact hlower.append he.enclose
  · exact he

theorem solid_storedTokens (ha : isIdentifier tableAlias) (hc : c.IsSafe tableAlias) :
    Solid c.storedTokens := by
  obtain ⟨column, -, heq⟩ := storedTokens_eq ha hc
  rw [heq]
  split
  · exact ⟨by simp, .mark ')', by simp, rfl⟩
  · exact ⟨by simp, .literal _, rfl, rfl⟩

theorem joinDepths_storedTokens (ha : isIdentifier tableAlias) (hc : c.IsSafe tableAlias) :
    joinDepths w d c.storedTokens = [] := by
  obtain ⟨column, -, heq⟩ := storedTokens_eq ha hc
  rw [heq]
  split <;> simp [joinDepths, spacedWord]

/-- A comparison has its parentheses in pairs. -/
theorem balanced_tokens (ha : isIdentifier tableAlias) (hc : c.IsSafe tableAlias)
    (hslot : (slot c.slot).isParameter) : Balanced (c.tokens slot) := by
  refine c.test.balanced_tokens (balanced_storedTokens ha hc) ?_
  rw [List.forall_mem_cons]
  refine ⟨Token.nesting_of_isParameter hslot, ?_⟩
  split <;> simp [Token.nesting]

theorem solid_tokens (ha : isIdentifier tableAlias) (hc : c.IsSafe tableAlias)
    (hslot : (slot c.slot).isParameter) : Solid (c.tokens slot) := by
  have hstored := solid_storedTokens ha hc
  have hoperand : ∃ t, (slot c.slot :: if c.castsSlot then [.cast "TEXT"] else []).getLast? =
      some t ∧ t.isSolid := by
    split
    · exact ⟨.cast "TEXT", rfl, rfl⟩
    · exact ⟨slot c.slot, rfl, Token.isSolid_of_isParameter hslot⟩
  rw [tokens, Test.tokens_eq_append]
  refine ⟨fun w => hstored.front_append w, ?_⟩
  obtain ⟨t, hlast, ht⟩ := c.test.back_tokens hoperand
  exact ⟨t, by simp [List.getLast?_append, hlast], ht⟩

/-- A comparison has no words between blanks but those of its test. -/
theorem joinDepths_tokens (ha : isIdentifier tableAlias) (hc : c.IsSafe tableAlias)
    (hlike : w ≠ "LIKE") (hescape : w ≠ "ESCAPE") : joinDepths w d (c.tokens slot) = [] := by
  have hstored := joinDepths_storedTokens (w := w) (d := d) ha hc
  have hsolid := solid_storedTokens ha hc
  obtain ⟨path, -, hreads⟩ := hc
  rw [tokens, Test.tokens_eq_append, joinDepths_append hsolid.back, hstored,
    Test.joinDepths_tokens hreads.test _ _ hlike hescape]
  rfl

end Comparison

/-! ### Conditions -/

namespace Condition

/-- A condition has its parentheses in pairs. -/
theorem balanced_tokens {c : Condition σ} (ha : isIdentifier tableAlias) (hc : c.IsSafe tableAlias)
    (hslot : ∀ x, (slot x).isParameter) : Balanced (c.tokens slot) := by
  have hcomparison : ∀ comparison ∈ c.comparisons, Balanced (comparison.tokens slot) :=
    fun comparison h => Comparison.balanced_tokens ha (hc comparison h) (hslot _)
  cases c with
  | single c => exact hcomparison c List.mem_cons_self
  | anyOf cs =>
    exact (Balanced.intercalate (balanced_spacedWord _) (List.forall_mem_map.2 hcomparison)).enclose

theorem solid_tokens {c : Condition σ} (ha : isIdentifier tableAlias) (hc : c.IsSafe tableAlias)
    (hslot : ∀ x, (slot x).isParameter) : Solid (c.tokens slot) := by
  cases c with
  | single c => exact Comparison.solid_tokens ha (hc c List.mem_cons_self) (hslot _)
  | anyOf cs => exact ⟨by simp [tokens], .mark ')', List.getLast?_concat, rfl⟩

/-- A condition is joined by one word alone, and only between its parentheses. -/
theorem joinDepths_tokens {c : Condition σ} (ha : isIdentifier tableAlias)
    (hc : c.IsSafe tableAlias) (hslot : ∀ x, (slot x).isParameter) (hne : c.comparisons ≠ [])
    (hlike : w ≠ "LIKE") (hescape : w ≠ "ESCAPE") : joinDepths w d (c.tokens slot) =
      if w = "OR" then List.replicate (c.comparisons.length - 1) (d + 1) else [] := by
  have hcomparison : ∀ comparison ∈ c.comparisons, ∀ d,
      joinDepths w d (comparison.tokens slot) = [] := fun comparison h d =>
    Comparison.joinDepths_tokens ha (hc comparison h) hlike hescape
  cases c with
  | single c =>
    rw [tokens, hcomparison c List.mem_cons_self]
    split <;> rfl
  | anyOf cs =>
    have hsolid : ∀ part ∈ cs.map (·.tokens slot), Solid part := List.forall_mem_map.2 fun c h =>
      Comparison.solid_tokens ha (hc c h) (hslot _)
    have hclosed : ∀ part ∈ cs.map (·.tokens slot), depth part = 0 :=
      List.forall_mem_map.2 fun c h => (Comparison.balanced_tokens ha (hc c h) (hslot _)).closed
    have hgroup : Solid ((spacedWord "OR").intercalate (cs.map (·.tokens slot))) :=
      .intercalate (fun hnil => hne (List.map_eq_nil_iff.1 hnil)) hsolid
    -- no such word stands in a comparison, so that only those between them are left
    have hquiet : (cs.map (·.tokens slot)).map (joinDepths w (d + 1)) =
        List.replicate cs.length [] := by
      rw [List.map_map, List.map_eq_replicate_iff]
      exact fun c h => hcomparison c h (d + 1)
    have hjoined := joinDepths_intercalate (w := w) (v := "OR") (d := d + 1) hsolid hclosed
    rw [tokens_anyOf, joinDepths_enclose hgroup, hjoined, hquiet]
    by_cases hw : w = "OR"
    · rw [if_pos hw.symm, if_pos hw, Text.intercalate_replicate_nil]
      rfl
    · rw [if_neg (Ne.symm hw), if_neg hw, Text.nil_intercalate]
      simp

end Condition

end Comparisons

end PropertyFilter
