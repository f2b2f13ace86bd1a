import PropertyFilter.Proofs.Condition.Nesting
import PropertyFilter.Proofs.Condition.Reading

/-!
# Formulas

The formula that a text writes, found from the text alone as a database finds it: what is joined by
`AND` binds tighter than what is joined by `OR`, and parentheses come before both.

## Main definitions

* `Connective`, `Formula` — comparisons that are joined
* `Formula.Holds` — whether a formula holds, given which comparisons do
* `Formula.ofTokens?`, `Formula.ofText?` — the formula that tokens and a text write
* `Condition.formula?`, `Condition.allFormula?` — the formula of a condition, and of several

## Main results

* `Formula.holds_joined?_and`, `Formula.holds_joined?_or` — when joined formulas hold
* `Formula.ofTokens?_intercalate` — lists of tokens that are joined are read one by one
* `Condition.formula_ofTokens?_tokens` — a condition is read as any of its comparisons
-/

namespace PropertyFilter

open Sql

/-! ### Formulas -/

/-- A word that joins two formulas. -/
inductive Connective where
  | and
  | or
deriving DecidableEq

namespace Connective

/-- The word itself. -/
def word : Connective → String
  | and => "AND"
  | or => "OR"

end Connective

/-- A comparison, or formulas that are joined. -/
inductive Formula where
  | comparison (c : Comparison String)
  | join (op : Connective) (left right : Formula)
deriving DecidableEq

namespace Formula

variable {holds : Comparison String → Prop} {op : Connective}

/-- Whether a formula holds, given which comparisons do. -/
def Holds (holds : Comparison String → Prop) : Formula → Prop
  | comparison c => holds c
  | join .and left right => left.Holds holds ∧ right.Holds holds
  | join .or left right => left.Holds holds ∨ right.Holds holds

/-- Several formulas, joined by one word from the left to the right. -/
def joined? (op : Connective) : List Formula → Option Formula
  | [] => none
  | [f] => some f
  | f :: fs => (joined? op fs).map (join op f)

theorem joined?_cons {fs : List Formula} (f : Formula) (hne : fs ≠ []) :
    joined? op (f :: fs) = (joined? op fs).map (join op f) := by
  cases fs with
  | nil => exact absurd rfl hne
  | cons g fs => rfl

theorem exists_joined?_eq_some {fs : List Formula} (hne : fs ≠ []) :
    ∃ f, joined? op fs = some f := by
  induction fs with
  | nil => exact absurd rfl hne
  | cons f fs ih =>
    cases fs with
    | nil => exact ⟨f, rfl⟩
    | cons g fs =>
      obtain ⟨rest, hrest⟩ := ih (List.cons_ne_nil g fs)
      exact ⟨join op f rest, by rw [joined?_cons f (List.cons_ne_nil g fs), hrest]; rfl⟩

/-- Formulas that are joined by `AND` hold together if all of them do. -/
theorem holds_joined?_and {f : Formula} {fs : List Formula} (h : joined? .and fs = some f) :
    f.Holds holds ↔ ∀ g ∈ fs, g.Holds holds := by
  induction fs generalizing f with
  | nil => simp [joined?] at h
  | cons g fs ih =>
    cases fs with
    | nil =>
      obtain rfl := Option.some.inj h
      simp
    | cons g' fs =>
      rw [joined?_cons g (List.cons_ne_nil g' fs)] at h
      obtain ⟨rest, hrest, rfl⟩ := Option.map_eq_some_iff.1 h
      rw [Holds, ih hrest]
      exact List.forall_mem_cons.symm

/-- Formulas that are joined by `OR` hold together if any of them does. -/
theorem holds_joined?_or {f : Formula} {fs : List Formula} (h : joined? .or fs = some f) :
    f.Holds holds ↔ ∃ g ∈ fs, g.Holds holds := by
  induction fs generalizing f with
  | nil => simp [joined?] at h
  | cons g fs ih =>
    cases fs with
    | nil =>
      obtain rfl := Option.some.inj h
      simp
    | cons g' fs =>
      rw [joined?_cons g (List.cons_ne_nil g' fs)] at h
      obtain ⟨rest, hrest, rfl⟩ := Option.map_eq_some_iff.1 h
      rw [Holds, ih hrest]
      simp only [List.mem_cons, or_and_right, exists_or, exists_eq_left]

end Formula

/-! ### Cutting tokens -/

namespace Sql

/-- What stands before and behind the first place outside of parentheses where a word stands between
blanks, for tokens that begin at depth `d`. -/
def cut? (w : String) (d : Int) : List Token → Option (List Token × List Token)
  | [] => none
  | t :: ts =>
    if d = 0 ∧ spacedWord w <+: t :: ts then some ([], ts.drop 2)
    else (cut? w (d + t.nesting) ts).map fun r => (t :: r.1, r.2)

/-- What stands between an opening parenthesis and a closing one. -/
def enclosed? : List Token → Option (List Token)
  | .mark '(' :: ts => if ts.getLast? = some (.mark ')') then some ts.dropLast else none
  | _ => none

/-- Tokens that stay whole next to a word: it neither reaches into them nor stands in them outside
of parentheses. -/
structure Whole (w : String) (ts : List Token) : Prop extends Solid ts where
  closed : depth ts = 0
  uncut : 0 ∉ joinDepths w 0 ts

variable {w v : String} {d : Int} {ts us left right inner : List Token}

theorem cut?_eq_none_iff : cut? w d ts = none ↔ 0 ∉ joinDepths w d ts := by
  induction ts generalizing d with
  | nil => simp [cut?]
  | cons t ts ih =>
    rw [cut?, joinDepths]
    by_cases hstarts : spacedWord w <+: t :: ts
    · by_cases hd : d = 0
      · simp [hstarts, hd]
      · simp [hstarts, hd, ih, Ne.symm hd]
    · simp [hstarts, ih]

/-- Both sides of a cut are shorter. -/
theorem length_of_cut? (h : cut? w d ts = some (left, right)) :
    left.length < ts.length ∧ right.length < ts.length := by
  induction ts generalizing d left with
  | nil => simp [cut?] at h
  | cons t ts ih =>
    rw [cut?] at h
    split at h
    · obtain ⟨rfl, rfl⟩ := Prod.mk.inj (Option.some.inj h)
      exact ⟨Nat.succ_pos _, Nat.lt_succ_of_le (List.drop_sublist 2 ts).length_le⟩
    · obtain ⟨⟨left', right'⟩, hcut, heq⟩ := Option.map_eq_some_iff.1 h
      obtain ⟨rfl, rfl⟩ := Prod.mk.inj heq
      obtain ⟨hleft, hright⟩ := ih hcut
      exact ⟨Nat.succ_lt_succ hleft, Nat.lt_succ_of_lt hright⟩

theorem length_of_enclosed? (h : enclosed? ts = some inner) : inner.length < ts.length := by
  unfold enclosed? at h
  split at h
  · split at h
    · obtain rfl := Option.some.inj h
      simp only [List.length_dropLast, List.length_cons]
      omega
    · simp at h
  · simp at h

/-- Tokens are cut at the word behind those that are solid and not cut themselves. -/
theorem cut?_append (hback : ∃ t, ts.getLast? = some t ∧ t.isSolid)
    (huncut : 0 ∉ joinDepths w d ts) (hclosed : d + depth ts = 0) :
    cut? w d (ts ++ (spacedWord w ++ us)) = some (ts, us) := by
  induction ts generalizing d with
  | nil => simp at hback
  | cons t ts ih =>
    have hstarts : spacedWord w <+: t :: ts ++ (spacedWord w ++ us) ↔ spacedWord w <+: t :: ts :=
      spacedWord_prefix_append_iff hback
    -- the word does not stand at the first token, nor at a later one
    have hhere : ¬ (d = 0 ∧ spacedWord w <+: t :: ts) := by
      rintro ⟨rfl, hfirst⟩
      simp [joinDepths, hfirst] at huncut
    have hlater : 0 ∉ joinDepths w (d + t.nesting) ts := by
      rw [joinDepths] at huncut
      split at huncut
      · exact List.not_mem_of_not_mem_cons huncut
      · exact huncut
    rw [depth_cons, ← Int.add_assoc] at hclosed
    rw [List.cons_append, cut?, if_neg (by rwa [← List.cons_append, hstarts])]
    cases ts with
    | nil =>
      -- the word begins here
      rw [depth_nil, Int.add_zero] at hclosed
      simp [cut?, spacedWord, hclosed]
    | cons t' ts => rw [ih (by simpa using hback) hlater hclosed]; rfl

/-- Tokens that are whole are cut at the word behind them. -/
theorem Whole.cut? (h : Whole w ts) : cut? w 0 (ts ++ (spacedWord w ++ us)) = some (ts, us) :=
  cut?_append h.back h.uncut (by rw [h.closed]; rfl)

/-- Tokens that are whole next to one word stay so when another one joins them. -/
theorem Whole.append (ht : Whole w ts) (hu : Whole w us) (hne : v ≠ w) :
    Whole w (ts ++ (spacedWord v ++ us)) where
  toSolid := ht.toSolid.append hu.toSolid
  closed := by simp [ht.closed, hu.closed, (balanced_spacedWord v).closed]
  uncut := by
    rw [joinDepths_append ht.back, ht.closed, joinDepths_spacedWord_append (hu.front w), if_neg hne]
    simpa using ⟨ht.uncut, hu.uncut⟩

theorem Whole.intercalate {parts : List (List Token)} (hne : v ≠ w) (hparts : parts ≠ [])
    (h : ∀ part ∈ parts, Whole w part) : Whole w ((spacedWord v).intercalate parts) :=
  Text.intercalate_induction hparts (fun hxs hys => hxs.append hys hne) h

theorem enclosed?_eq (ts : List Token) :
    enclosed? (.mark '(' :: (ts ++ [.mark ')'])) = some ts := by
  simp [enclosed?]

end Sql

/-! ### Reading tokens -/

/-- A parameter by position is read as one that has the position for a name. -/
def Sql.Token.named : Token → Token
  | position digits => .slot digits
  | t => t

namespace Formula

/-- The two sides of a word that joins tokens outside of parentheses. Of two such words the one that
binds less tightly counts. -/
def split? (ts : List Token) : Option (Connective × List Token × List Token) :=
  match cut? Connective.or.word 0 ts with
  | some sides => some (.or, sides)
  | none => (cut? Connective.and.word 0 ts).map (.and, ·)

theorem length_of_split? {op : Connective} {ts left right : List Token}
    (h : split? ts = some (op, left, right)) :
    left.length < ts.length ∧ right.length < ts.length := by
  unfold split? at h
  split at h
  · rename_i sides hcut
    obtain ⟨-, rfl⟩ := Prod.mk.inj (Option.some.inj h)
    exact length_of_cut? hcut
  · obtain ⟨sides, hcut, heq⟩ := Option.map_eq_some_iff.1 h
    obtain ⟨-, rfl⟩ := Prod.mk.inj heq
    exact length_of_cut? hcut

/-- The formula that tokens write: two formulas that a word joins, a formula in parentheses, or a
comparison. -/
def ofTokens? (ts : List Token) : Option Formula :=
  match hsplit : split? ts with
  | some (op, left, right) =>
    have := length_of_split? hsplit
    (ofTokens? left).bind fun f => (ofTokens? right).map (join op f)
  | none =>
    match henclosed : enclosed? ts with
    | some inner =>
      have := length_of_enclosed? henclosed
      ofTokens? inner
    | none => (Comparison.ofPhrases? (phrases ts)).map comparison
termination_by ts.length

/-- The formula that a text writes. Parameters may be written by name or by position. -/
def ofText? (text : String) : Option Formula :=
  ofTokens? ((scan text.toList).map Token.named)

variable {op : Connective} {ts left right inner : List Token}

theorem ofTokens?_of_split? (h : split? ts = some (op, left, right)) :
    ofTokens? ts = (ofTokens? left).bind fun f => (ofTokens? right).map (join op f) := by
  rw [ofTokens?]
  split
  · rename_i hsplit
    obtain ⟨rfl, rfl, rfl⟩ : _ = op ∧ _ = left ∧ _ = right := by simpa using hsplit.symm.trans h
    rfl
  · rename_i hsplit
    simp [h] at hsplit

theorem ofTokens?_of_enclosed? (hsplit : split? ts = none) (henclosed : enclosed? ts = some inner) :
    ofTokens? ts = ofTokens? inner := by
  rw [ofTokens?]
  split
  · rename_i h
    simp [hsplit] at h
  · split
    · rename_i h
      obtain rfl : _ = inner := Option.some.inj (h.symm.trans henclosed)
      rfl
    · rename_i h
      simp [henclosed] at h

theorem ofTokens?_of_enclosed?_eq_none (hsplit : split? ts = none)
    (henclosed : enclosed? ts = none) :
    ofTokens? ts = (Comparison.ofPhrases? (phrases ts)).map comparison := by
  rw [ofTokens?]
  split
  · rename_i h
    simp [hsplit] at h
  · split
    · rename_i h
      simp [henclosed] at h
    · rfl

theorem split?_eq_none (hor : 0 ∉ joinDepths Connective.or.word 0 ts)
    (hand : 0 ∉ joinDepths Connective.and.word 0 ts) : split? ts = none := by
  rw [split?, cut?_eq_none_iff.2 hor, cut?_eq_none_iff.2 hand]
  rfl

/-- Tokens are split at the word that joins them; the right side need not be whole if no other word
binds less tightly. -/
theorem split?_join (hor : Whole Connective.or.word left) (hop : Whole op.word left)
    (hright : op = .and → Whole Connective.or.word right) :
    split? (left ++ (spacedWord op.word ++ right)) = some (op, left, right) := by
  cases op with
  | or => rw [split?, hop.cut?]
  | and =>
    -- the looser word is looked for first, and does not cut the two sides
    have hwhole := hor.append (v := Connective.and.word) (hright rfl) (by decide)
    rw [split?, cut?_eq_none_iff.2 hwhole.uncut, hop.cut?]
    rfl

/-- Joining what a list is read as begins with its first element. -/
theorem bind_joined?_cons {α : Type} {read : α → Option Formula} (x y : α) (xs : List α) :
    ((x :: y :: xs).mapM read).bind (joined? op) =
      (read x).bind fun f => (((y :: xs).mapM read).bind (joined? op)).map (join op f) := by
  rw [List.mapM_cons]
  cases read x with
  | none => rfl
  | some f =>
    cases hrest : (y :: xs).mapM read with
    | none => rfl
    | some fs =>
      cases fs with
      | nil => simp [List.mapM_cons, Option.bind_eq_some_iff] at hrest
      | cons g fs => rfl

/-- Lists of tokens that are joined by a word are read one by one. -/
theorem ofTokens?_intercalate {parts : List (List Token)}
    (hor : ∀ part ∈ parts, Whole Connective.or.word part)
    (hop : ∀ part ∈ parts, Whole op.word part) :
    ofTokens? ((spacedWord op.word).intercalate parts) =
      (parts.mapM ofTokens?).bind (joined? op) := by
  induction parts with
  | nil =>
    have hsplit : split? [] = none := rfl
    exact ofTokens?_of_enclosed?_eq_none hsplit rfl
  | cons part parts ih =>
    obtain ⟨hpart, hrest⟩ := List.forall_mem_cons.1 hor
    obtain ⟨hpart', hrest'⟩ := List.forall_mem_cons.1 hop
    cases parts with
    | nil =>
      rw [List.intercalate_singleton, List.mapM_cons]
      cases ofTokens? part <;> rfl
    | cons next parts =>
      have hsplit : split? (part ++ (spacedWord op.word ++
          (spacedWord op.word).intercalate (next :: parts))) =
            some (op, part, (spacedWord op.word).intercalate (next :: parts)) := by
        refine split?_join hpart hpart' fun hand => ?_
        subst hand
        exact .intercalate (by decide) (List.cons_ne_nil next parts) hrest
      rw [List.intercalate_cons_cons, List.append_assoc, ofTokens?_of_split? hsplit,
        ih hrest hrest', bind_joined?_cons]

/-- The second word binds tighter, so that the first one joins all. -/
example : ofText? ("i.a #>> '\x7bk\x7d' = $1 OR " ++
      "i.a #>> '\x7bk\x7d' = $2 AND i.a #>> '\x7bk\x7d' = $3") =
    some (.join .or (.comparison ⟨"i.a", "k", false, .equal, false, "1"⟩)
      (.join .and (.comparison ⟨"i.a", "k", false, .equal, false, "2"⟩)
        (.comparison ⟨"i.a", "k", false, .equal, false, "3"⟩))) := by
  cbv

end Formula

/-! ### Conditions -/

namespace Connective

theorem word_ne_like (op : Connective) : op.word ≠ "LIKE" := by cases op <;> decide

theorem word_ne_escape (op : Connective) : op.word ≠ "ESCAPE" := by cases op <;> decide

end Connective

section Conditions

variable {tableAlias : String}

namespace Comparison

variable {c : Comparison String}

theorem whole_tokens (op : Connective) (ha : isIdentifier tableAlias) (hc : c.IsSafe tableAlias) :
    Whole op.word (c.tokens .slot) where
  toSolid := solid_tokens ha hc rfl
  closed := (balanced_tokens ha hc rfl).closed
  uncut := by
    rw [joinDepths_tokens ha hc op.word_ne_like op.word_ne_escape]
    exact List.not_mem_nil

/-- A comparison does not begin with a parenthesis. -/
theorem enclosed?_tokens (ha : isIdentifier tableAlias) (hc : c.IsSafe tableAlias) :
    enclosed? (c.tokens .slot) = none := by
  obtain ⟨column, -, hstored⟩ := storedTokens_eq ha hc
  rw [tokens, Test.tokens_eq_append, hstored]
  split <;> rfl

/-- A comparison is read as the formula that it is. -/
theorem formula_ofTokens?_tokens (ha : isIdentifier tableAlias) (hc : c.IsSafe tableAlias) :
    Formula.ofTokens? (c.tokens .slot) = some (.comparison c) := by
  have hsplit : Formula.split? (c.tokens .slot) = none :=
    Formula.split?_eq_none (whole_tokens .or ha hc).uncut (whole_tokens .and ha hc).uncut
  rw [Formula.ofTokens?_of_enclosed?_eq_none hsplit (enclosed?_tokens ha hc),
    ofPhrases?_tokens ha hc]
  rfl

end Comparison

namespace Condition

variable {c : Condition String} {holds : Comparison String → Prop}

/-- The formula of a condition: any of its comparisons. -/
def formula? (c : Condition String) : Option Formula :=
  Formula.joined? .or (c.comparisons.map .comparison)

theorem holds_formula? {f : Formula} (h : c.formula? = some f) :
    f.Holds holds ↔ ∃ comparison ∈ c.comparisons, holds comparison := by
  rw [Formula.holds_joined?_or h]
  constructor
  · rintro ⟨g, hg, hholds⟩
    obtain ⟨comparison, hmem, rfl⟩ := List.mem_map.1 hg
    exact ⟨comparison, hmem, hholds⟩
  · rintro ⟨comparison, hmem, hholds⟩
    exact ⟨.comparison comparison, List.mem_map_of_mem hmem, hholds⟩

/-- A condition is not cut outside of its parentheses. -/
theorem whole_tokens (op : Connective) (ha : isIdentifier tableAlias) (hc : c.IsSafe tableAlias)
    (hne : c.comparisons ≠ []) : Whole op.word (c.tokens Token.slot) where
  toSolid := solid_tokens ha hc fun _ => rfl
  closed := (balanced_tokens ha hc fun _ => rfl).closed
  uncut := by
    rw [joinDepths_tokens ha hc (fun _ => rfl) hne op.word_ne_like op.word_ne_escape]
    split <;> simp

/-- A condition is read as any of its comparisons. -/
theorem formula_ofTokens?_tokens (ha : isIdentifier tableAlias) (hc : c.IsSafe tableAlias)
    (hne : c.comparisons ≠ []) : Formula.ofTokens? (c.tokens .slot) = c.formula? := by
  cases c with
  | single c => exact Comparison.formula_ofTokens?_tokens ha (hc c List.mem_cons_self)
  | anyOf cs =>
    have hsplit : Formula.split? ((anyOf cs).tokens Token.slot) = none :=
      Formula.split?_eq_none (whole_tokens .or ha hc hne).uncut (whole_tokens .and ha hc hne).uncut
    have hwhole : ∀ part ∈ cs.map (·.tokens Token.slot), Whole Connective.or.word part :=
      List.forall_mem_map.2 fun c hmem => Comparison.whole_tokens .or ha (hc c hmem)
    have hread : (cs.map (·.tokens Token.slot)).mapM Formula.ofTokens? =
        some (cs.map .comparison) := by
      rw [Text.mapM_eq_some_iff, List.forall₂_map_left_iff, List.forall₂_map_right_iff,
        List.forall₂_same]
      exact fun c hmem => Comparison.formula_ofTokens?_tokens ha (hc c hmem)
    -- without the parentheses, the comparisons are read one by one
    have hinner : Formula.ofTokens? ((spacedWord "OR").intercalate (cs.map (·.tokens .slot))) =
        ((cs.map (·.tokens Token.slot)).mapM Formula.ofTokens?).bind (Formula.joined? .or) :=
      Formula.ofTokens?_intercalate hwhole hwhole
    rw [tokens_anyOf] at hsplit ⊢
    rw [Formula.ofTokens?_of_enclosed? hsplit (enclosed?_eq _), hinner, hread]
    rfl

/-- The formula of several conditions: all of them. -/
def allFormula? (conditions : List (Condition String)) : Option Formula :=
  (conditions.mapM formula?).bind (Formula.joined? .and)

variable {conditions : List (Condition String)}

theorem holds_allFormula? {f : Formula} (h : allFormula? conditions = some f) :
    f.Holds holds ↔ ∀ c ∈ conditions, ∃ comparison ∈ c.comparisons, holds comparison := by
  obtain ⟨fs, hfs, hjoined⟩ := Option.bind_eq_some_iff.1 h
  rw [Formula.holds_joined?_and hjoined]
  clear hjoined h
  rw [Text.mapM_eq_some_iff] at hfs
  induction hfs with
  | nil => simp
  | cons hread _ ih => rw [List.forall_mem_cons, List.forall_mem_cons, holds_formula? hread, ih]

theorem exists_allFormula?_eq_some (hconditions : conditions ≠ [])
    (hne : ∀ c ∈ conditions, c.comparisons ≠ []) : ∃ f, allFormula? conditions = some f := by
  have hformula : ∀ c ∈ conditions, ∃ f, c.formula? = some f := fun c hc =>
    Formula.exists_joined?_eq_some fun hnil => hne c hc (List.map_eq_nil_iff.1 hnil)
  obtain ⟨fs, hfs⟩ := Text.exists_mapM_eq_some hformula
  -- there are as many formulas as conditions
  have hlength := (Text.mapM_eq_some_iff.1 hfs).length_eq
  have hsome : fs ≠ [] := by
    rintro rfl
    exact hconditions (List.length_eq_zero_iff.1 hlength)
  rw [allFormula?, hfs]
  exact Formula.exists_joined?_eq_some hsome

end Condition

end Conditions

end PropertyFilter
