import Mathlib.Computability.RegularExpressions
import PropertyFilter.Proofs.Decimal.Literal

/-!
# The pattern of decimal numbers

The grammar of decimal numbers as one regular expression.

## Main definitions

* `Decimal.pattern` — the expression `[+-]?(D+(.D*)?|.D+)([eE][+-]?D+)?` over the digits `D`

## Main results

* `mem_pattern_iff` — what the expression matches are the texts of literals
-/

namespace PropertyFilter.Decimal

/-! ### Parts of expressions -/

/-- One of several characters. -/
def oneOf (cs : List Char) : RegularExpression Char := (cs.map .char).sum

/-- An expression that may be left out. -/
def optional (p : RegularExpression Char) : RegularExpression Char := 1 + p

/-- An expression once or several times. -/
def repeated (p : RegularExpression Char) : RegularExpression Char := p * p.star

section Parts

variable {p : RegularExpression Char} {cs alternatives : List Char}

theorem mem_oneOf_iff :
    cs ∈ (oneOf alternatives).matches' ↔ ∃ c ∈ alternatives, cs = [c] := by
  induction alternatives with
  | nil => simp [oneOf, Language.notMem_zero]
  | cons c alternatives ih =>
    have hsum : oneOf (c :: alternatives) = .char c + oneOf alternatives := rfl
    rw [hsum, RegularExpression.matches'_add, Language.mem_add, ih, List.exists_mem_cons_iff]
    rfl

theorem mem_optional_iff : cs ∈ (optional p).matches' ↔ cs = [] ∨ cs ∈ p.matches' := by
  rw [optional, RegularExpression.matches'_add, Language.mem_add,
    RegularExpression.matches'_epsilon, Language.mem_one]

/-- What an expression for single characters matches if it is repeated. -/
theorem mem_star_iff {q : Char → Prop} (h : ∀ cs, cs ∈ p.matches' ↔ ∃ c, q c ∧ cs = [c]) :
    cs ∈ p.star.matches' ↔ ∀ c ∈ cs, q c := by
  rw [RegularExpression.matches'_star, Language.mem_kstar]
  constructor
  · rintro ⟨parts, rfl, hparts⟩ c hc
    obtain ⟨part, hpart, hmem⟩ := List.mem_flatten.1 hc
    obtain ⟨d, hd, rfl⟩ := (h part).1 (hparts part hpart)
    rwa [List.mem_singleton.1 hmem]
  · intro hall
    refine ⟨cs.map fun c => [c], by simp [← List.flatMap_def], ?_⟩
    intro part hpart
    obtain ⟨c, hc, rfl⟩ := List.mem_map.1 hpart
    exact (h [c]).2 ⟨c, hall c hc, rfl⟩

end Parts

/-! ### Digits and signs -/

def digit : RegularExpression Char := oneOf ['0', '1', '2', '3', '4', '5', '6', '7', '8', '9']

def sign : RegularExpression Char := optional (oneOf ['+', '-'])

def digits : RegularExpression Char := repeated digit

/-- Decimal numbers. -/
def pattern : RegularExpression Char :=
  sign * (digits * optional (.char '.' * digit.star) + .char '.' * digits) *
    optional (oneOf ['e', 'E'] * (sign * digits))

theorem isDigit_iff {c : Char} :
    c.isDigit ↔ c ∈ ['0', '1', '2', '3', '4', '5', '6', '7', '8', '9'] := by
  constructor
  · intro h
    have hall : ∀ n < 58, 48 ≤ n →
        Char.ofNat n ∈ ['0', '1', '2', '3', '4', '5', '6', '7', '8', '9'] := by decide
    simp only [Char.isDigit, ge_iff_le, Bool.and_eq_true, decide_eq_true_eq] at h
    rw [← Char.ofNat_toNat c]
    exact hall c.toNat (Nat.lt_succ_of_le h.2) h.1
  · have hall : ['0', '1', '2', '3', '4', '5', '6', '7', '8', '9'].all Char.isDigit := by decide
    exact List.all_eq_true.1 hall c

section

variable {cs : List Char}

theorem mem_digit_iff : cs ∈ digit.matches' ↔ ∃ c : Char, c.isDigit ∧ cs = [c] := by
  simp only [digit, mem_oneOf_iff, isDigit_iff]

theorem mem_star_digit_iff : cs ∈ digit.star.matches' ↔ IsDigits cs :=
  mem_star_iff fun _ => mem_digit_iff

theorem mem_digits_iff : cs ∈ digits.matches' ↔ cs ≠ [] ∧ IsDigits cs := by
  rw [digits, repeated, RegularExpression.matches'_mul, Language.mem_mul]
  simp only [mem_digit_iff, mem_star_digit_iff]
  constructor
  · rintro ⟨_, ⟨c, hc, rfl⟩, rest, hrest, rfl⟩
    exact ⟨List.cons_ne_nil c rest, List.forall_mem_cons.2 ⟨hc, hrest⟩⟩
  · rintro ⟨hne, hall⟩
    obtain ⟨c, rest, rfl⟩ := List.exists_cons_of_ne_nil hne
    obtain ⟨hc, hrest⟩ := List.forall_mem_cons.1 hall
    exact ⟨[c], ⟨c, hc, rfl⟩, rest, hrest, rfl⟩

theorem mem_sign_iff : cs ∈ sign.matches' ↔ ∃ s : Sign, s.text = cs := by
  rw [sign, mem_optional_iff, mem_oneOf_iff]
  constructor
  · rintro (rfl | ⟨c, hc, rfl⟩)
    · exact ⟨.bare, rfl⟩
    · obtain rfl | rfl : c = '+' ∨ c = '-' := by simpa using hc
      · exact ⟨.plus, rfl⟩
      · exact ⟨.minus, rfl⟩
  · rintro ⟨_ | _ | _, rfl⟩ <;> simp [Sign.text]

/-- An integer is a sign and digits. -/
theorem mem_numeral_iff : cs ∈ (sign * digits).matches' ↔ ∃ i : Numeral, i.text = cs := by
  rw [RegularExpression.matches'_mul, Language.mem_mul]
  simp only [mem_sign_iff, mem_digits_iff]
  constructor
  · rintro ⟨_, ⟨s, rfl⟩, ds, ⟨hne, hdigits⟩, rfl⟩
    exact ⟨⟨s, ds, hdigits, hne⟩, rfl⟩
  · rintro ⟨i, rfl⟩
    exact ⟨_, ⟨i.sign, rfl⟩, i.digits, ⟨i.ne_nil, i.isDigits⟩, rfl⟩

/-- An exponent is nothing, or a letter and an integer. -/
theorem mem_exponent_iff : cs ∈ (optional (oneOf ['e', 'E'] * (sign * digits))).matches' ↔
    ∃ e : Option Exponent, Literal.exponentText e = cs := by
  rw [mem_optional_iff, RegularExpression.matches'_mul, Language.mem_mul]
  simp only [mem_oneOf_iff, mem_numeral_iff]
  constructor
  · rintro (rfl | ⟨_, ⟨c, hc, rfl⟩, _, ⟨i, rfl⟩, rfl⟩)
    · exact ⟨none, rfl⟩
    · exact ⟨some ⟨c, by simpa using hc, i⟩, rfl⟩
  · rintro ⟨_ | e, rfl⟩
    · exact .inl rfl
    · exact .inr ⟨_, ⟨e.mark, by simpa using e.isMark, rfl⟩, _, ⟨e.power, rfl⟩, rfl⟩

/-- The digits of a number stand on one side of the point at least. -/
theorem mem_point_iff :
    cs ∈ (digits * optional (.char '.' * digit.star) + .char '.' * digits).matches' ↔
      ∃ (whole : List Char) (fraction : Option (List Char)), IsDigits whole ∧
        (∀ ds ∈ fraction, IsDigits ds) ∧ whole ++ fraction.getD [] ≠ [] ∧
          whole ++ Literal.pointText fraction = cs := by
  have hpoint : ∀ ds : List Char, ds ∈ (RegularExpression.char '.').matches' ↔ ds = ['.'] :=
    fun ds => Iff.rfl
  simp only [RegularExpression.matches'_add, RegularExpression.matches'_mul, Language.mem_add,
    Language.mem_mul, mem_optional_iff, mem_digits_iff, mem_star_digit_iff, hpoint]
  constructor
  · rintro (⟨whole, ⟨hne, hwhole⟩, _, rfl | ⟨_, rfl, ds, hds, rfl⟩, rfl⟩ |
      ⟨_, rfl, ds, ⟨hne, hds⟩, rfl⟩)
    · exact ⟨whole, none, hwhole, by simp, by simpa using hne, rfl⟩
    · exact ⟨whole, some ds, hwhole, by simpa using hds, by simp [hne], rfl⟩
    · exact ⟨[], some ds, List.forall_mem_nil _, by simpa using hds, by simpa using hne, rfl⟩
  · rintro ⟨whole, fraction, hwhole, hfraction, hne, rfl⟩
    by_cases hnil : whole = []
    · -- all digits are behind the point, so there is one
      subst hnil
      cases fraction with
      | none => exact absurd rfl hne
      | some ds => exact .inr ⟨['.'], rfl, ds, ⟨by simpa using hne, hfraction ds rfl⟩, rfl⟩
    · left
      cases fraction with
      | none => exact ⟨whole, ⟨hnil, hwhole⟩, [], .inl rfl, rfl⟩
      | some ds =>
        exact ⟨whole, ⟨hnil, hwhole⟩, _, .inr ⟨['.'], rfl, ds, hfraction ds rfl, rfl⟩, rfl⟩

/-- What the pattern matches are the texts of literals. -/
theorem mem_pattern_iff : cs ∈ pattern.matches' ↔ ∃ l : Literal, l.text = cs := by
  rw [pattern, RegularExpression.matches'_mul, Language.mem_mul, RegularExpression.matches'_mul]
  simp only [Language.mem_mul (l := sign.matches'), mem_sign_iff, mem_point_iff, mem_exponent_iff]
  constructor
  · rintro ⟨_, ⟨_, ⟨s, rfl⟩, _, ⟨whole, fraction, hwhole, hfraction, hne, rfl⟩, rfl⟩, _, ⟨e, rfl⟩,
      rfl⟩
    exact ⟨⟨s, whole, fraction, e, hwhole, hfraction, hne⟩, by simp [Literal.text]⟩
  · rintro ⟨l, rfl⟩
    exact ⟨_, ⟨_, ⟨l.sign, rfl⟩, _, ⟨l.whole, l.fraction, l.whole_isDigits, l.fraction_isDigits,
      l.ne_nil, rfl⟩, rfl⟩, _, ⟨l.exponent, rfl⟩, by simp [Literal.text]⟩

end

end PropertyFilter.Decimal
