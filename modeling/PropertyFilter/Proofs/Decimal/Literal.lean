import Mathlib.Data.List.TakeWhile
import PropertyFilter.Proofs.Decimal
import PropertyFilter.Proofs.Text.Joined
import PropertyFilter.Text.Blank

/-!
# The grammar of decimal numbers

The texts that are read as decimal numbers are those of a grammar: an optional sign, digits with
an optional point before, among or behind them, and an optional exponent. Each text of the grammar
is read as the number it writes, and no other text is read.

## Main definitions

* `Decimal.Numeral` — digits with an optional sign
* `Decimal.Numeral.ofInt` — an integer as it is written out
* `Decimal.Literal` — a decimal number as it is written
* `Decimal.Literal.value` — the number that is written
* `Decimal.Literal.IsWhole` — whether neither a point nor an exponent is written
* `Decimal.Writes` — a text writes a number

## Main results

* `integer?_eq_some_iff` — which texts are read as integers
* `parse?_eq_some_iff` — which texts are read as decimal numbers
-/

namespace PropertyFilter.Decimal

/-- A sign in front of digits. -/
inductive Sign where
  /-- No sign is written. -/
  | bare
  | plus
  | minus

namespace Sign

def text : Sign → List Char
  | bare => []
  | plus => ['+']
  | minus => ['-']

/-- Whether the sign is a minus. -/
def negative : Sign → Bool
  | minus => true
  | _ => false

end Sign

/-- Whether a text consists of digits. -/
def IsDigits (cs : List Char) : Prop := ∀ c ∈ cs, c.isDigit

/-- The number that digits write. -/
def natural (cs : List Char) : ℕ := Nat.ofDigitChars 10 cs 0

theorem natural_append (as bs : List Char) :
    natural (as ++ bs) = natural as * 10 ^ bs.length + natural bs := by
  unfold natural
  rw [Nat.ofDigitChars_append, Nat.ofDigitChars_eq_ofDigitChars_zero, mul_comm]

theorem natural_singleton_lt {c : Char} (h : c.isDigit) : natural [c] < 10 := by
  have hc : c.toNat ≤ 57 := by
    simp only [Char.isDigit, ge_iff_le, Bool.and_eq_true, decide_eq_true_eq] at h
    exact h.2
  rw [natural, Nat.ofDigitChars_cons, Nat.ofDigitChars_nil]
  have : '0'.toNat = 48 := rfl
  omega

theorem natural_lt {cs : List Char} (h : IsDigits cs) : natural cs < 10 ^ cs.length := by
  induction cs using List.reverseRecOn with
  | nil => exact one_pos
  | append_singleton cs c ih =>
    have hcs := ih fun d hd => h d (List.mem_append_left _ hd)
    have hc := natural_singleton_lt (h c (List.mem_append_right _ (List.mem_singleton_self c)))
    rw [natural_append, List.length_append, List.length_singleton, pow_succ]
    omega

@[simp] theorem natural_replicate_zero (n : ℕ) : natural (List.replicate n '0') = 0 := by
  induction n with
  | zero => rfl
  | succ n ih =>
    rw [List.replicate_succ', natural_append, ih, Nat.zero_mul]
    rfl

@[simp] theorem natural_toDigits (n : ℕ) : natural (Nat.toDigits 10 n) = n :=
  Nat.ofDigitChars_ten_toDigits

theorem isDigits_toDigits (n : ℕ) : IsDigits (Nat.toDigits 10 n) :=
  fun _ hc => Nat.isDigit_of_mem_toDigits (by decide) (by decide) hc

theorem toDigits_ne_nil (n : ℕ) : Nat.toDigits 10 n ≠ [] :=
  List.ne_nil_of_length_pos Nat.length_toDigits_pos

/-- Digits with an optional sign. -/
structure Numeral where
  sign : Sign
  digits : List Char
  isDigits : IsDigits digits
  ne_nil : digits ≠ []

namespace Numeral

def text (i : Numeral) : List Char := i.sign.text ++ i.digits

/-- The integer that is written. -/
def value (i : Numeral) : ℤ := if i.sign.negative then -(natural i.digits : ℤ) else natural i.digits

/-- An integer as it is written out. -/
def ofInt : ℤ → Numeral
  | .ofNat n => ⟨.bare, Nat.toDigits 10 n, isDigits_toDigits n, toDigits_ne_nil n⟩
  | .negSucc n =>
    ⟨.minus, Nat.toDigits 10 (n + 1), isDigits_toDigits (n + 1), toDigits_ne_nil (n + 1)⟩

@[simp] theorem value_ofInt (n : ℤ) : (ofInt n).value = n := by
  cases n with
  | ofNat n => exact congrArg Int.ofNat (natural_toDigits n)
  | negSucc n => exact congrArg (fun m : ℕ => -(m : ℤ)) (natural_toDigits (n + 1))

@[simp] theorem text_ofInt (n : ℤ) : (ofInt n).text = (toString n).toList := by
  cases n <;> simp [text, ofInt, Sign.text, Int.repr, Nat.repr_eq_ofList_toDigits]

end Numeral

/-- A power of ten behind a number: a letter and an integer. -/
structure Exponent where
  mark : Char
  isMark : mark = 'e' ∨ mark = 'E'
  power : Numeral

/-- A decimal number, as it is written. -/
structure Literal where
  sign : Sign
  /-- The digits before the point. -/
  whole : List Char
  /-- The digits behind the point, where a point is written. -/
  fraction : Option (List Char)
  exponent : Option Exponent
  whole_isDigits : IsDigits whole
  fraction_isDigits : ∀ ds ∈ fraction, IsDigits ds
  /-- There is a digit on one side of the point. -/
  ne_nil : whole ++ fraction.getD [] ≠ []

namespace Literal

/-- A point and the digits behind it. -/
def pointText : Option (List Char) → List Char
  | none => []
  | some ds => '.' :: ds

def exponentText : Option Exponent → List Char
  | none => []
  | some e => e.mark :: e.power.text

def text (l : Literal) : List Char :=
  l.sign.text ++ (l.whole ++ (pointText l.fraction ++ exponentText l.exponent))

/-- The power of ten that is written behind the number. -/
def power (l : Literal) : ℤ := (l.exponent.map (·.power.value)).getD 0

/-- The digits behind the point. -/
def places (l : Literal) : List Char := l.fraction.getD []

theorem places_isDigits (l : Literal) : IsDigits l.places := by
  intro c hc
  cases hfraction : l.fraction with
  | none => simp [places, hfraction] at hc
  | some ds => exact l.fraction_isDigits ds hfraction c (by simpa [places, hfraction] using hc)

/-- The number that is written. -/
def value (l : Literal) : ℚ :=
  signed l.sign.negative
    ((natural l.whole + natural l.places / 10 ^ l.places.length) * 10 ^ l.power)

/-- Whether the number is written without a point and an exponent. -/
def IsWhole (l : Literal) : Prop := l.fraction = none ∧ l.exponent = none

/-- The sign, the digits as one number, and the power of ten of the last digit. -/
def decimal (l : Literal) : Decimal :=
  ⟨l.sign.negative, natural (l.whole ++ l.places), l.power - l.places.length⟩

theorem value_decimal (l : Literal) : l.decimal.value = l.value := by
  unfold Decimal.value decimal value
  rw [natural_append]
  simp only
  rw [zpow_sub₀ (by norm_num), zpow_natCast]
  push_cast
  congr 1
  field_simp

end Literal

/-! ### Digits and signs -/

section Reading

variable {cs ds rest : List Char}

theorem IsDigits.head? (h : IsDigits ds) : ∀ c ∈ ds.head?, c.isDigit :=
  fun c hc => h c (List.mem_of_mem_head? hc)

/-- Reading digits stops at the first character that is none. -/
theorem IsDigits.span_append (h : IsDigits ds) (hrest : ∀ c ∈ rest.head?, ¬c.isDigit) :
    (ds ++ rest).takeWhile Char.isDigit = ds ∧ (ds ++ rest).dropWhile Char.isDigit = rest := by
  have hall : ds.all Char.isDigit := List.all_eq_true.2 h
  have hstop : ∀ c ∈ rest.head?, !c.isDigit := fun c hc => by simpa using hrest c hc
  exact ⟨Text.takeWhile_append_stop hall hstop, Text.dropWhile_append_stop hall hstop⟩

theorem isDigits_takeWhile (cs : List Char) : IsDigits (cs.takeWhile Char.isDigit) :=
  fun _ hc => List.mem_takeWhile_imp hc

theorem natural?_eq_some_iff {n : ℕ} :
    natural? cs = some n ↔ cs ≠ [] ∧ IsDigits cs ∧ natural cs = n := by
  simp [natural?, natural, IsDigits, and_assoc]

/-- A sign is taken off a text that goes on without one. -/
theorem takeSign_append (s : Sign) (hrest : ∀ c ∈ rest.head?, c ≠ '-' ∧ c ≠ '+') :
    takeSign (s.text ++ rest) = (s.negative, rest) := by
  cases s with
  | bare =>
    unfold takeSign Sign.text
    split <;> simp_all [Sign.negative]
  | plus => rfl
  | minus => rfl

/-- What is taken off a text is a sign. -/
theorem exists_sign (cs : List Char) :
    ∃ s : Sign, s.negative = (takeSign cs).1 ∧ s.text ++ (takeSign cs).2 = cs := by
  unfold takeSign
  split
  · exact ⟨.minus, rfl, rfl⟩
  · exact ⟨.plus, rfl, rfl⟩
  · exact ⟨.bare, rfl, rfl⟩

theorem ne_sign_of_isDigit {c : Char} (h : c.isDigit) : c ≠ '-' ∧ c ≠ '+' := by
  constructor <;> rintro rfl <;> exact absurd h (by decide)

theorem integer?_eq (cs : List Char) : integer? cs =
    (natural? (takeSign cs).2).map fun n : ℕ => if (takeSign cs).1 then -(n : ℤ) else n := by
  unfold integer?
  obtain ⟨negative, digits⟩ := takeSign cs
  cases h : natural? digits <;> simp [h]

/-- A text is read as an integer just if it is digits with an optional sign, and then as the
integer that they write. -/
theorem integer?_eq_some_iff {n : ℤ} :
    integer? cs = some n ↔ ∃ i : Numeral, i.text = cs ∧ i.value = n := by
  rw [integer?_eq, Option.map_eq_some_iff]
  constructor
  · rintro ⟨m, hm, rfl⟩
    obtain ⟨s, hnegative, htext⟩ := exists_sign cs
    obtain ⟨hne, hdigits, rfl⟩ := natural?_eq_some_iff.1 hm
    exact ⟨⟨s, _, hdigits, hne⟩, htext, by rw [Numeral.value, hnegative]⟩
  · rintro ⟨i, rfl, rfl⟩
    rw [Numeral.text, takeSign_append i.sign fun c hc => ne_sign_of_isDigit (i.isDigits.head? c hc)]
    exact ⟨_, natural?_eq_some_iff.2 ⟨i.ne_nil, i.isDigits, rfl⟩, rfl⟩

/-! ### Points and exponents -/

/-- A text is read as an exponent just if it is empty or a mark with an integer. -/
theorem exponent?_eq_some_iff {n : ℤ} : exponent? cs = some n ↔
    ∃ e : Option Exponent, Literal.exponentText e = cs ∧ (e.map (·.power.value)).getD 0 = n := by
  cases cs with
  | nil =>
    refine ⟨fun h => ⟨none, rfl, Option.some.inj h⟩, ?_⟩
    rintro ⟨_ | e, htext, rfl⟩
    · rfl
    · exact absurd htext (List.cons_ne_nil _ _)
  | cons c cs =>
    simp only [exponent?, Option.ite_none_right_eq_some, integer?_eq_some_iff, Bool.or_eq_true,
      decide_eq_true_eq]
    constructor
    · rintro ⟨hmark, i, rfl, rfl⟩
      exact ⟨some ⟨c, hmark, i⟩, rfl, rfl⟩
    · rintro ⟨_ | e, htext, rfl⟩
      · exact absurd htext.symm (List.cons_ne_nil _ _)
      · obtain ⟨rfl, rfl⟩ := List.cons.inj htext
        exact ⟨e.isMark, e.power, rfl, rfl⟩

/-- Takes a point with the digits behind it off a text. -/
def takePoint : List Char → List Char × List Char
  | '.' :: cs => (cs.takeWhile Char.isDigit, cs.dropWhile Char.isDigit)
  | cs => ([], cs)

/-- A point with digits is taken off a text that goes on with neither. -/
theorem takePoint_append {fraction : Option (List Char)} (h : ∀ ds ∈ fraction, IsDigits ds)
    (hrest : ∀ c ∈ rest.head?, ¬c.isDigit ∧ c ≠ '.') :
    takePoint (Literal.pointText fraction ++ rest) = (fraction.getD [], rest) := by
  cases fraction with
  | none =>
    unfold takePoint Literal.pointText
    split <;> simp_all
  | some ds =>
    obtain ⟨htake, hdrop⟩ := (h ds rfl).span_append fun c hc => (hrest c hc).1
    exact Prod.ext htake hdrop

/-- What is taken off a text is a point with digits, or nothing. -/
theorem exists_point (cs : List Char) : ∃ fraction : Option (List Char),
    (∀ ds ∈ fraction, IsDigits ds) ∧ fraction.getD [] = (takePoint cs).1 ∧
      Literal.pointText fraction ++ (takePoint cs).2 = cs := by
  unfold takePoint
  split
  · rename_i cs
    refine ⟨some (cs.takeWhile Char.isDigit), ?_, rfl, ?_⟩
    · rintro ds ⟨⟩
      exact isDigits_takeWhile cs
    · exact congrArg _ List.takeWhile_append_dropWhile
  · exact ⟨none, nofun, rfl, rfl⟩

end Reading

/-! ### Decimal numbers -/

theorem parse?_eq (cs : List Char) : parse? cs =
    let unsigned := (takeSign cs).2
    let whole := unsigned.takeWhile Char.isDigit
    let point := takePoint (unsigned.dropWhile Char.isDigit)
    if (whole ++ point.1).isEmpty then none
    else (exponent? point.2).map fun e =>
      ⟨(takeSign cs).1, natural (whole ++ point.1), e - point.1.length⟩ := rfl

namespace Literal

variable (l : Literal)

/-- What follows the digits of a literal begins with neither a digit nor a point. -/
theorem head?_exponentText : ∀ c ∈ (exponentText l.exponent).head?, ¬c.isDigit ∧ c ≠ '.' := by
  intro c hc
  cases hexponent : l.exponent with
  | none => simp [hexponent, exponentText] at hc
  | some e =>
    obtain rfl : e.mark = c := by simpa [hexponent, exponentText] using hc
    obtain hmark | hmark := e.isMark <;> rw [hmark] <;> decide

/-- What follows the digits before the point does not begin with a digit. -/
theorem head?_pointText :
    ∀ c ∈ (pointText l.fraction ++ exponentText l.exponent).head?, ¬c.isDigit := by
  intro c hc
  cases hfraction : l.fraction with
  | none =>
    rw [hfraction] at hc
    exact (l.head?_exponentText c hc).1
  | some ds =>
    obtain rfl : '.' = c := by simpa [hfraction, pointText] using hc
    decide

/-- What follows the sign of a literal does not begin with a sign. -/
theorem head?_unsigned :
    ∀ c ∈ (l.whole ++ (pointText l.fraction ++ exponentText l.exponent)).head?,
      c ≠ '-' ∧ c ≠ '+' := by
  intro c hc
  cases hwhole : l.whole with
  | cons d ds =>
    obtain rfl : d = c := by simpa [hwhole] using hc
    exact ne_sign_of_isDigit (l.whole_isDigits d (by simp [hwhole]))
  | nil =>
    cases hfraction : l.fraction with
    | none => exact absurd (by rw [hwhole, hfraction]; rfl) l.ne_nil
    | some ds =>
      obtain rfl : '.' = c := by simpa [hwhole, hfraction, pointText] using hc
      decide

/-- A literal is read as the number it writes. -/
theorem parse?_text : parse? l.text = some l.decimal := by
  obtain ⟨htake, hdrop⟩ := l.whole_isDigits.span_append l.head?_pointText
  have hpoint := takePoint_append l.fraction_isDigits l.head?_exponentText
  have hexponent : exponent? (exponentText l.exponent) = some l.power :=
    exponent?_eq_some_iff.2 ⟨l.exponent, rfl, rfl⟩
  have hne : ¬(l.whole ++ l.fraction.getD []).isEmpty := by simpa using l.ne_nil
  rw [parse?_eq, text, takeSign_append l.sign l.head?_unsigned]
  -- each part of the text is taken off where the next one begins
  simp only [htake, hdrop, hpoint, hexponent, hne, Option.map_some]
  rfl

end Literal

/-- A text is read as a decimal number just if the grammar has it, and then as the number that it
writes. -/
theorem parse?_eq_some_iff {cs : List Char} {d : Decimal} :
    parse? cs = some d ↔ ∃ l : Literal, l.text = cs ∧ l.decimal = d := by
  constructor
  · intro h
    obtain ⟨s, hnegative, hsign⟩ := exists_sign cs
    obtain ⟨fraction, hdigits, hplaces, hpoint⟩ :=
      exists_point ((takeSign cs).2.dropWhile Char.isDigit)
    simp only [parse?_eq, ← hplaces, Option.ite_none_left_eq_some, Option.map_eq_some_iff] at h
    obtain ⟨hne, e, hexponent, rfl⟩ := h
    obtain ⟨exponent, htext, rfl⟩ := exponent?_eq_some_iff.1 hexponent
    refine ⟨⟨s, (takeSign cs).2.takeWhile Char.isDigit, fraction, exponent, isDigits_takeWhile _,
      hdigits, by simpa using hne⟩, ?_, ?_⟩
    · rw [Literal.text, htext, hpoint, List.takeWhile_append_dropWhile, hsign]
    · rw [Literal.decimal, hnegative]
      rfl
  · rintro ⟨l, rfl, rfl⟩
    exact l.parse?_text

/-! ### Whole numbers -/

namespace Literal

variable {l m : Literal}

/-- What a literal writes is a matter of its text. -/
theorem value_eq_of_text_eq (h : l.text = m.text) : l.value = m.value := by
  have hdecimal : some l.decimal = some m.decimal := by
    rw [← l.parse?_text, ← m.parse?_text, h]
  rw [← l.value_decimal, ← m.value_decimal, Option.some.inj hdecimal]

/-- Digits with an optional sign are a decimal number. -/
def ofNumeral (i : Numeral) : Literal where
  sign := i.sign
  whole := i.digits
  fraction := none
  exponent := none
  whole_isDigits := i.isDigits
  fraction_isDigits := nofun
  ne_nil := by simpa using i.ne_nil

@[simp] theorem text_ofNumeral (i : Numeral) : (ofNumeral i).text = i.text := by
  simp [text, ofNumeral, pointText, exponentText, Numeral.text]

@[simp] theorem value_ofNumeral (i : Numeral) : (ofNumeral i).value = i.value := by
  unfold value Numeral.value
  cases h : i.sign.negative <;> simp [ofNumeral, places, power, signed, natural, h]

theorem IsWhole.exists_ofNumeral (h : l.IsWhole) : ∃ i, ofNumeral i = l := by
  obtain ⟨sign, whole, fraction, exponent, hwhole, hfraction, hne⟩ := l
  obtain ⟨rfl, rfl⟩ := h
  exact ⟨⟨sign, whole, hwhole, by simpa using hne⟩, rfl⟩

/-- A number is written without point and exponent just if neither occurs in its text. -/
theorem isWhole_iff : l.IsWhole ↔ ∀ c ∈ l.text, c ≠ '.' ∧ c ≠ 'e' ∧ c ≠ 'E' := by
  constructor
  · intro h
    obtain ⟨i, rfl⟩ := h.exists_ofNumeral
    intro c hc
    rw [text_ofNumeral, Numeral.text, List.mem_append] at hc
    obtain hsign | hdigit := hc
    · cases hs : i.sign <;> simp [hs, Sign.text] at hsign <;> subst hsign <;> decide
    · have := i.isDigits c hdigit
      refine ⟨?_, ?_, ?_⟩ <;> rintro rfl <;> exact absurd this (by decide)
  · intro h
    constructor
    · cases hfraction : l.fraction with
      | none => rfl
      | some ds => exact absurd rfl (h '.' (by simp [text, hfraction, pointText])).1
    · cases hexponent : l.exponent with
      | none => rfl
      | some e =>
        have hmark := (h e.mark (by simp [text, hexponent, exponentText])).2
        exact absurd e.isMark (not_or.2 hmark)

/-- A literal is read as an integer just if it is written without point and exponent. -/
theorem integer?_text_eq_some_iff (l : Literal) {n : ℤ} :
    integer? l.text = some n ↔ l.IsWhole ∧ l.value = n := by
  rw [integer?_eq_some_iff]
  constructor
  · -- the numeral that is read and the literal have one text, so neither has a point
    rintro ⟨i, htext, rfl⟩
    rw [← text_ofNumeral] at htext
    refine ⟨?_, by rw [← value_eq_of_text_eq htext, value_ofNumeral]⟩
    rw [isWhole_iff, ← htext, ← isWhole_iff]
    exact ⟨rfl, rfl⟩
  · rintro ⟨hwhole, hvalue⟩
    obtain ⟨i, rfl⟩ := hwhole.exists_ofNumeral
    rw [value_ofNumeral] at hvalue
    exact ⟨i, (text_ofNumeral i).symm, by exact_mod_cast hvalue⟩

end Literal

/-! ### Texts with blanks -/

/-- A text writes a number, blanks around it aside. -/
def Writes (s : String) (v : ℚ) : Prop :=
  ∃ l : Literal, l.text = Text.trim s.toList ∧ l.value = v

/-- A literal in a text is all that the text writes. -/
theorem writes_iff {s : String} {l : Literal} {v : ℚ} (h : l.text = Text.trim s.toList) :
    Writes s v ↔ l.value = v := by
  constructor
  · rintro ⟨m, hm, rfl⟩
    exact Literal.value_eq_of_text_eq (h.trans hm.symm)
  · intro hv
    exact ⟨l, h, hv⟩

end PropertyFilter.Decimal
