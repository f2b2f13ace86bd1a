import PropertyFilter.Proofs.Double.Text
import PropertyFilter.Proofs.Plan
import PropertyFilter.Proofs.TypedValues.Decimal
import PropertyFilter.Proofs.TypedValues.Integer

/-!
# Values that are given again

The values of a request are kept as values of a type, and these are texts, integers or a truth
value. If they are given once more, in any scalars that restate them, then they are kept just as
they are: whatever is kept is in the language of the texts that are taken, and the reading of such
a text changes nothing about it.

## Main definitions

* `TypedValues.singles` — kept values, one by one
* `Scalar.Restates` — a scalar gives a kept value again
* `TypedValues.KeptAs` — what is kept of values is kept for good, in the same places

## Main results

* `Text.trim_literal` — a decimal number has no blanks around it
* `TypedValues.ofScalars_eq_ok_iff_singles` — several values are kept just as each is alone
* `TypedValues.ofScalars_of_restates` — a single value that is given again is kept as it was
* `TypedValues.keptAs_of_ofScalars` — all of this holds of whatever is kept
-/

namespace PropertyFilter

open Decimal (Literal)

/-! ### Blanks around texts -/

namespace Text

variable {cs : List Char}

/-- A text without any blank characters has none at its ends. -/
theorem trim_eq_self (h : ∀ c ∈ cs, ¬isBlank c) : trim cs = cs := by
  have hstop {ds : List Char} (hds : ∀ c ∈ ds, ¬isBlank c) : ds.dropWhile isBlank = ds := by
    cases ds with
    | nil => rfl
    | cons c ds => exact List.dropWhile_cons_of_neg (hds c List.mem_cons_self)
  -- the same holds from behind
  have hreverse : ∀ c ∈ cs.reverse, ¬isBlank c := fun c hc => h c (List.mem_reverse.1 hc)
  rw [trim, hstop h, hstop hreverse, List.reverse_reverse]

/-- The characters that decimal numbers are made of are not blank. -/
theorem not_isBlank_of_isPlainChar {c : Char} (h : Decimal.isPlainChar c) : ¬isBlank c := by
  simp only [Decimal.isPlainChar, Bool.or_eq_true, decide_eq_true_eq, Decimal.isDigit_iff] at h
  obtain ((((hdigit | rfl) | rfl) | rfl) | rfl) | rfl := h
  · have hall : ['0', '1', '2', '3', '4', '5', '6', '7', '8', '9'].all (!isBlank ·) := by decide
    simpa using List.all_eq_true.1 hall c hdigit
  all_goals decide

/-- A decimal number has no blanks around it. -/
theorem trim_literal (l : Literal) : trim l.text = l.text := by
  have hplain := (Bool.and_eq_true_iff.1 (Decimal.isPlain_text l)).2
  exact trim_eq_self fun c hc => not_isBlank_of_isPlainChar (List.all_eq_true.1 hplain c hc)

end Text

/-! ### Single values -/

/-- The values one by one. -/
def TypedValues.singles : TypedValues → List TypedValues
  | strings values => values.map fun s => strings [s]
  | ints values => values.map fun n => ints [n]
  | floats values => values.map fun t => floats [t]
  | bool value => [bool value]

namespace Scalar

/-- A scalar gives a single value again that has been kept. -/
inductive Restates : Scalar → TypedValues → Prop
  | string (s : String) : Restates (text s) (.strings [s])
  | integer (n : Int64) : Restates (int n) (.ints [n])
  | digits (n : Int64) : Restates (text (toString n.toInt)) (.ints [n])
  | literal (t : String) : Restates (text t) (.floats [t])
  | truth (b : Bool) : Restates (bool b) (.bool b)
  | wordTrue : Restates (text "true") (.bool true)
  | wordFalse : Restates (text "false") (.bool false)

variable {v : Scalar} {t : String}

/-- An integer is written as a decimal number in digits alone. -/
theorem exists_literal_int (n : Int64) : ∃ l : Literal, l.text = (toString n.toInt).toList ∧
    l.IsWhole ∧ l.value = n.toInt :=
  ⟨.ofNumeral (.ofInt n.toInt), by rw [Literal.text_ofNumeral, Decimal.Numeral.text_ofInt],
    ⟨rfl, rfl⟩, by rw [Literal.value_ofNumeral, Decimal.Numeral.value_ofInt]⟩

/-- The digits of an integer are read as that integer. -/
theorem toInteger?_digits (n : Int64) : (text (toString n.toInt)).toInteger? = some n := by
  obtain ⟨l, hl, hwhole, hvalue⟩ := exists_literal_int n
  have htrim : l.text = Text.trim (toString n.toInt).toList := by rw [← hl, Text.trim_literal]
  exact (toInteger?_text_eq_some_iff htrim).2 (.inl ⟨hwhole, hvalue⟩)

/-- Whatever is kept as a decimal number is the text of one, without blanks around it. -/
theorem exists_literal_of_toDecimalText? (h : v.toDecimalText? = some t) :
    ∃ l : Literal, l.text = t.toList ∧ |l.value| < Double.limit := by
  cases v with
  | bool b => cases h
  | int n =>
    obtain rfl := Option.some.inj h
    obtain ⟨l, hl, -, hvalue⟩ := exists_literal_int n
    exact ⟨l, hl, IsInt64.abs_lt_limit ⟨n, hvalue⟩⟩
  | float x =>
    obtain ⟨y, -, rfl⟩ := Option.map_eq_some_iff.1 h
    obtain ⟨l, hl, -, hround, -⟩ := y.exists_literal_text_marked
    exact ⟨l, hl, hround.lt_limit⟩
  | text s =>
    obtain ⟨⟨l, hl, hlt⟩, rfl⟩ := toDecimalText?_text_eq_some_iff.1 h
    exact ⟨l, by rw [hl, String.toList_ofList], hlt⟩

/-- A text that is kept as a decimal number is kept again, as it is. -/
theorem toDecimalText?_toDecimalText? (h : v.toDecimalText? = some t) :
    (text t).toDecimalText? = some t := by
  obtain ⟨l, hl, hlt⟩ := exists_literal_of_toDecimalText? h
  -- no blanks are left to be taken away
  have htrim : Text.trim t.toList = t.toList := by rw [← hl, Text.trim_literal]
  rw [toDecimalText?_text_eq_some_iff, htrim, String.ofList_toList]
  exact ⟨⟨l, hl, hlt⟩, rfl⟩

end Scalar

/-! ### Several values -/

namespace TypedValues

variable {kind : PropertyType} {values again : List Scalar} {typed one : TypedValues}
  {v w : Scalar}

/-- Texts are kept as they are displayed. -/
theorem ofScalars_string_eq_ok_iff {texts : List String} (h : values ≠ []) :
    ofScalars .string values = .ok (.strings texts) ↔
      List.Forall₂ (fun v s => some v.display = some s) values texts := by
  obtain ⟨v, vs, rfl⟩ := List.exists_cons_of_ne_nil h
  simp only [ofScalars, Except.ok.injEq, strings.injEq, Option.some.injEq]
  rw [← List.forall₂_map_left_iff, List.forall₂_eq_eq_eq]

/-- Values that are read one by one are kept just as each is alone. -/
theorem ofScalars_eq_ok_iff_of_forall₂ {α : Type} {wrap : List α → TypedValues}
    {read : Scalar → Option α} {elements : List α}
    (hread : ∀ {vs : List Scalar} {as : List α}, vs ≠ [] →
      (ofScalars kind vs = .ok (wrap as) ↔ List.Forall₂ (fun v a => read v = some a) vs as))
    (hsingles : (wrap elements).singles = elements.map fun a => wrap [a]) (hne : values ≠ []) :
    ofScalars kind values = .ok (wrap elements) ↔
      List.Forall₂ (fun v one => ofScalars kind [v] = .ok one) values (wrap elements).singles := by
  have hone (v : Scalar) (a : α) : ofScalars kind [v] = .ok (wrap [a]) ↔ read v = some a := by
    rw [hread (List.cons_ne_nil v []), List.forall₂_cons, and_iff_left .nil]
  rw [hread hne, hsingles, List.forall₂_map_right_iff]
  simp only [hone]

theorem ne_nil_of_ofScalars (h : ofScalars kind values = .ok typed) : values ≠ [] := by
  rintro rfl
  cases h

/-- Several values are kept just as each is alone. Of truth values only one is kept. -/
theorem ofScalars_eq_ok_iff_singles (hkind : typed.kind ≠ .bool) (hne : values ≠ []) :
    ofScalars typed.kind values = .ok typed ↔
      List.Forall₂ (fun v one => ofScalars typed.kind [v] = .ok one) values typed.singles := by
  cases typed with
  | strings texts => exact ofScalars_eq_ok_iff_of_forall₂ ofScalars_string_eq_ok_iff rfl hne
  | ints numbers => exact ofScalars_eq_ok_iff_of_forall₂ ofScalars_int_eq_ok_iff rfl hne
  | floats literals => exact ofScalars_eq_ok_iff_of_forall₂ ofScalars_float_eq_ok_iff rfl hne
  | bool b => exact absurd rfl hkind

/-- A single value that is given again is kept as it was. -/
theorem ofScalars_of_restates (h : ofScalars kind [v] = .ok one) (hw : w.Restates one) :
    ofScalars kind [w] = .ok one := by
  obtain rfl := kind_of_ofScalars h
  cases hw with
  | string s => rfl
  | integer n => rfl
  | digits n =>
    exact (ofScalars_int_eq_ok_iff (List.cons_ne_nil _ _)).2
      (.cons (Scalar.toInteger?_digits n) .nil)
  | literal t =>
    have hv := (List.forall₂_cons.1 ((ofScalars_float_eq_ok_iff (List.cons_ne_nil _ _)).1 h)).1
    exact (ofScalars_float_eq_ok_iff (List.cons_ne_nil _ _)).2
      (.cons (Scalar.toDecimalText?_toDecimalText? hv) .nil)
  | truth b => rfl
  | wordTrue => rfl
  | wordFalse => rfl

/-- Values that are given again are kept as they were, each in its place. -/
theorem ofScalars_of_forall₂_restates (h : ofScalars typed.kind values = .ok typed)
    (hkind : typed.kind ≠ .bool) (hagain : List.Forall₂ Scalar.Restates again typed.singles) :
    ofScalars typed.kind again = .ok typed := by
  have hne : values ≠ [] := ne_nil_of_ofScalars h
  have hplaces := (ofScalars_eq_ok_iff_singles hkind hne).1 h
  -- each kept value is what a single value has been kept as
  have hkept := Text.exists_mem_of_forall₂ hplaces.flip
  have hne' : again ≠ [] := by
    rintro rfl
    rw [List.forall₂_nil_left_iff.1 hagain, List.forall₂_nil_right_iff] at hplaces
    exact hne hplaces
  have hboth := ((List.forall₂_and_left _ _).2 ⟨hkept, hagain.flip⟩).flip
  refine (ofScalars_eq_ok_iff_singles hkind hne').2 (hboth.imp ?_)
  rintro w one ⟨⟨v, -, hv⟩, hw⟩
  exact ofScalars_of_restates hv hw

/-- The marked text of a double is a decimal number that is kept as it is. -/
theorem ofScalars_text_marked (x : Double) : ofScalars .float [.text (x.text Double.marked)] =
    .ok (floats [x.text Double.marked]) :=
  ofScalars_of_restates (v := .float x) rfl (.literal _)

/-- What is kept of values is kept for good, and in the same places. -/
structure KeptAs (kind : PropertyType) (values : List Scalar) (typed : TypedValues) : Prop where
  /-- Scalars that give the kept values again are kept in the same way. -/
  restated : ∀ again, List.Forall₂ Scalar.Restates again typed.singles →
    ofScalars kind again = .ok typed
  /-- Each value is kept as it would be alone. Of truth values only one is kept. -/
  places : kind ≠ .bool →
    List.Forall₂ (fun v one => ofScalars kind [v] = .ok one) values typed.singles
  /-- A double is kept as its marked text, which is a decimal number that is kept as it is. -/
  doubles : kind = .float → List.Forall₂ (fun v one => ∀ x, v = .float x →
    one = floats [x.text Double.marked] ∧
      ofScalars .float [.text (x.text Double.marked)] = .ok one) values typed.singles

/-- Whatever is kept is kept for good. -/
theorem keptAs_of_ofScalars (h : ofScalars kind values = .ok typed) :
    KeptAs kind values typed := by
  have hne : values ≠ [] := ne_nil_of_ofScalars h
  obtain rfl := kind_of_ofScalars h
  by_cases hbool : typed.kind = .bool
  · refine ⟨fun again hagain => ?_, fun hkind => absurd hbool hkind, fun hfloat => ?_⟩
    · cases typed with
      | bool b =>
        obtain ⟨first, rest, rfl⟩ := List.exists_cons_of_ne_nil hne
        obtain ⟨w, _, hw, hnil, rfl⟩ := List.forall₂_cons_right_iff.1 hagain
        obtain rfl := List.forall₂_nil_right_iff.1 hnil
        -- the first of several truth values is the one that is kept
        have hfirst : ofScalars .bool [first] = .ok (.bool b) := h
        exact ofScalars_of_restates hfirst hw
      | _ => cases hbool
    · rw [hbool] at hfloat
      cases hfloat
  · have hplaces := (ofScalars_eq_ok_iff_singles hbool hne).1 h
    refine ⟨fun again => ofScalars_of_forall₂_restates h hbool, fun _ => hplaces, fun hfloat => ?_⟩
    refine hplaces.imp ?_
    rintro _ one hone x rfl
    rw [hfloat] at hone
    cases x with
    | finite x =>
      -- alone, a double is kept as its marked text
      obtain rfl : one = floats [x.text Double.marked] := (Except.ok.inj hone).symm
      exact ⟨rfl, ofScalars_text_marked x⟩
    | infinite _ => cases hone
    | notANumber => cases hone

/-- A number with blanks around it, an integer and a negative zero are kept as three texts, and
these are kept as they are. -/
theorem keptAs_numbers :
    ofScalars .float [.text "\t+01.50 ", .int Int64.minValue, .float (Double.zero true)] =
        .ok (floats ["+01.50", "-9223372036854775808", "-0.0"]) ∧
      KeptAs .float [.text "\t+01.50 ", .int Int64.minValue, .float (Double.zero true)]
        (floats ["+01.50", "-9223372036854775808", "-0.0"]) := by
  have h : ofScalars .float [.text "\t+01.50 ", .int Int64.minValue, .float (Double.zero true)] =
      .ok (floats ["+01.50", "-9223372036854775808", "-0.0"]) := rfl
  exact ⟨h, keptAs_of_ofScalars h⟩

end TypedValues

end PropertyFilter
