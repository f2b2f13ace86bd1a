import PropertyFilter.Proofs.Drafting.Precedence
import PropertyFilter.Proofs.Json.Number

/-!
# JSON numbers as decimal values

For a property that holds decimal numbers, a JSON number is bound as the text of what is read from
it: an integer of 64 bits, or a double. Which double that is depends on the reader of the literals,
which is not fixed here; of the reader it is only asked that it reads the integers. Whatever it
reads, the text that is bound is the one of the JSON number itself just if the number is spelled as
integers are, or as the double is written that is read from it.

## Main definitions

* `Json.items` — the values of a JSON value, which may be a list
* `Json.BindsText` — what is bound for a number or a text

## Main results

* `Drafting.binds_numbers` — what is bound for JSON numbers, and when it is their own text
-/

namespace PropertyFilter

open Decimal (Literal)

/-! ### What is bound for JSON values -/

namespace Json

/-- The values of a JSON value: those of a list, or the value itself. -/
def items : Json → List Json
  | array items => items
  | j => [j]

/-- A text is what a decimal number is bound as: for a number the text of the integer or of the
double that is read from it, which is its own just if it is spelled like an integer or like that
double, and for a text the literal that it holds. -/
def BindsText (read : Number.Reader) : Json → String → Prop
  | number literal, bound => ∃ n, read literal = some n ∧ bound = n.text ∧
      (bound = literal ↔ (∃ i : Int64, literal = toString i.toInt) ∨
        ∃ x, read literal = some (.double x) ∧ literal = x.text Double.marked)
  | text s, bound => ∃ l : Literal, l.text = Text.trim s.toList ∧ bound.toList = l.text
  | _, _ => False

variable {read : Number.Reader}

/-- Values of a JSON value that are read as scalars. -/
theorem forall₂_items {j : Json} {value : RequestValue}
    (h : RequestValue.ofJsonWith? read j = some value) :
    List.Forall₂ (fun item v => Scalar.ofJsonWith? read item = some v) j.items value.toList := by
  have hone {j : Json} (h : (Scalar.ofJsonWith? read j).map RequestValue.one = some value) :
      List.Forall₂ (fun item v => Scalar.ofJsonWith? read item = some v) [j] value.toList := by
    obtain ⟨v, hv, rfl⟩ := Option.map_eq_some_iff.1 h
    exact .cons hv .nil
  cases j with
  | array items =>
    obtain ⟨vs, hvs, rfl⟩ := Option.map_eq_some_iff.1 h
    exact Text.mapM_eq_some_iff.1 hvs
  | _ => exact hone h

/-- What is bound for a scalar that a JSON value writes. -/
theorem bindsText_of_toDecimalText? (hread : Number.ReadsIntegers read) {item : Json} {v : Scalar}
    {t : String} (hv : Scalar.ofJsonWith? read item = some v) (ht : v.toDecimalText? = some t) :
    item.BindsText read t := by
  cases item with
  | number literal =>
    obtain ⟨n, hn, rfl⟩ := Option.map_eq_some_iff.1 hv
    have htext : t = n.text := by cases n <;> exact (Option.some.inj ht).symm
    exact ⟨n, hn, htext, htext ▸ Number.text_eq_iff hread hn⟩
  | text s =>
    obtain rfl := Option.some.inj hv
    obtain ⟨⟨l, hl, -⟩, rfl⟩ := Scalar.toDecimalText?_text_eq_some_iff.1 ht
    exact ⟨l, hl, by rw [String.toList_ofList, hl]⟩
  | bool b =>
    obtain rfl := Option.some.inj hv
    cases ht
  | _ => cases hv

end Json

/-- The plan of decimal numbers binds their texts. -/
theorem Plan.values_of_plan_float {p : Property} {tableAlias : String} {value : RequestValue}
    {plan : Plan} (hkind : p.kind = .float) (h : p.plan tableAlias value = .ok plan) :
    ∃ texts : List String, plan.values = texts.map .float ∧
      List.Forall₂ (fun v t => v.toDecimalText? = some t) value.toList texts := by
  obtain ⟨strategy, values, -, hvalues, hplan⟩ := Property.plan_eq_ok_iff.1 h
  have hne : value.toList ≠ [] := by
    intro hnil
    rw [hnil] at hvalues
    cases hvalues
  rw [hkind] at hvalues
  have hkind' := TypedValues.kind_of_ofScalars hvalues
  cases values with
  | floats texts =>
    obtain rfl := Except.ok.inj hplan
    exact ⟨texts, Plan.values_ofNumbers _, (TypedValues.ofScalars_float_eq_ok_iff hne).1 hvalues⟩
  | _ => cases hkind'

namespace Drafting

variable {s : FilterSet} {schema : Schema} {d : Draft} {property : String} {p : Property}
  {j : Json} {value : RequestValue} {predicate : Predicate}

/-- An applied filter has taken up the plan of its property. -/
theorem exists_plan_of_perform_compile (hp : s.get? property = some p)
    (h : ((compile s schema property (some value)).perform d).1 = .ok (.applied predicate)) :
    ∃ plan, p.plan d.query.tableAlias value = .ok plan ∧
      predicate.params.map (·.value) = plan.values := by
  rw [perform_compile] at h
  cases hcompile : s.compile schema d property (some value) with
  | error e =>
    rw [hcompile] at h
    cases h
  | ok result =>
    obtain ⟨o, d'⟩ := result
    rw [hcompile] at h
    obtain rfl : o = .applied predicate := Except.ok.inj h
    obtain ⟨hnone, -⟩ | ⟨seed, plan, hjudge, ho, -⟩ := FilterSet.compile_cases hcompile
    · cases hnone
    · obtain ⟨-, v, p', hv, hp', -, hplan, -⟩ := FilterSet.judge_eq_accepted_iff.1 hjudge
      obtain rfl := Option.some.inj hv
      obtain rfl := Option.some.inj (hp.symm.trans hp')
      obtain rfl := Outcome.applied.inj ho
      exact ⟨plan, hplan, Plan.map_value_params_fill Draft.length_freshNames⟩

/-- For a property that holds decimal numbers, a JSON number is bound as the integer or the double
that is read from it is written, and a JSON text as the literal that it holds. -/
theorem binds_numbers {read : Json.Number.Reader} (hread : Json.Number.ReadsIntegers read)
    (hp : s.get? property = some p) (hkind : p.kind = .float)
    (hvalue : RequestValue.ofJsonWith? read j = some value)
    (happlied : ((compile s schema property (some value)).perform d).1 =
      .ok (.applied predicate)) :
    ∃ texts : List String, predicate.params.map (·.value) = texts.map .float ∧
      List.Forall₂ (Json.BindsText read) j.items texts := by
  obtain ⟨plan, hplan, hparams⟩ := exists_plan_of_perform_compile hp happlied
  obtain ⟨texts, hvalues, htexts⟩ := Plan.values_of_plan_float hkind hplan
  refine ⟨texts, hparams.trans hvalues, ?_⟩
  refine (Text.forall₂_comp (Json.forall₂_items hvalue) htexts).imp ?_
  rintro item t ⟨v, hv, ht⟩
  exact Json.bindsText_of_toDecimalText? hread hv ht

/-- A list of a whole number and of a fraction with a minus sign. -/
theorem binds_numbers_half : ∃ s,
    FilterSet.ofEntries [("config.ratio", ⟨some "float", none, false⟩)] = .ok s ∧
      Json.Number.ReadsIntegers Json.Number.ofLiteral? ∧
      ∃ value predicate, RequestValue.ofJsonWith? Json.Number.ofLiteral?
          (.array [.number "10", .number "-0.5"]) = some value ∧
        ((compile s ⟨"items", "i", .ofList [("config", .jsonb)]⟩ "config.ratio"
          (some value)).perform (Draft.new "items" "i" .postgres)).1 = .ok (.applied predicate) ∧
        ∃ texts : List String, predicate.params.map (·.value) = texts.map .float ∧
          List.Forall₂ (Json.BindsText Json.Number.ofLiteral?) [.number "10", .number "-0.5"]
            texts := by
  let x : Double := ⟨true, 2 ^ 52, -53, by decide⟩
  have hread : RequestValue.ofJsonWith? Json.Number.ofLiteral?
      (.array [.number "10", .number "-0.5"]) = some (.many [.int 10, .float x]) := by
    decide +kernel
  obtain ⟨s, p, predicate, h, hp, hkind, happlied⟩ : ∃ s p predicate,
      FilterSet.ofEntries [("config.ratio", ⟨some "float", none, false⟩)] = .ok s ∧
      s.get? "config.ratio" = some p ∧ p.kind = .float ∧
      ((compile s ⟨"items", "i", .ofList [("config", .jsonb)]⟩ "config.ratio"
        (some (.many [.int 10, .float x]))).perform (Draft.new "items" "i" .postgres)).1 =
          .ok (.applied predicate) :=
    ⟨_, _, _, rfl, rfl, rfl, rfl⟩
  have hintegers := Json.Number.readsIntegers_ofLiteral?
  exact ⟨s, h, hintegers, _, predicate, hread, happlied,
    binds_numbers hintegers hp hkind hread happlied⟩

/-- A single value of a property that holds decimal numbers is bound as its text. -/
theorem exists_perform_compile_float {v : Scalar} {t : String} (hp : s.get? property = some p)
    (hkind : p.kind = .float) {strategy : Strategy} (hstrategy : p.strategy = some strategy)
    (hbackend : d.query.backend.isJsonCapable) (hcolumn : schema.isJsonColumn p.path.column)
    (hv : v.toDecimalText? = some t) : ∃ predicate,
      ((compile s schema property (some (.one v))).perform d).1 = .ok (.applied predicate) ∧
        predicate.params.map (·.value) = [.float t] := by
  have hvalues : TypedValues.ofScalars .float (RequestValue.one v).toList = .ok (.floats [t]) :=
    (TypedValues.ofScalars_float_eq_ok_iff (List.cons_ne_nil _ _)).2 (.cons hv .nil)
  have hplan : p.plan d.query.tableAlias (.one v) = .ok _ :=
    Property.plan_eq_ok_iff.2 ⟨strategy, .floats [t], hstrategy, hkind ▸ hvalues, rfl⟩
  rw [perform_compile_of_isJsonColumn hbackend hp hcolumn, hplan]
  exact ⟨_, rfl, rfl⟩

/-- The number 1.50 is bound as 1.5, and the text as it is. No reader makes a difference here, since
no number is written as 1.50. -/
theorem binds_numbers_zeros : (∀ n : Json.Number, n.text ≠ "1.50") ∧ ∃ s,
    FilterSet.ofEntries [("config.ratio", ⟨some "float", none, false⟩)] = .ok s ∧
      (∃ value predicate, RequestValue.ofJson? (.number "1.50") = some value ∧
        ((compile s ⟨"items", "i", .ofList [("config", .jsonb)]⟩ "config.ratio"
          (some value)).perform (Draft.new "items" "i" .postgres)).1 = .ok (.applied predicate) ∧
        predicate.params.map (·.value) = [.float "1.5"]) ∧
      (∃ value predicate, RequestValue.ofJson? (.text "1.50") = some value ∧
        ((compile s ⟨"items", "i", .ofList [("config", .jsonb)]⟩ "config.ratio"
          (some value)).perform (Draft.new "items" "i" .postgres)).1 = .ok (.applied predicate) ∧
        predicate.params.map (·.value) = [.float "1.50"]) := by
  obtain ⟨s, p, h, hp, hkind, hstrategy, hcolumn⟩ : ∃ s p,
      FilterSet.ofEntries [("config.ratio", ⟨some "float", none, false⟩)] = .ok s ∧
      s.get? "config.ratio" = some p ∧ p.kind = .float ∧ p.strategy = some ⟨.exact, true⟩ ∧
      Schema.isJsonColumn ⟨"items", "i", .ofList [("config", .jsonb)]⟩ p.path.column :=
    ⟨_, _, rfl, rfl, rfl, rfl, rfl⟩
  have hbinds {v : Scalar} {t : String} (hv : v.toDecimalText? = some t) :=
    exists_perform_compile_float (d := Draft.new "items" "i" .postgres) hp hkind hstrategy rfl
      hcolumn hv
  let x : Double := ⟨false, 6755399441055744, -52, by decide⟩
  have hliteral : Json.Number.ofLiteral? "1.50" = some (.double x) := by decide +kernel
  have hread : RequestValue.ofJson? (.number "1.50") = some (.one (.float x)) :=
    congrArg (fun n => (n.map Scalar.ofNumber).map RequestValue.one) hliteral
  have hnumber : (Scalar.float x).toDecimalText? = some "1.5" := by decide +kernel
  have htext : (Scalar.text "1.50").toDecimalText? = some "1.50" := by decide +kernel
  have hspelling (n : Json.Number) : n.text ≠ "1.50" := by
    intro hn
    -- what is written as 1.50 is read from it, and that is written otherwise
    obtain rfl : .double x = n := by
      rw [← Option.some_inj, ← hliteral, ← hn, Json.Number.ofLiteral?_text]
    exact absurd ((Option.some.inj hnumber).symm.trans hn) (by decide)
  obtain ⟨predicate, happlied, hparams⟩ := hbinds hnumber
  obtain ⟨predicate', happlied', hparams'⟩ := hbinds htext
  exact ⟨hspelling, s, h, ⟨_, predicate, hread, happlied, hparams⟩,
    ⟨_, predicate', rfl, happlied', hparams'⟩⟩

end Drafting

end PropertyFilter
