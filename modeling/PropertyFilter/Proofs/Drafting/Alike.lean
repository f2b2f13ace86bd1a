import PropertyFilter.Proofs.Draft.Alike
import PropertyFilter.Proofs.Drafting

/-!
# Values stay out of the text of programs

Two requests for the same properties that are applied step by step, each on its own copy of a
draft. If each property is applied with equally many parameters, then the two drafts that are left
have the same text, whatever the values are, and so they have where a request fails on its way.

## Main definitions

* `Drafting.paramCount?` — with how many parameters a filter is applied
* `Drafting.AlikeResults` — results that differ in nothing but values and reasons

## Main results

* `Draft.AlikeResult.after` — where functions fail alike, programs leave drafts that are alike
* `Drafting.alike_apply` — requests that are applied alike leave one text
-/

namespace PropertyFilter

/-- Results that failed for one reason, or are related. -/
inductive Drafting.AlikeResults {α : Type} (R : α → α → Prop) :
    Except FilterError α → Except FilterError α → Prop where
  | error (err : FilterError) : AlikeResults R (.error err) (.error err)
  | ok {a b : α} (h : R a b) : AlikeResults R (.ok a) (.ok b)

/-- Programs that do what functions say leave alike drafts behind, also where they fail. -/
theorem Draft.AlikeResult.after {α : Type} {R : α → α → Prop} {d e : Draft}
    {x y : Except FilterError (α × Draft)} (h : AlikeResult R x y) (hdrafts : d.Alike e) :
    (d.after x).2.Alike (e.after y).2 ∧ Drafting.AlikeResults R (d.after x).1 (e.after y).1 := by
  cases h with
  | error err => exact ⟨hdrafts, .error err⟩
  | ok hvalues hleft => exact ⟨hleft, .ok hvalues⟩

namespace Drafting

variable {s : FilterSet} {schema : Schema} {d e : Draft} {property : String}

/-- With how many parameters a filter is applied, if it is applied. -/
def paramCount? : Except FilterError Outcome → Option Nat
  | .ok o => o.predicate?.map (·.params.length)
  | .error _ => none

/-- An applied filter has one parameter for each value. -/
theorem paramCount?_perform_compile (value : Option RequestValue) :
    paramCount? ((compile s schema property value).perform d).1 =
      s.valueCount? schema d.query.backend d.query.tableAlias property value := by
  unfold FilterSet.valueCount?
  rw [perform_compile, FilterSet.compile_eq_judge]
  cases s.judge schema d.query.backend d.query.tableAlias property value with
  | error err => rfl
  | ok verdict =>
    cases verdict with
    | skipped reason => rfl
    | ignored reason => rfl
    | accepted seed plan => exact congrArg some Draft.length_params_takeUp

/-- Requests for the same properties, whose filters are applied with equally many parameters, leave
drafts with one text and one list of names. Both fail for one reason, or none of them does. -/
theorem alike_apply {r r' : Request} (hquery : d.query = e.query) (hsource : d.names = e.names)
    (hkeys : r.keys = r'.keys)
    (hcount : ∀ property v v', r.get? property = some v → r'.get? property = some v' →
      paramCount? ((compile s schema property (some v)).perform d).1 =
        paramCount? ((compile s schema property (some v')).perform e).1) :
    ∃ result d' result' e', (apply s schema r).perform d = (result, d') ∧
      (apply s schema r').perform e = (result', e') ∧
      d'.Alike e' ∧ (∀ select, d'.query.toSql select = e'.query.toSql select) ∧
      AlikeResults AlikeOutcomes result result' := by
  have hdrafts : d.Alike e := .of_eq hquery hsource
  -- the counts are asked for in the first drafts, and hold in all that follow
  have hresult : Draft.AlikeResult AlikeOutcomes (s.apply schema d r) (s.apply schema e r') := by
    refine FilterSet.alikeResult_apply hdrafts hkeys fun property v v' hv hv' => ?_
    have hcounts := hcount property v v' hv hv'
    rwa [paramCount?_perform_compile, paramCount?_perform_compile, ← hquery] at hcounts
  obtain ⟨hleft, hresults⟩ := hresult.after hdrafts
  rw [← perform_apply, ← perform_apply] at hleft hresults
  exact ⟨_, _, _, _, rfl, rfl, hleft, hleft.toSql_eq, hresults⟩

/-- One of two requests tries to end the statement. -/
theorem alike_apply_semicolon : ∃ s,
    FilterSet.ofEntries [("data.name", ⟨none, none, false⟩)] = .ok s ∧
    ∃ result d' result' e',
      (apply s ⟨"items", "i", .ofList [("data", .json)]⟩
        (.ofList [("data.name", .one (.text "a"))])).perform (Draft.new "items" "i" .postgres) =
          (result, d') ∧
      (apply s ⟨"items", "i", .ofList [("data", .json)]⟩
        (.ofList [("data.name", .one (.text "'; DROP TABLE items; --"))])).perform
          (Draft.new "items" "i" .postgres) = (result', e') ∧
      d'.Alike e' ∧ (∀ select, d'.query.toSql select = e'.query.toSql select) ∧
      AlikeResults AlikeOutcomes result result' := by
  obtain ⟨s, hs⟩ : ∃ s, FilterSet.ofEntries [("data.name", ⟨none, none, false⟩)] = .ok s := ⟨_, rfl⟩
  refine ⟨s, hs, alike_apply rfl rfl rfl ?_⟩
  intro property v v' hv hv'
  have hmem := (SortedMap.mem_toList_iff _).2 hv
  have hmem' := (SortedMap.mem_toList_iff _).2 hv'
  obtain ⟨rfl, rfl⟩ := Prod.mk.inj (List.mem_singleton.1 hmem)
  obtain ⟨-, rfl⟩ := Prod.mk.inj (List.mem_singleton.1 hmem')
  obtain rfl := Except.ok.inj hs
  rw [paramCount?_perform_compile, paramCount?_perform_compile]
  rfl

end Drafting

end PropertyFilter
