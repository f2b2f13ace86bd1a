import PropertyFilter.Proofs.Query.Tokens
import PropertyFilter.Proofs.Settings

/-!
# Safe texts

No settings that pass the check and no request can make a query say anything else than what its
conditions say: the literals in its text hold patterns and paths, and outside them there is
nothing that could end a statement, start a comment or quote a name.

## Main definitions

* `Sql.Token.IsSafe`, `Sql.IsSafeText` — texts whose literals are closed and known

## Main results

* `Sql.Token.isSafe_of_isFixed` — the tokens beside the operands are safe
* `Settings.isSafeText_compile` — the text of every compiled request is safe
-/

namespace PropertyFilter

open Sql

/-! ### Safe tokens -/

namespace Sql

/-- A token that is safe: a literal holds a part of a pattern, the escape character or the keys
of a path, and outside literals there are word characters and a few marks. -/
def Token.IsSafe : Token → Prop
  | literal content => content ∈ ["%", "% ", "\\"] ∨ ∃ segments : List String,
      segments ≠ [] ∧ (∀ s ∈ segments, isKeySegment s) ∧
        content = "\x7b" ++ String.intercalate "," segments ++ "\x7d"
  | unclosed _ => False
  | t => ∀ c ∈ t.text, Text.isWord c ∨ c ∈ " .,()=#>:$*".toList

/-- A text whose tokens are safe. -/
def IsSafeText (text : String) : Prop := ∀ t ∈ scan text.toList, t.IsSafe

namespace Token

/-- A token other than a literal is safe if its characters are. -/
theorem isSafe_word {w : String} (h : (word w).isProper) : (word w).IsSafe := by
  simp only [isProper, Bool.and_eq_true, List.all_eq_true] at h
  exact fun c hc => .inl (h.2 c hc)

theorem isSafe_mark {c : Char} (h : c ∈ " .,()=#>:$*".toList) : (mark c).IsSafe := by
  intro d hd
  obtain rfl : c = d := by simpa [eq_comm] using hd
  exact .inr h

theorem isSafe_position (n : Nat) : (position (toString n)).IsSafe := by
  have hproper := Placeholder.isProper_position n
  simp only [isProper, Bool.and_eq_true, List.all_eq_true] at hproper
  intro c hc
  -- the sign of the position, or a digit
  rcases List.mem_cons.1 hc with rfl | hc
  · exact .inr (by decide)
  · exact .inl (isWord_of_isDigit (hproper.2 c hc))

/-- The keys of a safe path make a safe literal. -/
theorem isSafe_path {path : KeyPath} (h : path.IsSafe) :
    (literal ("\x7b" ++ path.key ++ "\x7d")).IsSafe := by
  refine .inr ⟨path.segments, ?_, h.segments, by rw [path.intercalate_segments]⟩
  simp [KeyPath.segments]

/-- The tokens beside the operands are safe. -/
theorem isSafe_of_isFixed {t : Token} (ht : t.isProper) (h : t.IsFixed) : t.IsSafe := by
  cases h with
  | word w => exact isSafe_word ht
  | mark c hc =>
    have hmarks : [' ', '.', ',', '(', ')', '=', '#', '>'] ⊆ " .,()=#>:$*".toList := by simp
    exact isSafe_mark (hmarks hc)
  | text =>
    have htext : (cast "TEXT").text.all fun c => Text.isWord c || c == ':' := by decide
    intro c hc
    rcases Bool.or_eq_true_iff.1 (List.all_eq_true.1 htext c hc) with hword | hcolon
    · exact .inl hword
    · rw [beq_iff_eq.1 hcolon]
      exact .inr (by decide)
  | wildcard content hcontent => exact .inl hcontent
  | path path hpath => exact isSafe_path hpath

end Token

end Sql

/-! ### Safe texts of drafts -/

namespace Draft.Built

variable {d : Draft} {conditions : List (Condition String)}

/-- The text of a draft that was built from nothing is safe. -/
theorem isSafeText (hd : d.Built conditions) (ht : isIdentifier d.query.table)
    (ha : isIdentifier d.query.tableAlias) {select : String} {selected : List Token}
    (hselected : Spaced selected) (hselect : select.toList = written selected)
    (hsafe : ∀ t ∈ selected, t.IsSafe) : IsSafeText (d.query.toSql select) := by
  have hblank : (Token.mark ' ').IsSafe := Token.isSafe_mark (by decide)
  have htable := Token.isSafe_word (isProper_word ht)
  have halias := Token.isSafe_word (isProper_word ha)
  have hword {w : String} (hw : (Token.word w).isProper) : ∀ t ∈ spacedWord w, t.IsSafe := by
    simp [spacedWord, hblank, Token.isSafe_word hw]
  have hclause : ∀ t ∈ d.query.filledTokens conditions, t.IsSafe :=
    hd.forall_mem_filledTokens ha (fun t => Token.isSafe_of_isFixed) fun k _ _ =>
      Token.isSafe_position k
  rw [IsSafeText, hd.scan_toSql ht ha hselected hselect, List.forall_mem_append]
  constructor
  · simp only [Query.headTokens, List.forall_mem_cons, List.cons_append, List.forall_mem_append]
    exact ⟨Token.isSafe_word (by decide), hblank, ⟨hsafe, hword (by decide)⟩, htable, hblank,
      halias, by simp⟩
  · split
    · simp
    · rw [List.forall_mem_append]
      exact ⟨hword (by decide), hclause⟩

end Draft.Built

/-! ### Safe texts of requests -/

/-- Compiling a request builds a draft on the table of the resource. -/
theorem Resource.exists_built_compile {r : Resource} (h : r.IsSafe)
    (pairs : List (String × String)) : ∃ draft report conditions,
    r.compile pairs = .ok (draft, report) ∧ draft.Built conditions ∧
      draft.query.table = r.schema.table ∧ draft.query.tableAlias = r.schema.tableAlias := by
  obtain ⟨outcomes, draft, happly⟩ :=
    r.filters.exists_applyEach_new_eq_ok r.schema (Request.ofPairs pairs).toList
  have hsteps := FilterSet.reflTransGen_applyEach happly
  obtain ⟨conditions, hbuilt⟩ := (Draft.built_new _ _ _).reflTransGen h.filters hsteps
  obtain ⟨htable, halias, -⟩ := Draft.frame_of_reflTransGen hsteps
  obtain ⟨report, hcompile⟩ : ∃ report, r.compile pairs = .ok (draft, report) := by
    rw [compile, FilterSet.apply, happly]
    exact ⟨_, rfl⟩
  exact ⟨draft, report, conditions, hcompile, hbuilt, htable, halias⟩

/-- The text of every compiled request is safe, whatever the settings say that pass the check
and whatever the request asks for. -/
theorem Settings.isSafeText_compile {file : SettingsFile} {url : Option String}
    {settings : Settings} {name : String} {r : Resource} (h : ofFile file url = .ok settings)
    (hr : settings.resource name = .ok r) (pairs : List (String × String)) :
    ∃ draft report, r.compile pairs = .ok (draft, report) ∧
      ∀ select ∈ ["*", "COUNT(*)"], IsSafeText (draft.query.toSql select) := by
  have hsafe := isSafe_of_ofFile h hr
  obtain ⟨draft, report, conditions, hcompile, hbuilt, htable, halias⟩ :=
    Resource.exists_built_compile hsafe pairs
  have htext {select : String} (selected : List Token) (hselected : Spaced selected)
      (hselect : select.toList = written selected) (hall : ∀ t ∈ selected, t.IsSafe) :
      IsSafeText (draft.query.toSql select) :=
    hbuilt.isSafeText (htable ▸ hsafe.table) (halias ▸ hsafe.tableAlias) hselected hselect hall
  have hmark {c : Char} (hc : c ∈ " .,()=#>:$*".toList) := Token.isSafe_mark hc
  -- what is selected is written with safe tokens in both cases
  refine ⟨draft, report, hcompile, ?_⟩
  simp only [List.forall_mem_cons]
  refine ⟨?_, ?_, by simp⟩
  · exact htext [.mark '*'] (by decide) rfl (by simpa using hmark (by decide))
  · refine htext [.word "COUNT", .mark '(', .mark '*', .mark ')'] (by decide) rfl ?_
    simp only [List.forall_mem_cons]
    exact ⟨Token.isSafe_word (by decide), hmark (by decide), hmark (by decide),
      hmark (by decide), by simp⟩

/-- A request that tries to end the statement. -/
theorem Settings.isSafeText_compile_semicolon : ∃ settings r,
    ofFile ⟨none, .ofList [("items", ⟨⟨"items", "i", .ofList [("data", .json)]⟩,
      .ofList [("data.name", ⟨none, some "start", false⟩)]⟩)], .null⟩ none = .ok settings ∧
    settings.resource "items" = .ok r ∧
    ∃ draft report, r.compile [("data.name", "'; DROP TABLE items; --")] = .ok (draft, report) ∧
      ∀ select ∈ ["*", "COUNT(*)"], IsSafeText (draft.query.toSql select) := by
  have h : ofFile ⟨none, .ofList [("items", ⟨⟨"items", "i", .ofList [("data", .json)]⟩,
      .ofList [("data.name", ⟨none, some "start", false⟩)]⟩)], .null⟩ none = .ok _ := rfl
  have hsafe {r : Resource} (hr : resource _ "items" = .ok r) := isSafeText_compile h hr
  exact ⟨_, _, h, rfl, hsafe rfl _⟩

end PropertyFilter
