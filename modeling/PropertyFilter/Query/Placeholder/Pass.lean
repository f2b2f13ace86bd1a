import PropertyFilter.Query.Placeholder
import PropertyFilter.SortedMap
import PropertyFilter.Text.Slice

/-!
# A pass over the bytes of a text

Placeholders are put in by one pass over the bytes of a text in UTF-8. The pass keeps the number of
the byte that it looks at, the place up to which the text is written, and whether it is inside a
literal. A colon sends it to the end of the word behind. The text is copied in slices, and there is
no result if a slice would begin or end inside a character.

## Main definitions

* `Placeholder.positions` — the positions of all names
* `Placeholder.wordEnd` — where a word ends
* `Placeholder.Pass` — what the pass keeps
* `Placeholder.Pass.step?` — what becomes of it at a byte
* `Placeholder.pass?` — the text with positions, as the pass writes it

## Main results

* `Pass.index_lt_of_step?` — every step leads on
-/

namespace PropertyFilter.Placeholder

/-- The positions of all names, the first parameter being at one. Of several parameters of one name
the last one counts. -/
def positions (names : List String) : SortedMap Nat :=
  (names.zipIdx 1).foldl (fun m (name, position) => m.insert name position) .empty

/-- The byte of a quote. -/
def quote : UInt8 := '\''.toUInt8

/-- The byte of a colon. -/
def colon : UInt8 := ':'.toUInt8

/-- Whether a byte is a word character. -/
def isWordByte (b : UInt8) : Bool := Text.isWord (Char.ofUInt8 b)

/-- Whether a byte is a digit. -/
def isDigitByte (b : UInt8) : Bool := (Char.ofUInt8 b).isDigit

/-- The number of the first byte from `i` on that is no word character. -/
def wordEnd (bytes : Array UInt8) (i : Nat) : Nat :=
  match h : bytes[i]? with
  | none => i
  | some b =>
    have := (Array.getElem?_eq_some_iff.1 h).1
    if isWordByte b then wordEnd bytes (i + 1) else i
termination_by bytes.size - i

/-- What a pass over the bytes of a text keeps. -/
structure Pass where
  /-- The number of the byte that is looked at. -/
  index : Nat
  /-- The number of bytes that are written, unchanged or replaced. -/
  settled : Nat
  /-- Whether the byte that is looked at is inside a literal. -/
  inLiteral : Bool
  /-- What is written. -/
  written : String

namespace Pass

/-- A pass that has looked at nothing. -/
def start : Pass := ⟨0, 0, false, ""⟩

/-- Goes on to the next byte. -/
def onward (p : Pass) : Pass := { p with index := p.index + 1 }

/-- What becomes of a pass at a colon that may start a name. A bound name makes way for its
position, behind all that was not written yet. -/
def atColon? (positions : SortedMap Nat) (sql : String) (p : Pass) : Option Pass :=
  let bytes := sql.toUTF8.data
  let first := p.index + 1
  let last := wordEnd bytes first
  if first < last && !bytes[first]?.any isDigitByte then
    match Text.slice? sql first last with
    | none => none
    | some name =>
      match positions.get? name with
      | none => some p.onward
      | some position =>
        (Text.slice? sql p.settled p.index).map fun kept =>
          ⟨last, last, p.inLiteral, p.written ++ kept ++ Sql.placeholder position⟩
  else some p.onward

/-- What becomes of a pass at a byte. -/
def step? (positions : SortedMap Nat) (sql : String) (p : Pass) (b : UInt8) : Option Pass :=
  if b = quote then some { p.onward with inLiteral := !p.inLiteral }
  else if !p.inLiteral && b = colon &&
      (p.index = 0 || sql.toUTF8.data[p.index - 1]? != some colon) then
    p.atColon? positions sql
  else some p.onward

variable {positions : SortedMap Nat} {sql : String} {p q : Pass} {b : UInt8}

theorem index_lt_of_atColon? (h : p.atColon? positions sql = some q) : p.index < q.index := by
  unfold atColon? at h
  simp only at h
  split at h
  · rename_i hname
    rw [Bool.and_eq_true, decide_eq_true_eq] at hname
    split at h
    · cases h
    · split at h
      · obtain rfl := Option.some.inj h
        exact Nat.lt_succ_self _
      · obtain ⟨kept, -, rfl⟩ := Option.map_eq_some_iff.1 h
        exact Nat.lt_trans (Nat.lt_succ_self _) hname.1
  · obtain rfl := Option.some.inj h
    exact Nat.lt_succ_self _

/-- Every step leads on. -/
theorem index_lt_of_step? (h : p.step? positions sql b = some q) : p.index < q.index := by
  unfold step? at h
  split at h
  · obtain rfl := Option.some.inj h
    exact Nat.lt_succ_self _
  · split at h
    · exact index_lt_of_atColon? h
    · obtain rfl := Option.some.inj h
      exact Nat.lt_succ_self _

/-- Goes on to the end of the text, and writes what is left of it. -/
def run? (positions : SortedMap Nat) (sql : String) (p : Pass) : Option String :=
  match hb : sql.toUTF8.data[p.index]? with
  | none => (Text.slice? sql p.settled sql.utf8ByteSize).map (p.written ++ ·)
  | some b =>
    match hstep : p.step? positions sql b with
    | none => none
    | some q =>
      have : p.index < sql.utf8ByteSize := by simpa using (Array.getElem?_eq_some_iff.1 hb).1
      have := index_lt_of_step? hstep
      q.run? positions sql
termination_by sql.utf8ByteSize - p.index

end Pass

/-- The text with positions in place of the names of parameters, as a pass over its bytes writes
it. -/
def pass? (names : List String) (sql : String) : Option String :=
  Pass.start.run? (positions names) sql

end PropertyFilter.Placeholder
