import PropertyFilter.Proofs.Query.Placeholder.Stretches
import PropertyFilter.Proofs.Text.Bytes
import PropertyFilter.Query.Placeholder.Pass

/-!
# The pass over bytes writes the rendered text

Quotes, colons and word characters are single bytes that occur in no other character. So all that
the pass looks at stands between characters, and every slice that it copies begins and ends there.
Behind each character the pass has come as far as rendering character by character has.

## Main definitions

* `Placeholder.endsInColon` — what decides whether a colon may start a name
* `Placeholder.Pass.behind` — the pass when it comes to the end of a beginning of the text

## Main results

* `Placeholder.get?_positions` — the positions that are collected beforehand
* `Placeholder.Pass.run?_behind` — what the pass writes from the end of a beginning on
* `Placeholder.pass?_eq_fillText` — the pass gives the text stretch by stretch
-/

namespace PropertyFilter.Placeholder

open Text Sql

variable {names : List String}

/-- The positions that are collected beforehand are those of the last parameters. -/
theorem get?_positions (names : List String) (name : String) :
    (positions names).get? name = position? names name := by
  induction names using List.reverseRecOn with
  | nil => rfl
  | append_singleton names last ih =>
    have hpositions : positions (names ++ [last]) =
        (positions names).insert last (names.length + 1) := by
      simp [positions, List.zipIdx_append, Nat.add_comm]
    rw [hpositions, position?_concat, SortedMap.get?_insert, ih]

/-! ### Bytes of characters -/

section Bytes

variable {c : Char} {b : UInt8}

theorem toNat_lt_of_isWord (h : isWord c) : c.toNat < 128 := by
  change ((decide (65 ≤ c.val ∧ c.val ≤ 90) || (97 ≤ c.val && c.val ≤ 122)) ||
    (48 ≤ c.val && c.val ≤ 57) || c == '_') = true at h
  simp only [Bool.or_eq_true, Bool.and_eq_true, decide_eq_true_eq, beq_iff_eq,
    UInt32.le_iff_toNat_le] at h
  change (((65 ≤ c.toNat ∧ c.toNat ≤ 90) ∨ (97 ≤ c.toNat ∧ c.toNat ≤ 122)) ∨
    (48 ≤ c.toNat ∧ c.toNat ≤ 57)) ∨ c = '_' at h
  rcases h with h | rfl
  · omega
  · decide

theorem isWordByte_of_mem_encode (h : b ∈ String.utf8EncodeChar c) : isWordByte b = isWord c :=
  ofUInt8_of_mem_encode (fun _ => toNat_lt_of_isWord) h

theorem isDigitByte_of_mem_encode (h : b ∈ String.utf8EncodeChar c) :
    isDigitByte b = c.isDigit :=
  ofUInt8_of_mem_encode (fun _ hc => toNat_lt_of_isWord (isWord_of_isDigit hc)) h

/-- A byte is that of a character of ASCII just if it is in no other character. -/
theorem eq_toUInt8_iff_of_mem_encode {d : Char} (hd : d.toNat < 128)
    (h : b ∈ String.utf8EncodeChar c) : b = d.toUInt8 ↔ c = d := by
  constructor
  · rintro rfl
    have hsame : (Char.ofUInt8 d.toUInt8 == d) = (c == d) :=
      ofUInt8_of_mem_encode (f := (· == d)) (fun e he => by rwa [beq_iff_eq.1 he]) h
    rw [(encode_of_lt hd).2, beq_self_eq_true] at hsame
    exact beq_iff_eq.1 hsame.symm
  · rintro rfl
    rw [(encode_of_lt hd).1, List.mem_singleton] at h
    exact h

theorem eq_quote_iff_of_mem_encode (h : b ∈ String.utf8EncodeChar c) : b = quote ↔ c = '\'' :=
  eq_toUInt8_iff_of_mem_encode (by decide) h

theorem eq_colon_iff_of_mem_encode (h : b ∈ String.utf8EncodeChar c) : b = colon ↔ c = ':' :=
  eq_toUInt8_iff_of_mem_encode (by decide) h

end Bytes

/-- The byte behind a beginning of a text belongs to the next character. -/
theorem exists_byte (before : String) (c : Char) (cs : List Char) :
    ∃ b ∈ String.utf8EncodeChar c,
      (before ++ String.ofList (c :: cs)).toUTF8.data[before.utf8ByteSize]? = some b := by
  obtain ⟨b, bs, hencode⟩ := List.exists_cons_of_ne_nil (String.utf8EncodeChar_ne_nil (c := c))
  refine ⟨b, by simp [hencode], ?_⟩
  have h := getElem?_bytes_append before (String.ofList (c :: cs)) 0
  rwa [bytes_ofList_cons, hencode, getElem?_bytes] at h

theorem utf8ByteSize_append_singleton (before : String) (c : Char) :
    (before ++ String.singleton c).utf8ByteSize =
      before.utf8ByteSize + (String.utf8EncodeChar c).length := by
  rw [String.utf8ByteSize_append, String.utf8ByteSize_singleton, String.length_utf8EncodeChar]

theorem append_ofList_cons (before : String) (c : Char) (cs : List Char) :
    before ++ String.ofList (c :: cs) = before ++ String.singleton c ++ String.ofList cs := by
  rw [← String.toList_inj]
  simp

theorem utf8ByteSize_lt_append (before : String) (c : Char) (cs : List Char) :
    before.utf8ByteSize < (before ++ String.ofList (c :: cs)).utf8ByteSize := by
  have := c.utf8Size_pos
  simp only [append_ofList_cons, String.utf8ByteSize_append, String.utf8ByteSize_singleton]
  omega

/-- Whether a text ends in a colon. -/
def endsInColon (before : String) : Bool := before.toList.getLast? == some ':'

theorem endsInColon_append_singleton (before : String) (c : Char) :
    endsInColon (before ++ String.singleton c) = (c == ':') := by
  simp [endsInColon]

theorem endsInColon_append_word (before : String) {w : List Char} (hne : w ≠ [])
    (hw : w.all isWord) : endsInColon (before ++ String.ofList w) = false := by
  have hlast : w.getLast hne ≠ ':' := by
    intro h
    have hword := List.all_eq_true.1 hw _ (List.getLast_mem hne)
    rw [h] at hword
    exact absurd hword (by decide)
  rw [endsInColon, String.toList_append, String.toList_ofList, List.getLast?_append,
    List.getLast?_eq_some_getLast hne]
  simpa using hlast

/-- The byte in front of a place is a colon if the text up to there ends in one. -/
theorem isBehindColon_eq (before after : String) :
    (before.utf8ByteSize = 0 ||
      (before ++ after).toUTF8.data[before.utf8ByteSize - 1]? != some colon) =
      !endsInColon before := by
  obtain hnil | ⟨cs, c, hcs⟩ := List.eq_nil_or_concat before.toList
  · obtain rfl : before = "" := String.toList_inj.1 hnil
    simp [endsInColon]
  -- the last byte is one of the last character
  obtain ⟨bs, b, hb⟩ := (List.eq_nil_or_concat (String.utf8EncodeChar c)).resolve_left
    String.utf8EncodeChar_ne_nil
  have hmem : b ∈ String.utf8EncodeChar c := by simp [hb]
  have hbytes : bytes before = cs.flatMap String.utf8EncodeChar ++ bs ++ [b] := by
    rw [bytes_eq_flatMap, hcs, List.concat_eq_append, List.flatMap_append, List.flatMap_singleton,
      hb, List.concat_eq_append, List.append_assoc]
  have hsize : before.utf8ByteSize = (cs.flatMap String.utf8EncodeChar ++ bs).length + 1 := by
    rw [← length_bytes, hbytes, List.length_append, List.length_singleton]
  have hlast : (before ++ after).toUTF8.data[before.utf8ByteSize - 1]? = some b := by
    rw [← getElem?_bytes, bytes_append, hbytes, hsize, Nat.add_sub_cancel]
    simp
  have hpos : before.utf8ByteSize ≠ 0 := by omega
  rw [hlast, Bool.eq_iff_iff]
  simp [hpos, eq_colon_iff_of_mem_encode hmem, endsInColon, hcs]

/-! ### The end of a word -/

section WordEnd

variable {bytes : Array UInt8} {i : ℕ} {b : UInt8}

theorem wordEnd_of_none (h : bytes[i]? = none) : wordEnd bytes i = i := by
  rw [wordEnd]
  split
  · rfl
  · rename_i hb
    rw [h] at hb
    cases hb

theorem wordEnd_of_some (h : bytes[i]? = some b) :
    wordEnd bytes i = if isWordByte b then wordEnd bytes (i + 1) else i := by
  rw [wordEnd]
  split <;> simp_all

/-- The bytes of a word end where its characters do. -/
theorem wordEnd_append (before : String) (cs : List Char) :
    wordEnd (before ++ String.ofList cs).toUTF8.data before.utf8ByteSize =
      (before ++ String.ofList (cs.takeWhile isWord)).utf8ByteSize := by
  induction cs generalizing before with
  | nil => rw [wordEnd_of_none] <;> simp
  | cons c cs ih =>
    obtain ⟨b, hmem, hbyte⟩ := exists_byte before c cs
    rw [wordEnd_of_some hbyte, isWordByte_of_mem_encode hmem, List.takeWhile_cons]
    split_ifs with hc
    · have hsize : before.utf8ByteSize + 1 = (before ++ String.singleton c).utf8ByteSize := by
        rw [utf8ByteSize_append_singleton, (encode_of_lt (toNat_lt_of_isWord hc)).1,
          List.length_singleton]
      rw [hsize, append_ofList_cons, ih, append_ofList_cons]
    · simp

/-- The word behind a beginning of a text can be cut out. -/
theorem slice?_word (before : String) (cs : List Char) :
    Text.slice? (before ++ String.ofList cs) before.utf8ByteSize
      (before ++ String.ofList (cs.takeWhile isWord)).utf8ByteSize =
        some (String.ofList (cs.takeWhile isWord)) := by
  have h := slice?_append before (String.ofList (cs.takeWhile isWord))
    (String.ofList (cs.dropWhile isWord))
  rwa [String.append_assoc, ← String.ofList_append, List.takeWhile_append_dropWhile] at h

end WordEnd

/-! ### Steps -/

namespace Pass

section Steps

variable {positions : SortedMap ℕ} {sql : String} {p q : Pass} {b : UInt8}

theorem run?_of_none (h : sql.toUTF8.data[p.index]? = none) : p.run? positions sql =
    (Text.slice? sql p.settled sql.utf8ByteSize).map (p.written ++ ·) := by
  rw [run?]
  split
  · rfl
  · rename_i hb
    rw [h] at hb
    cases hb

theorem run?_of_step (h : sql.toUTF8.data[p.index]? = some b)
    (hstep : p.step? positions sql b = some q) : p.run? positions sql = q.run? positions sql := by
  rw [run?]
  split
  · rename_i hb
    rw [h] at hb
    cases hb
  · rename_i b' hb
    obtain rfl : b = b' := Option.some.inj (h.symm.trans hb)
    split
    · rename_i hnone
      rw [hstep] at hnone
      cases hnone
    · rename_i q' hq
      obtain rfl : q = q' := Option.some.inj (hstep.symm.trans hq)
      rfl

/-- Bytes that are neither quotes nor colons are passed over. -/
theorem run?_plain {bs : List UInt8}
    (hbytes : ∀ i < bs.length, sql.toUTF8.data[p.index + i]? = bs[i]?)
    (hplain : ∀ b ∈ bs, b ≠ quote ∧ b ≠ colon) :
    p.run? positions sql =
      ({ p with index := p.index + bs.length } : Pass).run? positions sql := by
  induction bs generalizing p with
  | nil => rfl
  | cons b bs ih =>
    obtain ⟨hb, hplain⟩ := List.forall_mem_cons.1 hplain
    have hstep : p.step? positions sql b = some p.onward := by
      rw [step?, if_neg hb.1, if_neg (by simp [hb.2])]
    rw [run?_of_step (hbytes 0 (by simp)) hstep, ih _ hplain]
    · simp [onward, Nat.add_comm, Nat.add_left_comm]
    · intro i hi
      have h := hbytes (i + 1) (by simpa using hi)
      rwa [List.getElem?_cons_succ, ← Nat.add_assoc, Nat.add_right_comm] at h

end Steps

/-! ### From character to character -/

/-- The pass when it comes to the end of a beginning of the text. The last part of it is not written
yet. -/
def behind (settled kept : String) (inLiteral : Bool) (written : String) : Pass :=
  ⟨(settled ++ kept).utf8ByteSize, settled.utf8ByteSize, inLiteral, written⟩

variable {sql settled kept written : String} {inLiteral : Bool} {c : Char} {cs : List Char}

/-- The next character is one byte. -/
theorem onward_behind (h : c.toNat < 128) : (behind settled kept inLiteral written).onward =
    behind settled (kept ++ String.singleton c) inLiteral written := by
  rw [behind, behind, onward, ← String.append_assoc, utf8ByteSize_append_singleton,
    (encode_of_lt h).1, List.length_singleton]

/-- A character that is neither a quote nor a colon is passed over. -/
theorem run?_behind_plain {positions : SortedMap ℕ} (hquote : c ≠ '\'') (hcolon : c ≠ ':')
    (hsql : sql = settled ++ kept ++ String.ofList (c :: cs)) :
    (behind settled kept inLiteral written).run? positions sql =
      (behind settled (kept ++ String.singleton c) inLiteral written).run? positions sql := by
  have hplain : ∀ b ∈ String.utf8EncodeChar c, b ≠ quote ∧ b ≠ colon := fun b hb =>
    ⟨mt (eq_quote_iff_of_mem_encode hb).1 hquote, mt (eq_colon_iff_of_mem_encode hb).1 hcolon⟩
  rw [run?_plain _ hplain, behind, behind, ← String.append_assoc, utf8ByteSize_append_singleton]
  intro i hi
  rw [hsql, behind, ← getElem?_bytes, getElem?_bytes_append, bytes_ofList_cons,
    List.getElem?_append_left hi]

/-- A quote or a colon is one byte. -/
theorem run?_behind_of_step {positions : SortedMap ℕ} {q : Pass} (hc : c.toNat < 128)
    (hsql : sql = settled ++ kept ++ String.ofList (c :: cs))
    (hstep : (behind settled kept inLiteral written).step? positions sql c.toUInt8 = some q) :
    (behind settled kept inLiteral written).run? positions sql = q.run? positions sql := by
  obtain ⟨b, hmem, hbyte⟩ := exists_byte (settled ++ kept) c cs
  obtain rfl : b = c.toUInt8 := (eq_toUInt8_iff_of_mem_encode hc hmem).2 rfl
  rw [← hsql] at hbyte
  exact run?_of_step hbyte hstep

theorem step?_behind_quote {positions : SortedMap ℕ} :
    (behind settled kept inLiteral written).step? positions sql quote =
      some (behind settled (kept ++ String.singleton '\'') (!inLiteral) written) := by
  rw [step?, if_pos rfl, onward_behind (c := '\'') (by decide)]
  rfl

/-- A colon may start a name outside literals, unless it stands behind another one. -/
theorem step?_behind_colon {positions : SortedMap ℕ} {after : String}
    (hsql : sql = settled ++ kept ++ after) :
    (behind settled kept inLiteral written).step? positions sql colon =
      if !inLiteral && !endsInColon (settled ++ kept) then
        (behind settled kept inLiteral written).atColon? positions sql
      else some (behind settled (kept ++ String.singleton ':') inLiteral written) := by
  have hbehind := isBehindColon_eq (settled ++ kept) after
  rw [← hsql] at hbehind
  rw [step?, if_neg (by decide), ← hbehind, onward_behind (c := ':') (by decide)]
  simp [behind]

/-- At a colon the word behind it is looked up. -/
theorem atColon?_behind (hsql : sql = settled ++ kept ++ String.ofList (':' :: cs)) :
    (behind settled kept inLiteral written).atColon? (positions names) sql =
      match ofWord? names (cs.takeWhile isWord) with
      | none => some (behind settled (kept ++ String.singleton ':') inLiteral written)
      | some position =>
        some (behind (settled ++ kept ++ String.singleton ':' ++
          String.ofList (cs.takeWhile isWord)) "" inLiteral
            (written ++ kept ++ Sql.placeholder position)) := by
  have hfirst : (behind settled kept inLiteral written).index + 1 =
      (settled ++ kept ++ String.singleton ':').utf8ByteSize := by
    rw [utf8ByteSize_append_singleton]
    rfl
  have hkept : Text.slice? sql settled.utf8ByteSize (settled ++ kept).utf8ByteSize = some kept :=
    hsql ▸ slice?_append settled kept _
  rw [append_ofList_cons] at hsql
  have hlast : wordEnd sql.toUTF8.data (settled ++ kept ++ String.singleton ':').utf8ByteSize = _ :=
    hsql ▸ wordEnd_append _ cs
  have hname : Text.slice? sql (settled ++ kept ++ String.singleton ':').utf8ByteSize _ = _ :=
    hsql ▸ slice?_word _ cs
  unfold atColon?
  simp only
  rw [hfirst, hlast, hname, onward_behind (c := ':') (by decide)]
  cases cs with
  | nil => simp [ofWord?]
  | cons c cs =>
    obtain ⟨b, hmem, hbyte⟩ := exists_byte (settled ++ kept ++ String.singleton ':') c cs
    rw [← hsql] at hbyte
    rw [hbyte, Option.any_some, isDigitByte_of_mem_encode hmem, List.takeWhile_cons]
    by_cases hc : isWord c
    · rw [if_pos hc, ofWord?, decide_eq_true (utf8ByteSize_lt_append _ _ _)]
      simp only [get?_positions]
      cases c.isDigit with
      | true => rfl
      | false =>
        cases position? names (String.ofList (c :: cs.takeWhile isWord)) with
        | none => rfl
        | some position =>
          change (Text.slice? sql settled.utf8ByteSize (settled ++ kept).utf8ByteSize).map _ = _
          rw [hkept]
          simp [behind]
    · simp [hc, ofWord?]

/-- So it is at a colon that may start a name. -/
theorem step?_behind_name (hcolon : endsInColon (settled ++ kept) = false)
    (hsql : sql = settled ++ kept ++ String.ofList (':' :: cs)) :
    (behind settled kept false written).step? (positions names) sql colon =
      match ofWord? names (cs.takeWhile isWord) with
      | none => some (behind settled (kept ++ String.singleton ':') false written)
      | some position =>
        some (behind (settled ++ kept ++ String.singleton ':' ++
          String.ofList (cs.takeWhile isWord)) "" false
            (written ++ kept ++ Sql.placeholder position)) := by
  rw [step?_behind_colon hsql, hcolon, if_pos (by rfl), atColon?_behind hsql]

/-- What is written from the end of a beginning on is what was not written yet, and the rendered
rest of the text. -/
theorem run?_behind (names : List String) (inLiteral afterColon : Bool) (rest : List Char)
    (settled kept written : String) (hcolon : endsInColon (settled ++ kept) = afterColon)
    (hsql : sql = settled ++ kept ++ String.ofList rest) :
    (behind settled kept inLiteral written).run? (positions names) sql =
      some (written ++ kept ++ String.ofList (renderFrom names inLiteral afterColon rest)) := by
  have hpush (s t : String) (c : Char) (cs : List Char) :
      s ++ t ++ String.ofList (c :: cs) = s ++ (t ++ String.singleton c) ++ String.ofList cs := by
    rw [append_ofList_cons, ← String.append_assoc]
  have hends (s t : String) (c : Char) :
      endsInColon (s ++ (t ++ String.singleton c)) = (c == ':') := by
    rw [← String.append_assoc, endsInColon_append_singleton]
  -- a character that stays is kept, to be written later, and the rest is shorter by it
  fun_induction renderFrom names inLiteral afterColon rest generalizing settled kept written with
  | case1 inLiteral afterColon =>
    rw [String.ofList_nil, String.append_empty] at *
    have hslice := slice?_append settled kept ""
    rw [String.append_empty, ← hsql] at hslice
    rw [run?_of_none (by simp [hsql, behind]), behind, hslice]
    rfl
  | case2 inLiteral afterColon cs ih =>
    rw [run?_behind_of_step (by decide) hsql step?_behind_quote,
      ih _ _ _ (hends _ _ _) (hsql.trans (hpush _ _ _ _)), hpush]
  | case3 inLiteral afterColon c cs hquote hactive position hword _ ih =>
    obtain ⟨⟨rfl, rfl⟩, rfl⟩ : (inLiteral = false ∧ afterColon = false) ∧ c = ':' := by
      simpa using hactive
    have hstep : (behind settled kept false written).step? (positions names) sql colon = _ :=
      step?_behind_name hcolon hsql
    rw [hword] at hstep
    have hne : cs.takeWhile isWord ≠ [] := (ofWord?_eq_some_iff.1 hword).1
    have hrest : sql = settled ++ kept ++ String.singleton ':' ++
        String.ofList (cs.takeWhile isWord) ++ "" ++ String.ofList (cs.dropWhile isWord) := by
      rw [String.append_empty, String.append_assoc, ← String.ofList_append,
        List.takeWhile_append_dropWhile, hsql, append_ofList_cons]
    rw [run?_behind_of_step (by decide) hsql hstep, ih _ _ _ _ hrest]
    · simp [String.append_assoc]
    · rw [String.append_empty]
      exact endsInColon_append_word _ hne List.all_takeWhile
  | case4 inLiteral afterColon c cs hquote hactive hword ih =>
    obtain ⟨⟨rfl, rfl⟩, rfl⟩ : (inLiteral = false ∧ afterColon = false) ∧ c = ':' := by
      simpa using hactive
    have hstep : (behind settled kept false written).step? (positions names) sql colon = _ :=
      step?_behind_name hcolon hsql
    rw [hword] at hstep
    rw [run?_behind_of_step (by decide) hsql hstep,
      ih _ _ _ (hends _ _ _) (hsql.trans (hpush _ _ _ _)), hpush]
  | case5 inLiteral afterColon c cs hquote hpassive ih =>
    rw [hpush, ← ih _ _ _ (hends _ _ _) (hsql.trans (hpush _ _ _ _))]
    by_cases hc : c = ':'
    · subst hc
      refine run?_behind_of_step (by decide) hsql ((step?_behind_colon hsql).trans (if_neg ?_))
      simpa [hcolon] using hpassive
    · exact run?_behind_plain hquote hc hsql

end Pass

/-- The pass over the bytes of a text never cuts a character. It writes the text stretch by stretch,
as rendering does, and the position that stands for a name is that of the last parameter. -/
theorem pass?_eq_fillText (names : List String) (sql : String) :
    pass? names sql = some (fillText names sql) ∧ render names sql = fillText names sql ∧
      ∀ (word : List Char) (position : ℕ), ofWord? names word = some position ↔
        word ≠ [] ∧ (∀ c ∈ word.head?, !c.isDigit) ∧
          ∃ i, position = i + 1 ∧ names[i]? = some (String.ofList word) ∧
            ∀ j, i < j → names[j]? ≠ some (String.ofList word) := by
  refine ⟨?_, render_eq_fillText names sql, fun word position => ?_⟩
  · have hpass : (Pass.behind "" "" false "").run? (positions names) sql = _ :=
      Pass.run?_behind names false false sql.toList "" "" "" rfl (by simp)
    rw [← render_eq_fillText]
    exact hpass.trans (by simp [render])
  · rw [ofWord?_eq_some_iff, position?_eq_some_iff]

example : fillText ["a", "b", "a"] "é :b ':a' ::a :a" = "é $2 ':a' ::a $3" := by cbv

end PropertyFilter.Placeholder
