import Mathlib.Data.List.Nodup
import PropertyFilter.Proofs.Sql.Token
import PropertyFilter.Query.Names

/-!
# Names that can be told apart

The number at the end of a name can be read back from it, so names with different numbers
differ, whatever words they are made of.

## Main results

* `number_of_nameAt` — a name ends in its number
* `nodup_take` — names that are given out together are distinct
* `isIdentifier_nameAt` — the names of an identifier are identifiers
-/

namespace PropertyFilter.NameSource

open Text Sql

variable {seed seed' name : String} {i j : Nat}

theorem toList_nameAt : (nameAt seed i).toList =
    seed.toList.filter isWord ++ '_' :: 'p' :: Nat.toDigits 10 i := by
  simp [nameAt]

/-- A name ends in its number. -/
theorem number_of_nameAt :
    Nat.ofDigitChars 10 ((nameAt seed i).toList.reverse.takeWhile Char.isDigit).reverse 0 = i := by
  have hdigits : ((Nat.toDigits 10 i).reverse).all Char.isDigit := by
    rw [List.all_eq_true]
    intro c hc
    exact Nat.isDigit_of_mem_toDigits (by decide) (by decide) (List.mem_reverse.1 hc)
  -- from the end, the digits reach up to the letter in front of them
  rw [toList_nameAt, List.reverse_append, List.reverse_cons, List.reverse_cons,
    List.append_assoc, List.append_assoc, takeWhile_append_stop hdigits (by simp),
    List.reverse_reverse, Nat.ofDigitChars_ten_toDigits]

theorem eq_of_nameAt_eq (h : nameAt seed i = nameAt seed' j) : i = j := by
  have hnumber : Nat.ofDigitChars 10
      ((nameAt seed i).toList.reverse.takeWhile Char.isDigit).reverse 0 = i := number_of_nameAt
  rw [← hnumber, h, number_of_nameAt]

/-- Names that are given out together are distinct. -/
theorem nodup_take (s : NameSource) (seed : String) (n : Nat) : (s.take seed n).1.Nodup := by
  refine List.Nodup.map ?_ List.nodup_range
  intro i j h
  exact Nat.add_left_cancel (eq_of_nameAt_eq h)

theorem mem_take {s : NameSource} {n : Nat} :
    name ∈ (s.take seed n).1 ↔ ∃ i < n, name = nameAt seed (s.count + i) := by
  simp [take, eq_comm]

/-- A name is an identifier unless the word characters of its text start with a digit. -/
theorem isIdentifier_nameAt (h : ∀ c ∈ (seed.toList.filter isWord).head?, !c.isDigit) :
    isIdentifier (nameAt seed i) := by
  have hdigits : (Nat.toDigits 10 i).all isWord := by
    rw [List.all_eq_true]
    exact fun c hc => isWord_of_isDigit (Nat.isDigit_of_mem_toDigits (by decide) (by decide) hc)
  rw [isIdentifier, toList_nameAt]
  cases hseed : seed.toList.filter isWord with
  | nil =>
    -- nothing is left of the text, and the name starts with the underscore
    simp only [List.nil_append, List.all_cons, hdigits]
    decide
  | cons c cs =>
    have hc : isWord c := (List.mem_filter.1 (hseed ▸ List.mem_cons_self)).2
    have hcs : cs.all isWord := by
      rw [List.all_eq_true]
      exact fun d hd => (List.mem_filter.1 (hseed ▸ List.mem_cons_of_mem c hd)).2
    have hdigit : c.isDigit = false := by simpa using h c (by rw [hseed]; rfl)
    -- a word character that is no digit may open an identifier
    have hstart : isWordStart c := by
      simpa [isWord, isWordStart, Char.isAlphanum, hdigit] using hc
    simp only [List.cons_append, List.all_append, List.all_cons, hstart, hcs, hdigits]
    decide

/-- The names of an identifier are identifiers. -/
theorem isIdentifier_nameAt_of_isIdentifier (h : isIdentifier seed) :
    isIdentifier (nameAt seed i) := by
  obtain ⟨c, cs, hseed, hc, hall⟩ := exists_cons_of_isIdentifier h
  apply isIdentifier_nameAt
  rw [hseed, List.filter_eq_self.2 (by simpa using hall)]
  intro d hd
  obtain rfl : c = d := by simpa using hd
  simp [isDigit_of_isWordStart hc]

end PropertyFilter.NameSource
