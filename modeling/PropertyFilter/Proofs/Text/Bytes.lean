import Mathlib.Tactic.SplitIfs
import Mathlib.Tactic.Tauto
import PropertyFilter.SortedMap

/-!
# The order of bytes

Texts are compared character by character, by code point. In UTF-8 a character with a larger code
point never has the smaller first byte, and among encodings of one length the bytes are digits
that come highest first, so texts are also in the order of their bytes.

## Main definitions

* `Text.bytes` — the bytes of a text in UTF-8
* `Text.BytesBelow` — texts whose bytes come first

## Main results

* `bytesBelow_iff` — texts are in the order of their bytes
* `SortedMap.keys_bytesBelow` — maps list their names in the order of bytes
-/

namespace PropertyFilter

namespace Text

/-- The bytes of a text in UTF-8. -/
def bytes (s : String) : List UInt8 := s.toUTF8.data.toList

/-- The bytes of one text come before those of another, as in a dictionary. -/
def BytesBelow (s t : String) : Prop := bytes s < bytes t

variable {s t : String} {c d : Char} {m n : Nat}

theorem bytes_eq_flatMap (s : String) : bytes s = s.toList.flatMap String.utf8EncodeChar := by
  have h : s.toUTF8 = s.toList.utf8Encode := String.utf8Encode_toList.symm
  rw [bytes, h, List.utf8Encode, List.data_toByteArray]

theorem getElem?_bytes (s : String) (i : Nat) : (bytes s)[i]? = s.toUTF8.data[i]? :=
  Array.getElem?_toList

theorem length_bytes (s : String) : (bytes s).length = s.utf8ByteSize := rfl

theorem bytes_append (s t : String) : bytes (s ++ t) = bytes s ++ bytes t := by
  simp only [bytes_eq_flatMap, String.toList_append, List.flatMap_append]

theorem bytes_ofList_cons (c : Char) (cs : List Char) :
    bytes (String.ofList (c :: cs)) = String.utf8EncodeChar c ++ bytes (String.ofList cs) := by
  simp only [bytes_eq_flatMap, String.toList_ofList, List.flatMap_cons]

/-- The bytes behind the beginning of a text. -/
theorem getElem?_bytes_append (s t : String) (i : Nat) :
    (bytes (s ++ t))[s.utf8ByteSize + i]? = (bytes t)[i]? := by
  rw [bytes_append, List.getElem?_append_right (by rw [length_bytes]; omega), length_bytes,
    Nat.add_sub_cancel_left]

/-! ### Characters -/

/-- A character of ASCII is one byte. -/
theorem encode_of_lt (h : c.toNat < 128) :
    String.utf8EncodeChar c = [c.toUInt8] ∧ Char.ofUInt8 c.toUInt8 = c := by
  have hval : c.val.toNat < 128 := h
  constructor
  · rw [String.utf8EncodeChar, if_pos (Nat.le_of_lt_succ hval)]
    rfl
  · apply Char.ext
    apply UInt32.toNat_inj.1
    change (c.val.toUInt8.toUInt32).toNat = c.val.toNat
    rw [UInt8.toNat_toUInt32, UInt32.toNat_toUInt8]
    omega

/-- All bytes of any other character lie behind those of ASCII. -/
theorem le_of_mem_encode {b : UInt8} (h : 128 ≤ c.toNat) (hb : b ∈ String.utf8EncodeChar c) :
    128 ≤ b.toNat := by
  have hval : ¬c.val.toNat ≤ 127 := Nat.not_le.2 h
  rw [String.utf8EncodeChar, if_neg hval] at hb
  split_ifs at hb <;> simp only [List.mem_cons, List.not_mem_nil, or_false] at hb <;>
    rcases hb with rfl | rfl | rfl | rfl <;> simp <;> omega

/-- What only holds of characters of ASCII holds of a character just if it holds of one of its
bytes. -/
theorem ofUInt8_of_mem_encode {f : Char → Bool} (hf : ∀ c, f c → c.toNat < 128) {b : UInt8}
    (hb : b ∈ String.utf8EncodeChar c) : f (Char.ofUInt8 b) = f c := by
  by_cases hc : c.toNat < 128
  · obtain ⟨hencode, hc⟩ := encode_of_lt hc
    rw [hencode, List.mem_singleton] at hb
    rw [hb, hc]
  · have hb := le_of_mem_encode (Nat.not_lt.1 hc) hb
    have hout {d : Char} (hd : 128 ≤ d.toNat) : f d = false :=
      Bool.eq_false_iff.2 fun h => Nat.not_lt.2 hd (hf d h)
    rw [hout (Nat.not_lt.1 hc), hout]
    change 128 ≤ b.toUInt32.toNat
    rwa [UInt8.toNat_toUInt32]

theorem ofNat_lt_iff (hm : m < 256) (hn : n < 256) : UInt8.ofNat m < UInt8.ofNat n ↔ m < n := by
  simp [UInt8.lt_iff_toNat_lt, Nat.mod_eq_of_lt, hm, hn]

theorem ofNat_inj_iff (hm : m < 256) (hn : n < 256) : UInt8.ofNat m = UInt8.ofNat n ↔ m = n := by
  simp [← UInt8.toNat_inj, Nat.mod_eq_of_lt, hm, hn]

/-- Numbers are in the order of their digits to the base 64, the highest digit first. -/
theorem digits_lt (h : m < n) (hn : n < 2097152) :
    m / 262144 % 8 < n / 262144 % 8 ∨ m / 262144 % 8 = n / 262144 % 8 ∧
      (m / 4096 % 64 < n / 4096 % 64 ∨ m / 4096 % 64 = n / 4096 % 64 ∧
        (m / 64 % 64 < n / 64 % 64 ∨ m / 64 % 64 = n / 64 % 64 ∧ m % 64 < n % 64)) := by
  have hsplit {v : Nat} (hv : v < 2097152) : v =
      262144 * (v / 262144 % 8) + 4096 * (v / 4096 % 64) + 64 * (v / 64 % 64) + v % 64 := by omega
  have hm := hsplit (Nat.lt_trans h hn)
  have hn := hsplit hn
  omega

/-- Of two characters the bytes of the smaller one come first, whatever follows them. -/
theorem encode_append_lt (h : c < d) (xs ys : List UInt8) :
    String.utf8EncodeChar c ++ xs < String.utf8EncodeChar d ++ ys := by
  have hlt : c.val.toNat < d.val.toNat := h
  have hbound : d.val.toNat < 2097152 := by
    rcases d.valid with h | ⟨_, h⟩
    · exact Nat.lt_trans h (by decide)
    · exact Nat.lt_trans h (by decide)
  unfold String.utf8EncodeChar
  generalize c.val.toNat = m at *
  generalize d.val.toNat = n at *
  dsimp only
  by_cases hfour : 65535 < m
  · -- both have four bytes, which are their digits
    have hm : ¬ m ≤ 127 ∧ ¬ m ≤ 2047 ∧ ¬ m ≤ 65535 := by omega
    have hn : ¬ n ≤ 127 ∧ ¬ n ≤ 2047 ∧ ¬ n ≤ 65535 := by omega
    simp (disch := omega) only [hm, hn, if_false, List.cons_append, List.nil_append,
      List.cons_lt_cons_iff, ofNat_lt_iff, ofNat_inj_iff, Nat.add_lt_add_iff_right,
      Nat.add_right_cancel_iff]
    have hdigits := digits_lt hlt hbound
    tauto
  · -- one case for every other pair of lengths
    split_ifs <;> simp (disch := omega) only [List.cons_append, List.nil_append,
      List.cons_lt_cons_iff, ofNat_lt_iff, ofNat_inj_iff] <;> omega

/-! ### Texts -/

theorem bytes_lt_of_lt (h : s < t) : bytes s < bytes t := by
  rw [String.lt_iff] at h
  rw [bytes_eq_flatMap, bytes_eq_flatMap]
  generalize s.toList = cs at h
  generalize t.toList = ds at h
  induction h with
  | @nil d ds =>
    -- a character has at least one byte
    obtain ⟨b, bs, hd⟩ := List.exists_cons_of_ne_nil (String.utf8EncodeChar_ne_nil (c := d))
    rw [List.flatMap_nil, List.flatMap_cons, hd]
    exact .nil
  | rel hcd => exact encode_append_lt hcd _ _
  | cons _ ih =>
    rw [List.flatMap_cons, List.flatMap_cons]
    exact List.append_left_lt ih

/-- Texts are in the order of their bytes. -/
theorem bytesBelow_iff : BytesBelow s t ↔ s < t := by
  constructor
  · intro h
    by_cases heq : s = t
    · exact absurd (heq ▸ h) (List.lt_irrefl _)
    · refine Std.not_le.1 fun hle => ?_
      have hgt : t < s := Std.not_le.1 fun hge => heq (String.le_antisymm hge hle)
      exact List.lt_asymm h (bytes_lt_of_lt hgt)
  · exact bytes_lt_of_lt

end Text

/-- A map lists its entries in the order of the bytes of their names. -/
theorem SortedMap.toList_bytesBelow {α : Type} (m : SortedMap α) :
    m.toList.Pairwise fun a b => Text.BytesBelow a.1 b.1 :=
  m.sorted.imp Text.bytesBelow_iff.2

/-- A map lists its names in the order of their bytes. -/
theorem SortedMap.keys_bytesBelow {α : Type} (m : SortedMap α) :
    m.keys.Pairwise Text.BytesBelow :=
  List.pairwise_map.2 m.toList_bytesBelow

end PropertyFilter
