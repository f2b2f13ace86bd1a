/-!
# Slices of a text

A text as UTF-8 can be cut only where a character ends. A slice between two bytes exists if both
are such places and the first one does not lie behind the second one.

## Main definitions

* `Text.slice?` — the part of a text between two bytes

## Main results

* `slice?_eq_some_iff` — a slice is what stands between a part of its length before it and a rest
-/

namespace PropertyFilter.Text

/-- The part of a text from one byte up to another. -/
def slice? (s : String) (first last : Nat) : Option String :=
  if h : String.Pos.Raw.IsValid s ⟨first⟩ ∧ String.Pos.Raw.IsValid s ⟨last⟩ ∧ first ≤ last then
    some (s.extract (s.pos ⟨first⟩ h.1) (s.pos ⟨last⟩ h.2.1))
  else none

variable {s slice : String} {first last : Nat}

/-- A slice is what stands between a part of its length before it and a rest. -/
theorem slice?_eq_some_iff : slice? s first last = some slice ↔
    ∃ before after : String, s = before ++ slice ++ after ∧ before.utf8ByteSize = first ∧
      (before ++ slice).utf8ByteSize = last := by
  constructor
  · intro h
    unfold slice? at h
    split at h
    · rename_i hvalid
      obtain ⟨hfirst, hlast, hle⟩ := hvalid
      obtain ⟨before, rest, hrest, hbefore⟩ := String.Pos.Raw.isValid_iff_exists_append.1 hfirst
      obtain ⟨upTo, after, hafter, hupTo⟩ := String.Pos.Raw.isValid_iff_exists_append.1 hlast
      obtain rfl : first = before.utf8ByteSize := congrArg (·.byteIdx) hbefore
      obtain rfl : last = upTo.utf8ByteSize := congrArg (·.byteIdx) hupTo
      -- the slice is the bytes of the longer part behind those of the shorter one
      have hslice : before ++ slice = upTo := by
        have hbytes : slice.toByteArray =
            s.toByteArray.extract before.utf8ByteSize upTo.utf8ByteSize := by
          rw [← Option.some.inj h]
          exact String.toByteArray_extract
        have hstart : before.toByteArray = s.toByteArray.extract 0 before.utf8ByteSize := by
          rw [hrest, String.toByteArray_append, ByteArray.extract_append_eq_left (by simp)]
        have hall : upTo.toByteArray = s.toByteArray.extract 0 upTo.utf8ByteSize := by
          rw [hafter, String.toByteArray_append, ByteArray.extract_append_eq_left (by simp)]
        rw [← String.toByteArray_inj, String.toByteArray_append, hbytes, hstart, hall,
          ← ByteArray.extract_eq_extract_append_extract _ (Nat.zero_le _) hle]
      exact ⟨before, after, by rw [hslice, hafter], rfl, by rw [hslice]⟩
    · cases h
  · rintro ⟨before, after, rfl, rfl, rfl⟩
    have hfirst : String.Pos.Raw.IsValid (before ++ slice ++ after) before.rawEndPos :=
      String.Pos.Raw.isValid_iff_exists_append.2
        ⟨before, slice ++ after, by rw [String.append_assoc], rfl⟩
    have hlast : String.Pos.Raw.IsValid (before ++ slice ++ after) (before ++ slice).rawEndPos :=
      String.Pos.Raw.isValid_iff_exists_append.2 ⟨before ++ slice, after, rfl, rfl⟩
    have hle : before.utf8ByteSize ≤ (before ++ slice).utf8ByteSize := by
      rw [String.utf8ByteSize_append]
      exact Nat.le_add_right _ _
    rw [slice?, dif_pos ⟨hfirst, hlast, hle⟩, Option.some.injEq, ← String.toByteArray_inj,
      String.toByteArray_extract]
    simp only [String.toByteArray_append, String.utf8ByteSize_append, String.offset_pos]
    rw [ByteArray.append_assoc, ← String.size_toByteArray, ← String.size_toByteArray]
    have := ByteArray.extract_append_size_add (a := before.toByteArray)
      (b := slice.toByteArray ++ after.toByteArray) (i := 0) (j := slice.toByteArray.size)
    rw [Nat.add_zero] at this
    rw [this, ByteArray.extract_append_eq_left rfl]

/-- A text can be cut behind any beginning and in front of any rest. -/
theorem slice?_append (before slice after : String) :
    slice? (before ++ slice ++ after) before.utf8ByteSize (before ++ slice).utf8ByteSize =
      some slice :=
  slice?_eq_some_iff.2 ⟨before, after, rfl, rfl, rfl⟩

end PropertyFilter.Text
