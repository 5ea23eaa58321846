import Mathlib.Data.List.Basic
import QueryTemplates.Proofs.Text.Lines
import QueryTemplates.Proofs.Text.Utf8

/-! # Other breaks in encoded texts

A line feed is one byte of an encoded text, and no other character has this byte. So line feeds can be written
as other breaks in the bytes as well as in the text. If the bytes encode no text, the fault stays the same: it
lies between two breaks, and decoding starts anew at each of them.
-/

namespace QueryTemplates.Utf8

variable {newLine text : Text} {front rest bytes : List UInt8} {b : UInt8} {c : Char}

/-! ## Bytes of a text -/

/-- A byte below 128 belongs to the character with its number only. -/
theorem eq_ofNat_of_ascii_mem (member : b ∈ String.utf8EncodeChar c) (ascii : b < 0x80) :
    c = Char.ofNat b.toNat := by
  have small : b.toNat < 128 := UInt8.lt_iff_toNat_lt.mp ascii
  have large {m : Nat} (low : 128 ≤ m) (high : m < 256) : b ≠ UInt8.ofNat m := by
    rintro rfl
    rw [UInt8.toNat_ofNat_of_lt' high] at small
    omega
  obtain ⟨n, val⟩ : ∃ n, c.val.toNat = n := ⟨_, rfl⟩
  have own : c = Char.ofNat n := val ▸ (Char.ofNat_toNat c).symm
  simp only [String.utf8EncodeChar, val] at member
  -- all bytes of a character with several of them are 128 or more
  split_ifs at member with one two three <;>
    simp only [List.mem_cons, List.not_mem_nil, or_false] at member
  · rw [own, member, UInt8.toNat_ofNat_of_lt' (Nat.lt_of_le_of_lt one (by decide))]
  · rcases member with same | same <;> exact absurd same (large (by omega) (by omega))
  · rcases member with same | same | same <;> exact absurd same (large (by omega) (by omega))
  · rcases member with same | same | same | same <;> exact absurd same (large (by omega) (by omega))

theorem encode_cons (c : Char) (text : Text) : encode (c :: text) = String.utf8EncodeChar c ++ encode text :=
  List.flatMap_cons

/-- Writing line feeds as another break and encoding can be done in either order. -/
theorem encode_replaceEach (newLine text : Text) :
    encode (replaceEach '\n' newLine text) = replaceEach 0x0A (encode newLine) (encode text) := by
  induction text with
  | nil => rfl
  | cons c text ih =>
    by_cases feed : c = '\n'
    · subst feed
      have one : encode ('\n' :: text) = 0x0A :: encode text := rfl
      rw [one, replaceEach_cons_self, replaceEach_cons_self, encode, List.flatMap_append, ← encode, ← encode, ih]
    · have absent : 0x0A ∉ String.utf8EncodeChar c := fun member =>
        feed (eq_ofNat_of_ascii_mem member (by decide))
      rw [replaceEach_cons_of_ne feed, encode_cons, encode_cons, replaceEach_append,
        replaceEach_of_notMem absent, ih]

theorem decode_replaceEach (decoded : decode bytes = .ok text) (newLine : Text) :
    decode (replaceEach 0x0A (encode newLine) bytes) = .ok (replaceEach '\n' newLine text) := by
  rw [decode_eq_ok_iff] at decoded ⊢
  rw [decoded, encode_replaceEach]

/-! ## Bytes of no text -/

/-- A break separates the bytes on its two sides. -/
theorem fault?_break_append (ends : newLine ∈ Text.lineBreaks) (front rest : List UInt8) :
    fault? (front ++ (encode newLine ++ rest)) =
      ((fault? front).map Fault.whenContinued).or (fault? rest) := by
  simp only [Text.lineBreaks, List.mem_cons, List.not_mem_nil, or_false] at ends
  rcases ends with rfl | rfl | rfl
  · have feed := fault?_append_ascii [] (show (0x0A : UInt8) < 0x80 by decide) rest
    exact (fault?_append_ascii front (show (0x0D : UInt8) < 0x80 by decide) _).trans (congrArg _ feed)
  · exact fault?_append_ascii front (show (0x0D : UInt8) < 0x80 by decide) rest
  · exact fault?_append_ascii front (show (0x0A : UInt8) < 0x80 by decide) rest

/-- The fault stays the same when line feeds are written as other breaks. -/
theorem fault?_replaceEach (ends : newLine ∈ Text.lineBreaks) (bytes : List UInt8) :
    fault? (replaceEach 0x0A (encode newLine) bytes) = fault? bytes := by
  -- up to the first line feed nothing changes, and what comes after it is shorter
  induction length : bytes.length using Nat.strongRecOn generalizing bytes with
  | ind size ih =>
    by_cases feed : 0x0A ∈ bytes
    · obtain ⟨front, rest, rfl, absent⟩ := List.eq_append_cons_of_mem feed
      have shorter : rest.length < size := by
        rw [← length, List.length_append, List.length_cons]
        omega
      have broken := fault?_break_append (show ['\n'] ∈ Text.lineBreaks by decide) front rest
      rw [replaceEach_append, replaceEach_of_notMem absent, replaceEach_cons_self, fault?_break_append ends,
        ih rest.length shorter rest rfl]
      exact broken.symm
    · rw [replaceEach_of_notMem feed]

end QueryTemplates.Utf8
