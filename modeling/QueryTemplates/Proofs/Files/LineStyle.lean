import QueryTemplates.Proofs.Files.Alike
import QueryTemplates.Proofs.Text.LineStyle

/-! # Files with other breaks

A file without carriage returns can be written with another break in place of each line feed, be its bytes a
text or not. It is read as the same text then, or cannot be read for the same reason: the breaks are written as
line feeds when a file is read, and the mark at the start of a file has no byte of a break.
-/

namespace QueryTemplates

variable {newLine : Text} {bytes others : List UInt8}

/-- The bytes with a break in place of each line feed. -/
def rebreak (newLine : Text) (bytes : List UInt8) : List UInt8 :=
  replaceEach 0x0A (Utf8.encode newLine) bytes

/-- Two files are the same up to breaks if they have the same bytes, or if they come from bytes without carriage
returns, where each of them has a break of one kind in place of every line feed. -/
inductive SameUpToBreaks : List UInt8 → List UInt8 → Prop
  | refl (bytes : List UInt8) : SameUpToBreaks bytes bytes
  | styles {bytes : List UInt8} (no_return : 0x0D ∉ bytes) {first second : Text}
      (ends : first ∈ Text.lineBreaks) (also : second ∈ Text.lineBreaks) :
      SameUpToBreaks (rebreak first bytes) (rebreak second bytes)

/-- Breaks of one kind can take the place of line feeds. -/
theorem SameUpToBreaks.of_lineFeeds (ends : newLine ∈ Text.lineBreaks) (no_return : 0x0D ∉ bytes)
    (written : others = rebreak newLine bytes) : SameUpToBreaks bytes others := by
  have same : rebreak ['\n'] bytes = bytes := replaceEach_self 0x0A bytes
  have styles := SameUpToBreaks.styles no_return (show ['\n'] ∈ Text.lineBreaks by decide) ends
  rwa [same, ← written] at styles

theorem exists_encode_break (ends : newLine ∈ Text.lineBreaks) :
    ∃ first more, Utf8.encode newLine = first :: more ∧ (first = 0x0D ∨ first = 0x0A) := by
  simp only [Text.lineBreaks, List.mem_cons, List.not_mem_nil, or_false] at ends
  rcases ends with rfl | rfl | rfl
  · exact ⟨0x0D, [0x0A], rfl, .inl rfl⟩
  · exact ⟨0x0D, [], rfl, .inl rfl⟩
  · exact ⟨0x0A, [], rfl, .inr rfl⟩

theorem exists_of_rebreak_eq_cons (ends : newLine ∈ Text.lineBreaks) {b : UInt8} {more : List UInt8}
    (foreign : b ≠ 0x0D ∧ b ≠ 0x0A) (split : rebreak newLine bytes = b :: more) :
    ∃ rest, bytes = b :: rest ∧ rebreak newLine rest = more := by
  cases bytes with
  | nil => cases split
  | cons own rest =>
    by_cases feed : own = 0x0A
    · obtain ⟨first, others, encoded, breaks⟩ := exists_encode_break ends
      rw [feed, rebreak, replaceEach_cons_self, encoded] at split
      obtain ⟨rfl, -⟩ := List.cons.inj split
      exact absurd breaks (not_or.mpr foreign)
    · rw [rebreak, replaceEach_cons_of_ne feed] at split
      obtain ⟨rfl, rfl⟩ := List.cons.inj split
      exact ⟨rest, rfl, rfl⟩

theorem eq_nil_of_rebreak (ends : newLine ∈ Text.lineBreaks) (none : rebreak newLine bytes = []) : bytes = [] := by
  cases bytes with
  | nil => rfl
  | cons own rest =>
    by_cases feed : own = 0x0A
    · obtain ⟨first, others, encoded, -⟩ := exists_encode_break ends
      rw [feed, rebreak, replaceEach_cons_self, encoded] at none
      cases none
    · rw [rebreak, replaceEach_cons_of_ne feed] at none
      cases none

/-- The mark at the start of a file has no byte of a break. -/
theorem dropByteOrderMark_rebreak (ends : newLine ∈ Text.lineBreaks) (bytes : List UInt8) :
    dropByteOrderMark (rebreak newLine bytes) = rebreak newLine (dropByteOrderMark bytes) := by
  fun_cases dropByteOrderMark bytes with
  | case1 => rfl
  | case2 => rfl
  | case3 rest => rfl
  | case4 _ not_one not_two not_mark =>
    rw [dropByteOrderMark]
    · intro begun
      obtain ⟨behind, rfl, none⟩ := exists_of_rebreak_eq_cons ends (by decide) begun
      exact not_one (by rw [eq_nil_of_rebreak ends none])
    · intro begun
      obtain ⟨behind, rfl, second⟩ := exists_of_rebreak_eq_cons ends (by decide) begun
      obtain ⟨later, rfl, none⟩ := exists_of_rebreak_eq_cons ends (by decide) second
      exact not_two (by rw [eq_nil_of_rebreak ends none])
    · intro after begun
      obtain ⟨behind, rfl, second⟩ := exists_of_rebreak_eq_cons ends (by decide) begun
      obtain ⟨later, rfl, third⟩ := exists_of_rebreak_eq_cons ends (by decide) second
      obtain ⟨rest, rfl, -⟩ := exists_of_rebreak_eq_cons ends (by decide) third
      exact not_mark rest rfl

theorem dropByteOrderMark_suffix (bytes : List UInt8) : dropByteOrderMark bytes <:+ bytes := by
  fun_cases dropByteOrderMark bytes with
  | case1 => exact List.nil_suffix
  | case2 => exact List.nil_suffix
  | case3 rest => exact ⟨[0xEF, 0xBB, 0xBF], rfl⟩
  | case4 => exact List.suffix_refl _

/-- Bytes without carriage returns are read alike, whatever break stands in place of their line feeds. -/
theorem textOf_rebreak (ends : newLine ∈ Text.lineBreaks) (no_return : 0x0D ∉ bytes) :
    textOf (rebreak newLine bytes) = textOf bytes := by
  have plain : 0x0D ∉ dropByteOrderMark bytes := fun member =>
    no_return ((dropByteOrderMark_suffix bytes).subset member)
  rw [textOf, textOf, dropByteOrderMark_rebreak ends]
  generalize dropByteOrderMark bytes = content at plain ⊢
  cases decoded : Utf8.decode content with
  | ok text =>
    have without : '\r' ∉ text := by
      intro member
      rw [Utf8.decode_eq_ok_iff.mp decoded] at plain
      exact plain (List.mem_flatMap.mpr ⟨'\r', member, by decide⟩)
    rw [rebreak, Utf8.decode_replaceEach decoded newLine]
    simp only [Text.normalizeBreaks, Text.lines_replaceEach ends without]
  | error failure =>
    have fault := Utf8.fault?_replaceEach ends content
    rw [Utf8.fault?, Utf8.fault?, decoded] at fault
    rw [rebreak]
    -- these bytes have the same fault, so they are not decoded either
    generalize Utf8.decode (replaceEach 0x0A (Utf8.encode newLine) content) = changed at fault ⊢
    cases changed with
    | ok text => cases fault
    | error other => exact congrArg Except.error (Option.some.inj fault)

theorem SameUpToBreaks.textOf_eq (same : SameUpToBreaks bytes others) : textOf bytes = textOf others := by
  cases same with
  | refl => rfl
  | styles no_return ends also => rw [textOf_rebreak ends no_return, textOf_rebreak also no_return]

end QueryTemplates
