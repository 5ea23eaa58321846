import QueryTemplates.Proofs.Definitions.Grammar
import QueryTemplates.Proofs.Text.Parts

/-! # Writing definitions

Definitions are written one after another, each as its marker line and its body. Splitting what is written
gives the definitions back, if their identifiers and bodies can stand in a file at all; and those that are
found in a file always can.
-/

namespace QueryTemplates

namespace BlockFormat

/-- The text of definitions: a marker line and a body for each, with a line feed after both. -/
def write (format : BlockFormat) (pairs : List (Text × Text)) : Text :=
  pairs.flatMap fun pair => format.marker.text ++ pair.1 ++ '\n' :: (pair.2 ++ ['\n'])

/-- A definition that can stand in a file: its identifier fits on a marker line, and its body neither holds
marker lines nor has blank lines at its ends. -/
structure Writable (format : BlockFormat) (pair : Text × Text) : Prop where
  not_blank : pair.1.isBlank = false
  unbroken : Text.Unbroken pair.1
  trimmed : format.trimsIds = true → pair.1.trim = pair.1
  no_return : '\r' ∉ pair.2
  plain : ∀ line ∈ pair.2.lines, ¬ format.IsMarkerLine line
  ends : pair.2 = [] ∨ FreeAtEnds Text.isBlank pair.2.lines

variable {format : BlockFormat} {id body text : Text} {pairs : List (Text × Text)}

/-! ## What is written -/

theorem write_cons (format : BlockFormat) (id body : Text) (pairs : List (Text × Text)) :
    format.write ((id, body) :: pairs) =
      (format.marker.text ++ id) ++ '\n' :: (body ++ '\n' :: format.write pairs) := by
  simp [write]

/-- The lines of a text that is written: after the last line feed there is an empty line. -/
theorem lines_write (unbroken : pairs ≠ [] → Text.Unbroken format.marker.text)
    (writable : ∀ pair ∈ pairs, format.Writable pair) :
    (format.write pairs).lines =
      (pairs.flatMap fun pair => (format.marker.text ++ pair.1) :: pair.2.lines) ++ [[]] := by
  induction pairs with
  | nil => rfl
  | cons pair pairs ih =>
    obtain ⟨id, body⟩ := pair
    obtain ⟨own, others⟩ := List.forall_mem_cons.mp writable
    have marker_unbroken := unbroken (List.cons_ne_nil _ _)
    have heading_unbroken : Text.Unbroken (format.marker.text ++ id) :=
      List.forall_mem_append.mpr ⟨marker_unbroken, own.unbroken⟩
    have body_closed : body.getLast? ≠ some '\r' := fun last => own.no_return (List.mem_of_getLast? last)
    rw [write_cons, Text.lines_append_lineFeed heading_unbroken, Text.lines_append_break body_closed,
      ih (fun _ => marker_unbroken) others]
    simp

theorem not_isMarkerLine_nil (format : BlockFormat) : ¬ format.IsMarkerLine [] :=
  fun marks => format.marker.ne_nil (List.prefix_nil.mp marks)

/-- The lines of a body define it, also with blank lines behind them. -/
theorem Writable.defines {pair : Text × Text} (writable : format.Writable pair) {trailing : List Text}
    (blank : ∀ line ∈ trailing, line.isBlank = true) :
    format.Defines ⟨pair.1, pair.2.lines ++ trailing⟩ pair := by
  constructor
  · rw [idOf]
    split
    · next trims => exact (writable.trimmed trims).symm
    · rfl
  · rcases writable.ends with empty | free
    · have all_blank : ∀ line ∈ pair.2.lines ++ trailing, line.isBlank = true := by
        rw [empty]
        exact List.forall_mem_cons.mpr ⟨rfl, blank⟩
      refine ⟨[], ⟨pair.2.lines ++ trailing, [], ?_, ?_, ?_, ?_⟩, empty⟩
      · rw [List.append_nil, List.append_nil]
      · rw [List.append_nil]
        exact all_blank
      · intro _ absent
        cases absent
      · intro _ absent
        cases absent
    · exact ⟨pair.2.lines, ⟨[], trailing, rfl, blank, free⟩,
        (Text.joinWith_lines_of_no_return writable.no_return).symm⟩

/-- What is written is laid out in one block for each definition. -/
theorem exists_layout_of_writable (writable : ∀ pair ∈ pairs, format.Writable pair) : ∃ before blocks,
    format.Layout ((pairs.flatMap fun pair => (format.marker.text ++ pair.1) :: pair.2.lines) ++ [[]])
        before blocks ∧
      (∀ line ∈ before, line.isBlank = true) ∧ (∀ block ∈ blocks, block.heading.isBlank = false) ∧
      List.Forall₂ format.Defines blocks pairs := by
  induction pairs with
  | nil =>
    refine ⟨[[]], [], ⟨rfl, ?_, ?_⟩, ?_, ?_, .nil⟩
    · exact List.forall_mem_singleton.mpr format.not_isMarkerLine_nil
    · exact fun _ absent => absurd absent List.not_mem_nil
    · exact List.forall_mem_singleton.mpr rfl
    · exact fun _ absent => absurd absent List.not_mem_nil
  | cons pair pairs ih =>
    obtain ⟨own, others⟩ := List.forall_mem_cons.mp writable
    obtain ⟨before, blocks, ⟨lines_eq, before_plain, between_plain⟩, blank, named, define⟩ := ih others
    -- what stands before the first block of the others now stands at the end of the new block
    refine ⟨[], ⟨pair.1, pair.2.lines ++ before⟩ :: blocks, ⟨?_, ?_, ?_⟩, ?_, ?_, ?_⟩
    · rw [List.flatMap_cons, List.append_assoc, lines_eq]
      simp [blockLines]
    · exact fun _ absent => absurd absent List.not_mem_nil
    · exact List.forall_mem_cons.mpr ⟨List.forall_mem_append.mpr ⟨own.plain, before_plain⟩, between_plain⟩
    · exact fun _ absent => absurd absent List.not_mem_nil
    · exact List.forall_mem_cons.mpr ⟨own.not_blank, named⟩
    · exact .cons (own.defines blank) define

/-- Splitting gives back what is written. -/
theorem split_write (unbroken : pairs ≠ [] → Text.Unbroken format.marker.text)
    (writable : ∀ pair ∈ pairs, format.Writable pair) : format.split (format.write pairs) = .ok pairs := by
  obtain ⟨before, blocks, layout, blank, named, define⟩ := exists_layout_of_writable writable
  rw [← lines_write unbroken writable] at layout
  exact split_eq_iff.mpr (.definitions layout named blank define)

/-! ## What is found in files -/

theorem unbroken_idOf {heading : Text} (unbroken : Text.Unbroken heading) :
    Text.Unbroken (format.idOf heading) := by
  rw [idOf]
  split
  · exact fun c member => unbroken c (mem_of_mem_strip member)
  · exact unbroken

theorem Layout.unbroken_block {before : List Text} {blocks : List Block}
    (layout : format.Layout text.lines before blocks) {block : Block} (present : block ∈ blocks) :
    ∀ line ∈ format.blockLines block, Text.Unbroken line := by
  intro line member
  have inside : line ∈ text.lines := by
    rw [layout.lines_eq]
    exact List.mem_append_right _ (List.mem_flatMap.mpr ⟨block, present, member⟩)
  exact Text.unbroken_of_mem_lines inside

/-- The definition of a block can stand in a file. -/
theorem writable_definitionOf {block : Block} (named : block.heading.isBlank = false)
    (unbroken : ∀ line ∈ format.blockLines block, Text.Unbroken line)
    (plain : ∀ line ∈ block.between, ¬ format.IsMarkerLine line) :
    format.Writable (format.definitionOf block) := by
  obtain ⟨first, others⟩ := List.forall_mem_cons.mp unbroken
  have heading_unbroken : Text.Unbroken block.heading := (List.forall_mem_append.mp first).2
  have kept_unbroken : ∀ line ∈ trimBlankLines block.between, Text.Unbroken line :=
    fun line member => others line (mem_of_trimBlankLines member)
  have body_lines : trimBlankLines block.between = [] ∨
      (bodyText block.between).lines = trimBlankLines block.between := by
    by_cases empty : trimBlankLines block.between = []
    · exact .inl empty
    · exact .inr (Text.lines_joinWith_lineFeed empty kept_unbroken)
  constructor
  · exact (format.isBlank_idOf block.heading).trans named
  · exact unbroken_idOf heading_unbroken
  · intro trims
    simp only [definitionOf, idOf, trims, if_true]
    exact Text.trim_trim block.heading
  · intro member
    rcases Text.mem_joinWith member with feed | ⟨line, kept, inside⟩
    · exact absurd feed (by decide)
    · exact (kept_unbroken line kept '\r' inside).1 rfl
  · change ∀ line ∈ (bodyText block.between).lines, _
    rcases body_lines with empty | same
    · rw [bodyText, empty]
      exact List.forall_mem_singleton.mpr format.not_isMarkerLine_nil
    · rw [same]
      exact fun line member => plain line (mem_of_trimBlankLines member)
  · rcases body_lines with empty | same
    · left
      change bodyText block.between = []
      rw [bodyText, empty]
      rfl
    · right
      change FreeAtEnds Text.isBlank (bodyText block.between).lines
      rw [same, trimBlankLines_eq_strip]
      exact freeAtEnds_strip _ _

/-- All definitions that are found in a file can be written, and none is found if the marker has a break. -/
theorem writable_of_split (done : format.split text = .ok pairs) :
    (pairs ≠ [] → Text.Unbroken format.marker.text) ∧ ∀ pair ∈ pairs, format.Writable pair := by
  cases split_eq_iff.mp done with
  | definitions layout named no_content define =>
    obtain rfl := forall₂_defines_iff.mp define
    constructor
    · intro some_pair
      obtain ⟨block, present⟩ := List.exists_mem_of_ne_nil _ (mt List.map_eq_nil_iff.mpr some_pair)
      have marker_line := layout.unbroken_block present _ (List.mem_cons_self ..)
      exact (List.forall_mem_append.mp marker_line).1
    · intro pair member
      obtain ⟨block, present, rfl⟩ := List.mem_map.mp member
      exact writable_definitionOf (named block present) (layout.unbroken_block present)
        (layout.between_plain block present)

/-- Splitting gives back what is written, if the marker has no break in it and each definition can stand in a
file. The definitions that are found in any file can stand in one, so that they are found again when they
are written. -/
theorem split_of_write (format : BlockFormat) :
    (Text.Unbroken format.marker.text → ∀ pairs : List (Text × Text), (∀ pair ∈ pairs, format.Writable pair) →
      format.split (format.write pairs) = .ok pairs) ∧
    ∀ text pairs, format.split text = .ok pairs →
      (∀ pair ∈ pairs, format.Writable pair) ∧ format.split (format.write pairs) = .ok pairs := by
  constructor
  · intro unbroken pairs writable
    exact split_write (fun _ => unbroken) writable
  · intro text pairs done
    obtain ⟨unbroken, writable⟩ := writable_of_split done
    exact ⟨writable, split_write unbroken writable⟩

/-- Markers that begin with a blank, and identifiers that are kept as they are. -/
def indentedFormat : BlockFormat := ⟨⟨" #".toList, by decide⟩, false⟩

/-- Two definitions, of which the first one has a blank line in its body and the second one no body. -/
def indentedPairs : List (Text × Text) := [(" q ".toList, "SELECT 1\n \n# 2".toList), (['p'], [])]

theorem split_of_write_indented :
    Text.Unbroken indentedFormat.marker.text ∧ (∀ pair ∈ indentedPairs, indentedFormat.Writable pair) ∧
      indentedFormat.split (indentedFormat.write indentedPairs) = .ok indentedPairs ∧
      indentedFormat.split "\r\n # q \r\n\r\nSELECT 1\r \n# 2\n\t\n #p\r".toList = .ok indentedPairs := by
  have unbroken : Text.Unbroken indentedFormat.marker.text := by decide
  have found : indentedFormat.split "\r\n # q \r\n\r\nSELECT 1\r \n# 2\n\t\n #p\r".toList =
      .ok indentedPairs := by
    decide +kernel
  obtain ⟨given, back⟩ := split_of_write indentedFormat
  obtain ⟨writable, -⟩ := back _ _ found
  exact ⟨unbroken, writable, given unbroken _ writable, found⟩

end BlockFormat

end QueryTemplates
