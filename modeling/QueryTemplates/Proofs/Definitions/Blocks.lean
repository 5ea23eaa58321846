import QueryTemplates.Definitions.Blocks
import QueryTemplates.Proofs.Text.Lines
import QueryTemplates.Proofs.Text.Strip

/-! # Where the blocks of a file stand

Each block belongs to a marker line, in the order of these lines, and has the lines up to the next one. Its
body is what remains when the blank lines at its two ends are taken away, and no character of a line gets
lost on the way to the text of the body.
-/

namespace QueryTemplates

namespace BlockFormat

variable {format : BlockFormat} {lines : List Text}

/-- The line is no marker line. -/
def isPlain (format : BlockFormat) (line : Text) : Bool := (format.id? line).isNone

/-- The lines up to the first marker line. -/
def untilMarker (format : BlockFormat) (lines : List Text) : List Text := lines.takeWhile format.isPlain

/-! ## Cutting -/

theorem cut_cons_marker {line id : Text} (marker : format.id? line = some id) (rest : List Text) :
    format.cut (line :: rest) = ([], (id, (format.cut rest).1) :: (format.cut rest).2) := by
  rw [cut, marker]

theorem cut_cons_plain {line : Text} (plain : format.id? line = none) (rest : List Text) :
    format.cut (line :: rest) = (line :: (format.cut rest).1, (format.cut rest).2) := by
  rw [cut, plain]

/-- A block has the lines up to the next marker line. -/
theorem cut_fst (format : BlockFormat) (lines : List Text) :
    (format.cut lines).1 = format.untilMarker lines := by
  induction lines with
  | nil => rfl
  | cons line rest ih =>
    rw [untilMarker, List.takeWhile_cons, isPlain]
    cases marker : format.id? line with
    | some id => rw [cut_cons_marker marker]; rfl
    | none =>
      rw [cut_cons_plain marker, ih]
      rfl

/-- The identifiers of the blocks are those on the marker lines. -/
theorem cut_ids (format : BlockFormat) (lines : List Text) :
    (format.cut lines).2.map Prod.fst = lines.filterMap format.id? := by
  induction lines with
  | nil => rfl
  | cons line rest ih =>
    cases marker : format.id? line with
    | some id => rw [cut_cons_marker marker, List.filterMap_cons_some marker, List.map_cons, ih]
    | none => rw [cut_cons_plain marker, List.filterMap_cons_none marker, ih]

/-- Each block stands at a marker line, and the blocks around it are those of the lines around. -/
theorem exists_marker_of_cut {earlier later : List (Text × List Text)} {id : Text} {body : List Text}
    (blocks : (format.cut lines).2 = earlier ++ (id, body) :: later) : ∃ before marker after,
      lines = before ++ marker :: after ∧ format.id? marker = some id ∧
        body = format.untilMarker after ∧ earlier.map Prod.fst = before.filterMap format.id? ∧
        later.map Prod.fst = after.filterMap format.id? := by
  induction lines generalizing earlier with
  | nil => exact absurd blocks (by simp [cut])
  | cons line rest ih =>
    cases marker : format.id? line with
    | none =>
      rw [cut_cons_plain marker] at blocks
      obtain ⟨before, own, after, rfl, identified, between, ids, others⟩ := ih blocks
      refine ⟨line :: before, own, after, rfl, identified, between, ?_, others⟩
      rw [List.filterMap_cons_none marker]
      exact ids
    | some first =>
      rw [cut_cons_marker marker] at blocks
      cases earlier with
      | nil =>
        obtain ⟨same, rfl⟩ := List.cons.inj blocks
        cases same
        exact ⟨[], line, rest, rfl, marker, cut_fst format rest, rfl, cut_ids format rest⟩
      | cons block earlier =>
        obtain ⟨rfl, inner⟩ := List.cons.inj blocks
        obtain ⟨before, own, after, rfl, identified, between, ids, others⟩ := ih inner
        refine ⟨line :: before, own, after, rfl, identified, between, ?_, others⟩
        rw [List.filterMap_cons_some marker, List.map_cons, ids]

/-! ## Identifiers and bodies -/

/-- The identifiers and bodies of the blocks in lines. -/
def pairs (format : BlockFormat) (lines : List Text) : List (Text × Text) :=
  (format.cut lines).2.map fun block => (block.1, bodyText block.2)

theorem pairs_ids (format : BlockFormat) (lines : List Text) :
    (format.pairs lines).map Prod.fst = lines.filterMap format.id? := by
  rw [pairs, List.map_map]
  exact cut_ids format lines

/-- Each body is that of the lines between its marker line and the next one. -/
theorem exists_marker_of_pairs {earlier later : List (Text × Text)} {id body : Text}
    (blocks : format.pairs lines = earlier ++ (id, body) :: later) : ∃ before marker after,
      lines = before ++ marker :: after ∧ format.id? marker = some id ∧
        body = bodyText (format.untilMarker after) ∧ earlier.map Prod.fst = before.filterMap format.id? ∧
        later.map Prod.fst = after.filterMap format.id? := by
  obtain ⟨first, others, cuts, rfl, rest⟩ := List.map_eq_append_iff.mp blocks
  obtain ⟨⟨own, between⟩, second, rfl, same, rfl⟩ := List.map_eq_cons_iff.mp rest
  obtain ⟨rfl, rfl⟩ := Prod.mk.inj same
  obtain ⟨before, marker, after, split, identified, rfl, ids, more⟩ := exists_marker_of_cut cuts
  refine ⟨before, marker, after, split, identified, rfl, ?_, ?_⟩
  · rw [List.map_map]
    exact ids
  · rw [List.map_map]
    exact more

/-! ## Texts that can be split -/

theorem blankMarker?_eq_none_iff {number : Nat} : format.blankMarker? number lines = none ↔
    ∀ id ∈ lines.filterMap format.id?, id.isBlank = false := by
  induction lines generalizing number with
  | nil => simp [blankMarker?]
  | cons line rest ih =>
    rw [blankMarker?]
    cases marker : format.id? line with
    | none =>
      rw [List.filterMap_cons_none marker]
      exact ih
    | some id =>
      rw [List.filterMap_cons_some marker, List.forall_mem_cons]
      dsimp only
      cases blank : id.isBlank with
      | true => simp
      | false => simp [ih]

/-- The lines have an identifier on each marker line, and no content before the first one. -/
structure Splittable (format : BlockFormat) (lines : List Text) : Prop where
  named : ∀ id ∈ lines.filterMap format.id?, id.isBlank = false
  no_content : ∀ line ∈ format.untilMarker lines, line.isBlank = true

theorem split_eq_ok_iff {text : Text} {pairs : List (Text × Text)} :
    format.split text = .ok pairs ↔ format.Splittable text.lines ∧ pairs = format.pairs text.lines := by
  constructor
  · intro done
    simp only [split] at done
    split at done
    · cases done
    · next none_blank =>
      split_ifs at done with no_content
      cases done
      rw [List.all_eq_true, cut_fst] at no_content
      exact ⟨⟨blankMarker?_eq_none_iff.mp none_blank, no_content⟩, rfl⟩
  · rintro ⟨⟨named, no_content⟩, rfl⟩
    rw [← cut_fst, ← List.all_eq_true] at no_content
    simp only [split, blankMarker?_eq_none_iff.mpr named, no_content, if_true, pairs]

theorem split_eq_ok {text : Text} {pairs : List (Text × Text)} (done : format.split text = .ok pairs) :
    pairs = format.pairs text.lines :=
  (split_eq_ok_iff.mp done).2

end BlockFormat

/-! ## Bodies -/

/-- The second list is the first one without the runs of blank lines at its two ends, which are as long as
they can be. -/
def TrimsTo (lines kept : List Text) : Prop :=
  ∃ leading trailing, lines = leading ++ kept ++ trailing ∧
    (∀ line ∈ leading ++ trailing, line.isBlank = true) ∧
    (∀ line ∈ kept.head?, line.isBlank = false) ∧ ∀ line ∈ kept.getLast?, line.isBlank = false

theorem trimBlankLines_eq_strip (lines : List Text) : trimBlankLines lines = strip Text.isBlank lines := rfl

theorem trimsTo_trimBlankLines (lines : List Text) : TrimsTo lines (trimBlankLines lines) := by
  rw [trimBlankLines_eq_strip]
  exact exists_around_strip Text.isBlank lines

theorem TrimsTo.eq_trimBlankLines {lines kept : List Text} (trims : TrimsTo lines kept) :
    kept = trimBlankLines lines := by
  obtain ⟨leading, trailing, rfl, around, free⟩ := trims
  rw [trimBlankLines_eq_strip]
  exact (strip_around around free).symm

theorem mem_of_trimBlankLines {lines : List Text} {line : Text} (member : line ∈ trimBlankLines lines) :
    line ∈ lines :=
  mem_of_mem_strip member

/-- The lines of a body are those that are kept, whatever breaks they are joined with. -/
theorem joinWith_lines_bodyText {lines : List Text} (unbroken : ∀ line ∈ lines, Text.Unbroken line)
    (newLine : Text) :
    Text.joinWith newLine (bodyText lines).lines = Text.joinWith newLine (trimBlankLines lines) := by
  by_cases empty : trimBlankLines lines = []
  · rw [bodyText, empty]
    rfl
  · rw [bodyText, Text.lines_joinWith_lineFeed empty fun line member =>
      unbroken line (mem_of_trimBlankLines member)]

end QueryTemplates
