import Mathlib.Data.List.Forall2
import QueryTemplates.Proofs.Definitions.Blocks

/-! # The grammar of template files

The lines of a file can be laid out in one way only: as the lines before the first marker line, and blocks,
each of which is a marker line and the lines up to the next one. This layout says what a file is split into,
or what is found wrong with it first.
-/

namespace QueryTemplates

/-- A marker line, of which only what follows the marker is told, and the lines up to the next one. -/
structure Block where
  heading : Text
  between : List Text

namespace BlockFormat

/-- The line starts with the marker. -/
def IsMarkerLine (format : BlockFormat) (line : Text) : Prop := format.marker.text <+: line

/-- The lines of a block. -/
def blockLines (format : BlockFormat) (block : Block) : List Text :=
  (format.marker.text ++ block.heading) :: block.between

/-- The lines consist of those before the first marker line and of the lines of blocks. -/
structure Layout (format : BlockFormat) (lines before : List Text) (blocks : List Block) : Prop where
  lines_eq : lines = before ++ blocks.flatMap format.blockLines
  before_plain : ∀ line ∈ before, ¬ format.IsMarkerLine line
  between_plain : ∀ block ∈ blocks, ∀ line ∈ block.between, ¬ format.IsMarkerLine line

/-- The identifier that a marker line gives. -/
def idOf (format : BlockFormat) (heading : Text) : Text :=
  if format.trimsIds then heading.trim else heading

/-- A block defines a body: the lines after its marker line, without the runs of blank lines at the two ends
and joined by line feeds. -/
structure Defines (format : BlockFormat) (block : Block) (pair : Text × Text) : Prop where
  id : pair.1 = format.idOf block.heading
  body : ∃ kept, TrimsTo block.between kept ∧ pair.2 = Text.joinWith ['\n'] kept

/-- What lines have to be split into. A marker line without an identifier is found wrong before content that
belongs to no block. -/
inductive Splits (format : BlockFormat) (lines : List Text) :
    Except Malformation (List (Text × Text)) → Prop
  | blankId {before : List Text} {earlier later : List Block} {block : Block}
      (layout : format.Layout lines before (earlier ++ block :: later))
      (named : ∀ other ∈ earlier, other.heading.isBlank = false) (blank : block.heading.isBlank = true) :
      Splits format lines (.error (.blankId ((before ++ earlier.flatMap format.blockLines).length + 1)))
  | noMarker (unmarked : ∀ line ∈ lines, ¬ format.IsMarkerLine line)
      (content : ∃ line ∈ lines, line.isBlank = false) :
      Splits format lines (.error (.noMarker format.marker.text))
  | strayContent {before : List Text} {blocks : List Block} (layout : format.Layout lines before blocks)
      (some_block : blocks ≠ []) (named : ∀ block ∈ blocks, block.heading.isBlank = false)
      (content : ∃ line ∈ before, line.isBlank = false) : Splits format lines (.error .strayContent)
  | definitions {before : List Text} {blocks : List Block} {pairs : List (Text × Text)}
      (layout : format.Layout lines before blocks)
      (named : ∀ block ∈ blocks, block.heading.isBlank = false)
      (no_content : ∀ line ∈ before, line.isBlank = true)
      (define : List.Forall₂ format.Defines blocks pairs) : Splits format lines (.ok pairs)

variable {format : BlockFormat} {line id heading : Text} {lines before : List Text} {blocks : List Block}

/-! ## Marker lines -/

theorem id?_append (format : BlockFormat) (heading : Text) :
    format.id? (format.marker.text ++ heading) = some (format.idOf heading) := by
  rw [id?, Text.dropStart?_eq_some_iff.mpr rfl]
  rfl

theorem id?_eq_some_iff :
    format.id? line = some id ↔ ∃ heading, line = format.marker.text ++ heading ∧ format.idOf heading = id := by
  simp only [id?, Option.map_eq_some_iff, Text.dropStart?_eq_some_iff, idOf]

theorem id?_eq_none_iff : format.id? line = none ↔ ¬ format.IsMarkerLine line := by
  rw [Option.eq_none_iff_forall_ne_some]
  constructor
  · rintro plain ⟨heading, rfl⟩
    exact plain _ (id?_append format heading)
  · intro plain id found
    obtain ⟨heading, rfl, -⟩ := id?_eq_some_iff.mp found
    exact plain (List.prefix_append _ _)

/-! ## Layouts -/

/-- Lines can be laid out. -/
theorem exists_layout (format : BlockFormat) (lines : List Text) :
    ∃ before blocks, format.Layout lines before blocks := by
  induction lines with
  | nil => exact ⟨[], [], rfl, fun _ absent => absurd absent List.not_mem_nil,
      fun _ absent => absurd absent List.not_mem_nil⟩
  | cons line rest ih =>
    obtain ⟨before, blocks, rfl, before_plain, between_plain⟩ := ih
    by_cases marker : format.IsMarkerLine line
    · obtain ⟨heading, rfl⟩ := marker
      refine ⟨[], ⟨heading, before⟩ :: blocks, rfl, fun _ absent => absurd absent List.not_mem_nil, ?_⟩
      exact List.forall_mem_cons.mpr ⟨before_plain, between_plain⟩
    · exact ⟨line :: before, blocks, rfl, List.forall_mem_cons.mpr ⟨marker, before_plain⟩, between_plain⟩

theorem cut_append_plain (plain : ∀ line ∈ before, ¬ format.IsMarkerLine line) (rest : List Text) :
    format.cut (before ++ rest) = (before ++ (format.cut rest).1, (format.cut rest).2) := by
  induction before with
  | nil => rfl
  | cons line before ih =>
    obtain ⟨first, later⟩ := List.forall_mem_cons.mp plain
    rw [List.cons_append, cut_cons_plain (id?_eq_none_iff.mpr first), ih later]
    rfl

/-- The lines of a file are cut as they are laid out. -/
theorem Layout.cut_eq (layout : format.Layout lines before blocks) :
    format.cut lines = (before, blocks.map fun block => (format.idOf block.heading, block.between)) := by
  obtain ⟨rfl, before_plain, between_plain⟩ := layout
  rw [cut_append_plain before_plain]
  have blocks_cut : format.cut (blocks.flatMap format.blockLines) =
      ([], blocks.map fun block => (format.idOf block.heading, block.between)) := by
    clear before_plain
    induction blocks with
    | nil => rfl
    | cons block blocks ih =>
      obtain ⟨own, others⟩ := List.forall_mem_cons.mp between_plain
      rw [List.flatMap_cons, blockLines, List.cons_append, cut_cons_marker (id?_append _ _),
        cut_append_plain own, ih others, List.append_nil, List.map_cons]
  rw [blocks_cut, List.append_nil]

theorem Layout.unmarked_iff (layout : format.Layout lines before blocks) :
    (∀ line ∈ lines, ¬ format.IsMarkerLine line) ↔ blocks = [] := by
  obtain ⟨rfl, before_plain, -⟩ := layout
  constructor
  · intro unmarked
    rcases blocks with _ | ⟨block, blocks⟩
    · rfl
    · refine absurd (List.prefix_append _ _) (unmarked (format.marker.text ++ block.heading) ?_)
      exact List.mem_append_right _ (List.mem_cons_self ..)
  · rintro rfl line member
    rw [List.flatMap_nil, List.append_nil] at member
    exact before_plain line member

/-! ## Blank identifiers -/

theorem isBlank_idOf (format : BlockFormat) (heading : Text) :
    (format.idOf heading).isBlank = heading.isBlank := by
  rw [idOf]
  split
  · exact Text.isBlank_trim heading
  · rfl

theorem blankMarker?_append_plain (plain : ∀ line ∈ before, ¬ format.IsMarkerLine line) (number : Nat)
    (rest : List Text) :
    format.blankMarker? number (before ++ rest) = format.blankMarker? (number + before.length) rest := by
  induction before generalizing number with
  | nil => rfl
  | cons line before ih =>
    obtain ⟨first, later⟩ := List.forall_mem_cons.mp plain
    rw [List.cons_append, blankMarker?, id?_eq_none_iff.mpr first]
    simp only [ih later, List.length_cons]
    rw [Nat.add_assoc, Nat.add_comm 1]

theorem blankMarker?_block {block : Block} (plain : ∀ line ∈ block.between, ¬ format.IsMarkerLine line)
    (number : Nat) (rest : List Text) :
    format.blankMarker? number (format.blockLines block ++ rest) =
      if block.heading.isBlank then some number
      else format.blankMarker? (number + (format.blockLines block).length) rest := by
  rw [blockLines, List.cons_append, blankMarker?, id?_append]
  simp only [isBlank_idOf, blankMarker?_append_plain plain, List.length_cons]
  rw [Nat.add_assoc, Nat.add_comm 1]

/-- Blocks with identifiers are passed by. -/
theorem blankMarker?_blocks (plain : ∀ block ∈ blocks, ∀ line ∈ block.between, ¬ format.IsMarkerLine line)
    (named : ∀ block ∈ blocks, block.heading.isBlank = false) (number : Nat) (rest : List Text) :
    format.blankMarker? number (blocks.flatMap format.blockLines ++ rest) =
      format.blankMarker? (number + (blocks.flatMap format.blockLines).length) rest := by
  induction blocks generalizing number with
  | nil => rfl
  | cons block blocks ih =>
    obtain ⟨own, others⟩ := List.forall_mem_cons.mp plain
    obtain ⟨first, later⟩ := List.forall_mem_cons.mp named
    rw [List.flatMap_cons, List.append_assoc, blankMarker?_block own, if_neg (Bool.eq_false_iff.mp first),
      ih others later, List.length_append, Nat.add_assoc]

/-! ## Splitting -/

/-- The identifier and the body that a block defines. -/
def definitionOf (format : BlockFormat) (block : Block) : Text × Text :=
  (format.idOf block.heading, bodyText block.between)

theorem defines_iff {block : Block} {pair : Text × Text} :
    format.Defines block pair ↔ pair = format.definitionOf block := by
  constructor
  · rintro ⟨identified, kept, trims, body⟩
    rw [trims.eq_trimBlankLines] at body
    exact Prod.ext identified body
  · rintro rfl
    exact ⟨rfl, _, trimsTo_trimBlankLines block.between, rfl⟩

theorem forall₂_defines_iff {pairs : List (Text × Text)} :
    List.Forall₂ format.Defines blocks pairs ↔ pairs = blocks.map format.definitionOf := by
  constructor
  · intro define
    induction define with
    | nil => rfl
    | cons first _ ih => rw [List.map_cons, defines_iff.mp first, ih]
  · rintro rfl
    exact List.forall₂_map_right_iff.mpr (List.forall₂_same.mpr fun block _ => defines_iff.mpr rfl)

variable {text : Text} {outcome : Except Malformation (List (Text × Text))}

/-- Where all blocks have identifiers, only the lines before them can be wrong. -/
theorem split_of_named (layout : format.Layout text.lines before blocks)
    (named : ∀ block ∈ blocks, block.heading.isBlank = false) :
    format.split text =
      if before.all Text.isBlank then .ok (blocks.map format.definitionOf)
      else if blocks.isEmpty then .error (.noMarker format.marker.text)
      else .error .strayContent := by
  have none_blank : format.blankMarker? 1 text.lines = none := by
    have passed := blankMarker?_blocks layout.between_plain named (1 + before.length) []
    rw [List.append_nil, ← blankMarker?_append_plain layout.before_plain, ← layout.lines_eq] at passed
    exact passed
  simp only [split, none_blank, layout.cut_eq, List.map_map, List.isEmpty_map]
  rfl

theorem split_of_blank {earlier later : List Block} {block : Block}
    (layout : format.Layout text.lines before (earlier ++ block :: later))
    (named : ∀ other ∈ earlier, other.heading.isBlank = false) (blank : block.heading.isBlank = true) :
    format.split text =
      .error (.blankId ((before ++ earlier.flatMap format.blockLines).length + 1)) := by
  obtain ⟨lines_eq, before_plain, between_plain⟩ := layout
  obtain ⟨earlier_plain, plain⟩ := List.forall_mem_append.mp between_plain
  have found : format.blankMarker? 1 text.lines =
      some ((before ++ earlier.flatMap format.blockLines).length + 1) := by
    rw [lines_eq, blankMarker?_append_plain before_plain, List.flatMap_append,
      blankMarker?_blocks earlier_plain named, List.flatMap_cons,
      blankMarker?_block (plain block (List.mem_cons_self ..)), if_pos blank, List.length_append,
      Nat.add_assoc, Nat.add_comm 1]
  rw [split, found]

theorem Splits.split_eq (splits : format.Splits text.lines outcome) : format.split text = outcome := by
  cases splits with
  | blankId layout named blank => exact split_of_blank layout named blank
  | noMarker unmarked content =>
    obtain ⟨before, blocks, layout⟩ := format.exists_layout text.lines
    obtain rfl := layout.unmarked_iff.mp unmarked
    have whole : before = text.lines := by
      rw [layout.lines_eq, List.flatMap_nil, List.append_nil]
    rw [split_of_named layout fun _ absent => absurd absent List.not_mem_nil, whole, if_neg]
    · rfl
    · simpa using content
  | strayContent layout some_block named content =>
    rw [split_of_named layout named, if_neg, if_neg]
    · simpa using some_block
    · simpa using content
  | definitions layout named no_content define =>
    rw [split_of_named layout named, if_pos (List.all_eq_true.mpr no_content),
      forall₂_defines_iff.mp define]

theorem exists_first_blank (blocks : List Block) :
    (∀ block ∈ blocks, block.heading.isBlank = false) ∨ ∃ earlier block later,
      blocks = earlier ++ block :: later ∧ (∀ other ∈ earlier, other.heading.isBlank = false) ∧
        block.heading.isBlank = true := by
  induction blocks with
  | nil => exact .inl fun _ absent => absurd absent List.not_mem_nil
  | cons block blocks ih =>
    cases blank : block.heading.isBlank with
    | true => exact .inr ⟨[], block, blocks, rfl, fun _ absent => absurd absent List.not_mem_nil, blank⟩
    | false =>
      rcases ih with named | ⟨earlier, first, later, rfl, named, first_blank⟩
      · exact .inl (List.forall_mem_cons.mpr ⟨blank, named⟩)
      · exact .inr ⟨block :: earlier, first, later, rfl, List.forall_mem_cons.mpr ⟨blank, named⟩, first_blank⟩

theorem exists_splits (format : BlockFormat) (lines : List Text) : ∃ outcome, format.Splits lines outcome := by
  obtain ⟨before, blocks, layout⟩ := format.exists_layout lines
  rcases exists_first_blank blocks with named | ⟨earlier, block, later, rfl, named, blank⟩
  · by_cases no_content : ∀ line ∈ before, line.isBlank = true
    · exact ⟨_, .definitions layout named no_content (forall₂_defines_iff.mpr rfl)⟩
    · have content : ∃ line ∈ before, line.isBlank = false := by simpa using no_content
      by_cases some_block : blocks = []
      · have unmarked := layout.unmarked_iff.mpr some_block
        obtain ⟨line, member, not_blank⟩ := content
        refine ⟨_, .noMarker unmarked ⟨line, ?_, not_blank⟩⟩
        rw [layout.lines_eq]
        exact List.mem_append_left _ member
      · exact ⟨_, .strayContent layout some_block named content⟩
  · exact ⟨_, .blankId layout named blank⟩

theorem split_eq_iff : format.split text = outcome ↔ format.Splits text.lines outcome := by
  constructor
  · rintro rfl
    obtain ⟨other, splits⟩ := format.exists_splits text.lines
    rw [splits.split_eq]
    exact splits
  · exact Splits.split_eq

/-! ## Failures -/

/-- Some marker line has nothing but white space after the marker. -/
def HasBlankMarker (format : BlockFormat) (lines : List Text) : Prop :=
  ∃ heading, format.marker.text ++ heading ∈ lines ∧ heading.isBlank = true

/-- Some line that is not blank comes before the first marker line. -/
def HasStrayContent (format : BlockFormat) (lines : List Text) : Prop :=
  ∃ earlier line later, lines = earlier ++ line :: later ∧ line.isBlank = false ∧
    ∀ other ∈ earlier ++ [line], ¬ format.IsMarkerLine other

theorem Layout.hasBlankMarker_iff (layout : format.Layout lines before blocks) :
    format.HasBlankMarker lines ↔ ∃ block ∈ blocks, block.heading.isBlank = true := by
  obtain ⟨rfl, before_plain, between_plain⟩ := layout
  constructor
  · rintro ⟨heading, member, blank⟩
    have marks : format.IsMarkerLine (format.marker.text ++ heading) := List.prefix_append _ _
    rcases List.mem_append.mp member with early | member
    · exact absurd marks (before_plain _ early)
    · obtain ⟨block, present, own⟩ := List.mem_flatMap.mp member
      rcases List.mem_cons.mp own with same | between
      · exact ⟨block, present, List.append_cancel_left same ▸ blank⟩
      · exact absurd marks (between_plain block present _ between)
  · rintro ⟨block, present, blank⟩
    refine ⟨block.heading, List.mem_append_right _ (List.mem_flatMap.mpr ⟨block, present, ?_⟩), blank⟩
    exact List.mem_cons_self ..

theorem Layout.hasStrayContent_iff (layout : format.Layout lines before blocks) :
    format.HasStrayContent lines ↔ ∃ line ∈ before, line.isBlank = false := by
  constructor
  · rintro ⟨earlier, line, later, rfl, not_blank, plain⟩
    refine ⟨line, ?_, not_blank⟩
    have until_marker := cut_append_plain plain later
    rw [List.append_assoc, List.singleton_append, layout.cut_eq] at until_marker
    rw [(Prod.mk.inj until_marker).1]
    simp
  · rintro ⟨line, member, not_blank⟩
    obtain ⟨rfl, before_plain, -⟩ := layout
    obtain ⟨earlier, later, rfl⟩ := List.append_of_mem member
    refine ⟨earlier, line, later ++ blocks.flatMap format.blockLines, ?_, not_blank, ?_⟩
    · rw [List.append_assoc, List.cons_append]
    · intro other among
      apply before_plain
      rw [List.append_cons]
      exact List.mem_append_left _ among

/-- Where all blocks have identifiers, splitting fails exactly for content before the first block. -/
theorem exists_error_iff_of_named (layout : format.Layout text.lines before blocks)
    (named : ∀ block ∈ blocks, block.heading.isBlank = false) :
    (∃ malformation, format.split text = .error malformation) ↔ ∃ line ∈ before, line.isBlank = false := by
  rw [split_of_named layout named]
  by_cases no_content : before.all Text.isBlank = true
  · rw [if_pos no_content]
    constructor
    · rintro ⟨malformation, failed⟩
      cases failed
    · rintro ⟨line, member, not_blank⟩
      rw [List.all_eq_true.mp no_content line member] at not_blank
      cases not_blank
  · have content : ∃ line ∈ before, line.isBlank = false := by simpa using no_content
    rw [if_neg no_content]
    refine iff_of_true ?_ content
    split
    · exact ⟨_, rfl⟩
    · exact ⟨_, rfl⟩

/-- A file that consists of lines is split as the grammar says: into the definitions of its blocks, or with the first
marker line without an identifier as the error, or else with the content that belongs to no block. It cannot be
split exactly if there is such a marker line or such content. -/
theorem split_iff_grammar (format : BlockFormat) (consists : text.ConsistsOf lines) :
    (∀ outcome, format.split text = outcome ↔ format.Splits lines outcome) ∧
      ((∃ malformation, format.split text = .error malformation) ↔
        format.HasBlankMarker lines ∨ format.HasStrayContent lines) := by
  obtain rfl := Text.consistsOf_iff.mp consists
  refine ⟨fun outcome => split_eq_iff, ?_⟩
  obtain ⟨before, blocks, layout⟩ := format.exists_layout text.lines
  rw [layout.hasBlankMarker_iff, layout.hasStrayContent_iff]
  rcases exists_first_blank blocks with named | ⟨earlier, block, later, rfl, named, blank⟩
  · have no_blank : ¬ ∃ block ∈ blocks, block.heading.isBlank = true := by
      rintro ⟨block, present, blank⟩
      rw [named block present] at blank
      cases blank
    rw [exists_error_iff_of_named layout named, or_iff_right no_blank]
  · constructor
    · intro _
      exact .inl ⟨block, List.mem_append_right _ (List.mem_cons_self ..), blank⟩
    · intro _
      exact ⟨_, split_of_blank layout named blank⟩

/-- A marker line without an identifier counts before the content in front of the first marker. -/
theorem split_iff_grammar_blank :
    let text : Text := "SELECT 1\r\nID:q\rID: \t".toList
    let lines : List Text := ["SELECT 1".toList, "ID:q".toList, "ID: \t".toList]
    text.ConsistsOf lines ∧ (BlockFormat.mk .standard true).split text = .error (.blankId 3) ∧
      (BlockFormat.mk .standard true).Splits lines (.error (.blankId 3)) := by
  intro text lines
  have consists : text.ConsistsOf lines := Text.consistsOf_iff.mpr (by decide)
  have failed : (BlockFormat.mk .standard true).split text = .error (.blankId 3) := by decide
  exact ⟨consists, failed, ((split_iff_grammar _ consists).1 _).mp failed⟩

end BlockFormat

end QueryTemplates
