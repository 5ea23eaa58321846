import QueryTemplates.Proofs.Text.Parts
import QueryTemplates.Text.Lines

/-! # Lines and their breaks

Joining the lines of a text with another line break replaces each break and keeps every other character,
and joining lines with breaks of any one kind gives a text with these lines again. Hence the lines of a text
do not depend on how its breaks are written, and they are the only ones of which the text consists.
-/

namespace QueryTemplates.Text

/-- The text with every line break replaced: a carriage return with the line feed after it is one break. -/
def replaceBreaks (newLine : Text) : Text → Text
  | [] => []
  | '\r' :: '\n' :: rest => newLine ++ replaceBreaks newLine rest
  | c :: rest =>
    if c = '\r' ∨ c = '\n' then newLine ++ replaceBreaks newLine rest
    else c :: replaceBreaks newLine rest

/-- No character of the text breaks a line. -/
def Unbroken (text : Text) : Prop := ∀ c ∈ text, c ≠ '\r' ∧ c ≠ '\n'

instance (text : Text) : Decidable (Unbroken text) := List.decidableBAll _ text

theorem lines_ne_nil (text : Text) : text.lines ≠ [] := by
  fun_induction lines text with
  | case1 => exact List.cons_ne_nil _ _
  | case2 => exact List.cons_ne_nil _ _
  | case3 => exact List.cons_ne_nil _ _
  | case4 c rest _ _ ih =>
    obtain ⟨line, others, same⟩ := List.exists_cons_of_ne_nil ih
    rw [same]
    exact List.cons_ne_nil _ _

/-! ## Joining the lines of a text -/

theorem joinWith_break (newLine : Text) {lines : List Text} (some_line : lines ≠ []) :
    joinWith newLine ([] :: lines) = newLine ++ joinWith newLine lines := by
  simp only [joinWith, List.intercalate_cons_of_ne_nil some_line, List.nil_append]

theorem joinWith_extendFirst (newLine : Text) (c : Char) {lines : List Text}
    (some_line : lines ≠ []) :
    joinWith newLine (extendFirst c lines) = c :: joinWith newLine lines := by
  obtain ⟨line, others, rfl⟩ := List.exists_cons_of_ne_nil some_line
  exact List.intercalate_cons_cons_left

/-- Joining the lines of a text replaces its breaks and nothing else. -/
theorem joinWith_lines (newLine text : Text) :
    joinWith newLine text.lines = replaceBreaks newLine text := by
  fun_induction lines text with
  | case1 => rfl
  | case2 rest ih => rw [joinWith_break newLine (lines_ne_nil rest), ih, replaceBreaks]
  | case3 c rest pair breaks ih =>
    rw [joinWith_break newLine (lines_ne_nil rest), ih, replaceBreaks, if_pos breaks]
    exact pair
  | case4 c rest pair plain ih =>
    rw [joinWith_extendFirst newLine c (lines_ne_nil rest), ih, replaceBreaks, if_neg plain]
    exact pair

/-- The breaks of a text without carriage returns are its line feeds. -/
theorem replaceBreaks_of_no_return (newLine : Text) {text : Text} (no_return : '\r' ∉ text) :
    replaceBreaks newLine text = replaceEach '\n' newLine text := by
  fun_induction replaceBreaks newLine text with
  | case1 => rfl
  | case2 rest ih => exact absurd (List.mem_cons_self ..) no_return
  | case3 c rest pair breaks ih =>
    obtain ⟨other, later⟩ := not_or.mp fun member => no_return (List.mem_cons.mpr member)
    obtain rfl := breaks.resolve_left (Ne.symm other)
    rw [ih later, replaceEach_cons_self]
  | case4 c rest pair plain ih =>
    rw [ih fun later => no_return (List.mem_cons_of_mem _ later), replaceEach_cons_of_ne (not_or.mp plain).2]

/-- A text without carriage returns is that of its lines, joined with line feeds. -/
theorem joinWith_lines_of_no_return {text : Text} (no_return : '\r' ∉ text) :
    joinWith ['\n'] text.lines = text := by
  rw [joinWith_lines, replaceBreaks_of_no_return ['\n'] no_return, replaceEach_self]

/-! ## The lines of joined lines -/

theorem unbroken_of_mem_lines {text line : Text} (member : line ∈ text.lines) : Unbroken line := by
  fun_induction lines text generalizing line with
  | case1 =>
    obtain rfl := List.mem_singleton.mp member
    exact fun _ absent => (List.not_mem_nil absent).elim
  | case2 rest ih =>
    rcases List.mem_cons.mp member with rfl | member
    · exact fun _ absent => (List.not_mem_nil absent).elim
    · exact ih member
  | case3 c rest _ _ ih =>
    rcases List.mem_cons.mp member with rfl | member
    · exact fun _ absent => (List.not_mem_nil absent).elim
    · exact ih member
  | case4 c rest _ plain ih =>
    obtain ⟨first, others, same⟩ := List.exists_cons_of_ne_nil (lines_ne_nil rest)
    rw [same] at member ih
    rcases List.mem_cons.mp member with rfl | member
    · intro d present
      rcases List.mem_cons.mp present with rfl | present
      · exact not_or.mp plain
      · exact ih (List.mem_cons_self ..) d present
    · exact ih (List.mem_cons_of_mem _ member)

private theorem lines_cons_plain {c : Char} (rest : Text) (plain : c ≠ '\r' ∧ c ≠ '\n') :
    lines (c :: rest) = extendFirst c (lines rest) := by
  rw [lines]
  · rw [if_neg (not_or.mpr plain)]
  · rintro more rfl
    exact absurd rfl plain.1

/-- Text without breaks in front of other text is part of its first line. -/
theorem lines_append_of_unbroken {start rest line : Text} {later : List Text} (unbroken : Unbroken start)
    (split : lines rest = line :: later) : lines (start ++ rest) = (start ++ line) :: later := by
  induction start with
  | nil => exact split
  | cons c start ih =>
    rw [List.cons_append, lines_cons_plain _ (unbroken c (List.mem_cons_self ..)),
      ih fun d present => unbroken d (List.mem_cons_of_mem _ present)]
    rfl

theorem lines_of_unbroken {line : Text} (unbroken : Unbroken line) : lines line = [line] := by
  have whole := lines_append_of_unbroken unbroken (show lines [] = [[]] from rfl)
  rwa [List.append_nil] at whole

theorem lines_append_lineFeed {line : Text} (unbroken : Unbroken line) (rest : Text) :
    lines (line ++ '\n' :: rest) = line :: lines rest := by
  have whole := lines_append_of_unbroken unbroken (show lines ('\n' :: rest) = [] :: lines rest from rfl)
  rwa [List.append_nil] at whole

/-- A text begins with its first line. -/
theorem prefix_of_lines_eq_cons {text line : Text} {later : List Text} (split : lines text = line :: later) :
    line <+: text := by
  fun_induction lines text generalizing line later with
  | case1 =>
    cases split
    exact List.prefix_refl _
  | case2 =>
    cases split
    exact List.nil_prefix
  | case3 =>
    cases split
    exact List.nil_prefix
  | case4 c rest _ _ ih =>
    obtain ⟨first, others, same⟩ := List.exists_cons_of_ne_nil (lines_ne_nil rest)
    rw [same] at split
    cases split
    exact (List.prefix_cons_inj c).mpr (ih same)

private theorem getLast?_ne_of_cons {c d : Char} {rest : Text} (closed : (c :: rest).getLast? ≠ some d) :
    rest.getLast? ≠ some d := by
  intro last
  apply closed
  rw [List.getLast?_cons, last]
  rfl

/-- A break ends the lines of the text in front of it, unless it begins with a line feed and the text ends
with a carriage return: those two would make one break. -/
theorem lines_append_of_break {text tail rest : Text} (breaks : lines tail = [] :: lines rest)
    (apart : text.getLast? ≠ some '\r' ∨ tail.head? ≠ some '\n') :
    lines (text ++ tail) = lines text ++ lines rest := by
  fun_induction lines text with
  | case1 => exact breaks
  | case2 more ih =>
    have later := ih (apart.imp_left fun closed => getLast?_ne_of_cons (getLast?_ne_of_cons closed))
    rw [List.cons_append, List.cons_append, lines, later, List.cons_append]
  | case3 c more pair ends ih =>
    have later := ih (apart.imp_left getLast?_ne_of_cons)
    rw [List.cons_append, lines, if_pos ends, later, List.cons_append]
    -- a carriage return at the end would make one break with the line feed behind it
    rintro others rfl same
    rcases more with _ | ⟨d, more⟩
    · rw [List.nil_append] at same
      rcases apart with closed | closed
      · exact closed rfl
      · exact closed (congrArg List.head? same)
    · obtain ⟨rfl, -⟩ := List.cons.inj same
      exact pair _ rfl rfl
  | case4 c more pair plain ih =>
    have later := ih (apart.imp_left getLast?_ne_of_cons)
    obtain ⟨first, others, same⟩ := List.exists_cons_of_ne_nil (lines_ne_nil more)
    rw [List.cons_append, lines_cons_plain _ (not_or.mp plain), later, same]
    rfl

/-- A line feed is a break of its own, unless it comes after a carriage return. -/
theorem lines_append_break {text : Text} (closed : text.getLast? ≠ some '\r') (rest : Text) :
    lines (text ++ '\n' :: rest) = lines text ++ lines rest :=
  lines_append_of_break rfl (.inl closed)

/-- A carriage return at the end makes one break with the line feed behind it, so that one empty line is
lost. -/
theorem lines_append_break_of_return (text rest : Text) :
    lines (text ++ ['\r']) = lines text ++ [[]] ∧
      lines (text ++ ['\r'] ++ '\n' :: rest) = lines text ++ lines rest := by
  constructor
  · exact @lines_append_of_break text ['\r'] [] rfl (.inr (by decide))
  · rw [List.append_assoc]
    exact lines_append_of_break rfl (.inr (by simp))

/-- The breaks: a line ends with one of these. -/
def lineBreaks : List Text := [['\r', '\n'], ['\r'], ['\n']]

theorem lines_break_append {newLine rest : Text} (ends : newLine ∈ lineBreaks)
    (whole : newLine = ['\r'] → rest.head? ≠ some '\n') : lines (newLine ++ rest) = [] :: lines rest := by
  simp only [lineBreaks, List.mem_cons, List.not_mem_nil, or_false] at ends
  rcases ends with rfl | rfl | rfl
  · rfl
  · rw [List.singleton_append, lines, if_pos (.inl rfl)]
    rintro others - rfl
    exact whole rfl rfl
  · rfl

/-- Lines that are joined with breaks of one kind are the lines of the joined text. -/
theorem lines_joinWith {newLine : Text} (ends : newLine ∈ lineBreaks) {lines : List Text}
    (some_line : lines ≠ []) (unbroken : ∀ line ∈ lines, Unbroken line) :
    Text.lines (joinWith newLine lines) = lines := by
  induction lines with
  | nil => exact absurd rfl some_line
  | cons line others ih =>
    obtain ⟨first, later⟩ := List.forall_mem_cons.mp unbroken
    by_cases last : others = []
    · subst last
      rw [joinWith, List.intercalate_singleton]
      exact lines_of_unbroken first
    · have broken : Text.lines (newLine ++ joinWith newLine others) = [] :: others := by
        rw [lines_break_append ends, ih last later]
        -- there is no line feed in what is joined with carriage returns
        rintro rfl same
        rcases mem_joinWith (List.mem_of_mem_head? same) with between | ⟨other, among, member⟩
        · exact absurd between (by decide)
        · exact (later other among _ member).2 rfl
      rw [joinWith_cons newLine line last, List.append_assoc, lines_append_of_unbroken first broken,
        List.append_nil]

/-- Lines that are joined with line feeds are the lines of the joined text. -/
theorem lines_joinWith_lineFeed {lines : List Text} (some_line : lines ≠ [])
    (unbroken : ∀ line ∈ lines, Unbroken line) : Text.lines (joinWith ['\n'] lines) = lines :=
  lines_joinWith (by decide) some_line unbroken

/-- The lines of a text stay the same when its line feeds are written as breaks of another kind. -/
theorem lines_replaceEach {newLine text : Text} (ends : newLine ∈ lineBreaks) (no_return : '\r' ∉ text) :
    lines (replaceEach '\n' newLine text) = lines text := by
  rw [← replaceBreaks_of_no_return newLine no_return, ← joinWith_lines]
  exact lines_joinWith ends (lines_ne_nil text) fun _ member => unbroken_of_mem_lines member

/-- The lines of a text stay the same when its breaks are written as line feeds. -/
theorem lines_normalizeBreaks (text : Text) : text.normalizeBreaks.lines = text.lines :=
  lines_joinWith_lineFeed (lines_ne_nil text) fun _ member => unbroken_of_mem_lines member

theorem no_return_normalizeBreaks (text : Text) : '\r' ∉ text.normalizeBreaks := by
  intro member
  rcases mem_joinWith member with feed | ⟨line, among, inside⟩
  · exact absurd feed (by decide)
  · exact (unbroken_of_mem_lines among _ inside).1 rfl

/-! ## The only lines of a text -/

/-- A text consists of lines: each of them but the last one ends with a break, and a carriage return is a
break of its own only if no line feed comes after it. -/
inductive ConsistsOf : Text → List Text → Prop
  | last {line : Text} (unbroken : Unbroken line) : ConsistsOf line [line]
  | more {line newLine rest : Text} {later : List Text} (unbroken : Unbroken line) (ends : newLine ∈ lineBreaks)
    (whole : newLine = ['\r'] → rest.head? ≠ some '\n') (onward : ConsistsOf rest later) :
    ConsistsOf (line ++ newLine ++ rest) (line :: later)

theorem ConsistsOf.cons {c : Char} {text line : Text} {later : List Text} (plain : c ≠ '\r' ∧ c ≠ '\n')
    (consists : ConsistsOf text (line :: later)) : ConsistsOf (c :: text) ((c :: line) :: later) := by
  cases consists with
  | last unbroken => exact .last (List.forall_mem_cons.mpr ⟨plain, unbroken⟩)
  | more unbroken ends whole onward => exact .more (List.forall_mem_cons.mpr ⟨plain, unbroken⟩) ends whole onward

/-- A text consists of its lines. -/
theorem consistsOf_lines (text : Text) : ConsistsOf text text.lines := by
  have empty : Unbroken [] := fun _ absent => (List.not_mem_nil absent).elim
  fun_induction lines text with
  | case1 => exact .last empty
  | case2 rest ih =>
    exact @ConsistsOf.more [] ['\r', '\n'] rest _ empty (by decide) (fun same => absurd same (by decide)) ih
  | case3 c rest pair breaks ih =>
    refine @ConsistsOf.more [] [c] rest _ empty ?_ ?_ ih
    · rcases breaks with rfl | rfl
      · decide
      · decide
    · intro same first
      obtain ⟨others, rfl⟩ := List.head?_eq_some_iff.mp first
      exact pair others (List.cons.inj same).1 rfl
  | case4 c rest _ plain ih =>
    obtain ⟨line, later, same⟩ := List.exists_cons_of_ne_nil (lines_ne_nil rest)
    rw [same] at ih ⊢
    exact ih.cons (not_or.mp plain)

/-- It consists of no others. -/
theorem consistsOf_iff {text : Text} {lines : List Text} : ConsistsOf text lines ↔ text.lines = lines := by
  constructor
  · intro consists
    induction consists with
    | last unbroken => exact lines_of_unbroken unbroken
    | @more line newLine rest later unbroken ends whole _ ih =>
      have broken : Text.lines (newLine ++ rest) = [] :: later := by rw [lines_break_append ends whole, ih]
      rw [List.append_assoc, lines_append_of_unbroken unbroken broken, List.append_nil]
  · rintro rfl
    exact consistsOf_lines text

end QueryTemplates.Text
