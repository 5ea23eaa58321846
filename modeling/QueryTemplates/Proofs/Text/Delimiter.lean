import Mathlib.Data.List.Basic
import QueryTemplates.Proofs.Text.Lines
import QueryTemplates.Text.Delimiter

/-! # Reading wrapped texts

A reader of wrapped texts takes two delimiters for one that belongs to the content, and a single one for
the end. It gives a text back exactly when the closing delimiter, read from left to right behind the text,
is found as an occurrence of its own: a delimiter that overlaps itself may be met earlier. Delimiters
without overlaps, such as all single characters, give every text back, and they are the only ones.
-/

namespace QueryTemplates.Text

/-- The parts of a text between the occurrences of a delimiter that begin after the first `skip`
characters, found from left to right and without overlap. -/
def partsFrom (delimiter : Text) : (skip : Nat) → Text → List Text
  | _, [] => [[]]
  | skip + 1, _ :: rest => partsFrom delimiter skip rest
  | 0, c :: rest =>
    if delimiter.isPrefixOf (c :: rest) then [] :: partsFrom delimiter (delimiter.length - 1) rest
    else extendFirst c (partsFrom delimiter 0 rest)

/-- The parts of a text between the occurrences of a delimiter. There is one more part than those. -/
def parts (delimiter text : Text) : List Text := partsFrom delimiter 0 text

/-- The text with another one in place of each occurrence of the old one, from left to right and without
overlap. -/
def replace (old new text : Text) : Text := joinWith new (parts old text)

/-- Reads on behind an opening delimiter: two delimiters are one that belongs to the content, and a single
one closes. The result is the content and what is left over. -/
def readContent (delimiter : Text) : Text → Option (Text × Text)
  | [] => none
  | c :: rest =>
    if (delimiter ++ delimiter).isPrefixOf (c :: rest) then
      (readContent delimiter (rest.drop (2 * delimiter.length - 1))).map fun (content, left) =>
        (delimiter ++ content, left)
    else if delimiter.isPrefixOf (c :: rest) then some ([], rest.drop (delimiter.length - 1))
    else (readContent delimiter rest).map fun (content, left) => (c :: content, left)
termination_by text => text.length
decreasing_by
  · simp only [List.length_drop, List.length_cons]; omega
  · simp only [List.length_cons]; omega

/-- Reads a text that begins with a delimiter: its content and what is left over. -/
def readWrapped (delimiter text : Text) : Option (Text × Text) :=
  (dropStart? delimiter text).bind (readContent delimiter)

/-- No start of the delimiter is its end as well, apart from the empty text and the whole. -/
def Unbordered (delimiter : Text) : Prop :=
  ∀ border, border <+: delimiter → border <:+ delimiter → border = [] ∨ border = delimiter

variable {delimiter : Text}

/-! ## Parts -/

private theorem partsFrom_eq_parts_drop (delimiter : Text) (skip : Nat) (text : Text) :
    partsFrom delimiter skip text = parts delimiter (text.drop skip) := by
  induction text generalizing skip with
  | nil => simp only [List.drop_nil, parts, partsFrom]
  | cons c rest ih =>
    cases skip with
    | zero => rfl
    | succ skip => exact ih skip

theorem parts_ne_nil (delimiter text : Text) : parts delimiter text ≠ [] := by
  have all (skip : Nat) : partsFrom delimiter skip text ≠ [] := by
    fun_induction partsFrom delimiter skip text with
    | case1 => exact List.cons_ne_nil _ _
    | case2 skip c rest ih => exact ih
    | case3 => exact List.cons_ne_nil _ _
    | case4 c rest _ ih =>
      obtain ⟨part, others, same⟩ := List.exists_cons_of_ne_nil ih
      rw [same]
      exact List.cons_ne_nil _ _
  exact all 0

theorem parts_delimiter_append (some_delimiter : delimiter ≠ []) (rest : Text) :
    parts delimiter (delimiter ++ rest) = [] :: parts delimiter rest := by
  obtain ⟨c, more, rfl⟩ := List.exists_cons_of_ne_nil some_delimiter
  have found : (c :: more).isPrefixOf (c :: (more ++ rest)) = true :=
    List.isPrefixOf_iff_prefix.mpr (List.prefix_append (c :: more) rest)
  rw [List.cons_append, parts, partsFrom, if_pos found, partsFrom_eq_parts_drop]
  simp

theorem parts_cons {c : Char} {rest : Text} (plain : ¬ delimiter <+: c :: rest) :
    parts delimiter (c :: rest) = extendFirst c (parts delimiter rest) := by
  rw [parts, partsFrom, if_neg (mt List.isPrefixOf_iff_prefix.mp plain), parts]

/-- A text is read from left to right: it is empty, or it begins with the delimiter, or with a character
at which no delimiter begins. -/
@[elab_as_elim]
theorem delimiter_induction (some_delimiter : delimiter ≠ []) {motive : Text → Prop} (nil : motive [])
    (found : ∀ rest, motive rest → motive (delimiter ++ rest))
    (plain : ∀ c rest, ¬ delimiter <+: c :: rest → motive rest → motive (c :: rest)) (text : Text) :
    motive text := by
  induction length : text.length using Nat.strongRecOn generalizing text with
  | ind size ih =>
    cases text with
    | nil => exact nil
    | cons c rest =>
      by_cases here : delimiter <+: c :: rest
      · obtain ⟨later, same⟩ := here
        have size_delimiter := List.length_pos_iff.mpr some_delimiter
        have total := congrArg List.length same
        rw [List.length_append] at total
        rw [← same]
        exact found later (ih later.length (by omega) later rfl)
      · have shorter : rest.length < size := by
          rw [← length, List.length_cons]
          omega
        exact plain c rest here (ih rest.length shorter rest rfl)

/-! ## Replacing -/

section Replacing

variable {old rest : Text} {c : Char}

theorem replace_append (some_old : old ≠ []) (new rest : Text) :
    replace old new (old ++ rest) = new ++ replace old new rest := by
  rw [replace, parts_delimiter_append some_old, joinWith_break new (parts_ne_nil _ _), replace]

theorem replace_cons (plain : ¬ old <+: c :: rest) (new : Text) :
    replace old new (c :: rest) = c :: replace old new rest := by
  rw [replace, parts_cons plain, joinWith_extendFirst new c (parts_ne_nil _ _), replace]

end Replacing

/-- Doubling puts two delimiters in place of each one. -/
theorem double_eq_replace (delimiter text : Text) :
    double delimiter text = replace delimiter (delimiter ++ delimiter) text := by
  have all (skip : Nat) : doubleFrom delimiter skip text =
      joinWith (delimiter ++ delimiter) (partsFrom delimiter skip text) := by
    fun_induction doubleFrom delimiter skip text with
    | case1 => simp only [partsFrom, joinWith, List.intercalate_singleton]
    | case2 skip c rest ih => exact ih
    | case3 c rest found ih =>
      have some_part : partsFrom delimiter (delimiter.length - 1) rest ≠ [] := by
        rw [partsFrom_eq_parts_drop]
        exact parts_ne_nil _ _
      rw [partsFrom, if_pos found, joinWith_break _ some_part, ih]
    | case4 c rest plain ih =>
      have some_part : partsFrom delimiter 0 rest ≠ [] := parts_ne_nil _ _
      rw [partsFrom, if_neg plain, joinWith_extendFirst _ _ some_part, ih]
  exact all 0

theorem double_delimiter_append (some_delimiter : delimiter ≠ []) (rest : Text) :
    double delimiter (delimiter ++ rest) = delimiter ++ delimiter ++ double delimiter rest := by
  rw [double_eq_replace, replace_append some_delimiter, double_eq_replace]

theorem double_cons {c : Char} {rest : Text} (plain : ¬ delimiter <+: c :: rest) :
    double delimiter (c :: rest) = c :: double delimiter rest := by
  rw [double_eq_replace, replace_cons plain, double_eq_replace]

/-! ## One step of the reader -/

theorem readContent_delimiters (some_delimiter : delimiter ≠ []) (rest : Text) :
    readContent delimiter (delimiter ++ delimiter ++ rest) =
      (readContent delimiter rest).map fun (content, left) => (delimiter ++ content, left) := by
  obtain ⟨c, more, rfl⟩ := List.exists_cons_of_ne_nil some_delimiter
  have two : ((c :: more) ++ (c :: more)).isPrefixOf (c :: (more ++ (c :: more) ++ rest)) = true :=
    List.isPrefixOf_iff_prefix.mpr (List.prefix_append (c :: (more ++ (c :: more))) rest)
  have behind : (more ++ (c :: more) ++ rest).drop (2 * (c :: more).length - 1) = rest := by
    apply List.drop_left'
    simp only [List.length_append, List.length_cons]
    omega
  rw [List.cons_append, List.cons_append, readContent, if_pos two, behind]

theorem readContent_closing (some_delimiter : delimiter ≠ []) {rest : Text}
    (single : ¬ delimiter <+: rest) : readContent delimiter (delimiter ++ rest) = some ([], rest) := by
  obtain ⟨c, more, rfl⟩ := List.exists_cons_of_ne_nil some_delimiter
  have not_two : ¬ (c :: more) ++ (c :: more) <+: c :: (more ++ rest) := by
    rwa [← List.cons_append, List.prefix_append_right_inj]
  have one : (c :: more).isPrefixOf (c :: (more ++ rest)) = true :=
    List.isPrefixOf_iff_prefix.mpr (List.prefix_append (c :: more) rest)
  rw [List.cons_append, readContent, if_neg (mt List.isPrefixOf_iff_prefix.mp not_two), if_pos one]
  simp

theorem readContent_cons {c : Char} {rest : Text} (plain : ¬ delimiter <+: c :: rest) :
    readContent delimiter (c :: rest) =
      (readContent delimiter rest).map fun (content, left) => (c :: content, left) := by
  have not_two : ¬ (delimiter ++ delimiter) <+: c :: rest :=
    fun two => plain ((List.prefix_append delimiter delimiter).trans two)
  rw [readContent, if_neg (mt List.isPrefixOf_iff_prefix.mp not_two),
    if_neg (mt List.isPrefixOf_iff_prefix.mp plain)]

/-! ## Doubled texts -/

private theorem take_cons_of_take {size : Nat} {first second : Text}
    (same : first.take size = second.take size) (c : Char) :
    (c :: first).take size = (c :: second).take size := by
  cases size with
  | zero => rfl
  | succ size =>
    have fewer := congrArg (List.take size) same
    rw [List.take_take, List.take_take, Nat.min_eq_left (Nat.le_succ size)] at fewer
    rw [List.take_succ_cons, List.take_succ_cons, fewer]

/-- As far as one delimiter reaches, a doubled text looks like the text itself. -/
private theorem take_double_append (some_delimiter : delimiter ≠ []) (text tail : Text) :
    (double delimiter text ++ tail).take delimiter.length = (text ++ tail).take delimiter.length := by
  induction text using delimiter_induction some_delimiter with
  | nil => rfl
  | found rest =>
    rw [double_delimiter_append some_delimiter]
    simp only [List.append_assoc, List.take_left]
  | plain c rest plain ih =>
    rw [double_cons plain]
    exact take_cons_of_take ih c

/-- Whether a delimiter begins at the character in front of a text is the same when the text is doubled. -/
theorem prefix_cons_double_append_iff (some_delimiter : delimiter ≠ []) (c : Char) (rest tail : Text) :
    delimiter <+: c :: (double delimiter rest ++ tail) ↔ delimiter <+: c :: (rest ++ tail) := by
  rw [List.prefix_iff_eq_take, List.prefix_iff_eq_take,
    take_cons_of_take (take_double_append some_delimiter rest tail) c]

/-- Where a delimiter begins only thanks to the closing one, what remains of the text is shorter than a
delimiter. -/
private theorem length_lt_of_prefix_append {text : Text} (plain : ¬ delimiter <+: text)
    (meets : delimiter <+: text ++ delimiter) : text.length < delimiter.length :=
  Nat.lt_of_not_le fun long =>
    plain (List.prefix_of_prefix_length_le meets (List.prefix_append text delimiter) long)

private theorem parts_of_length_lt {text : Text} (short : text.length < delimiter.length) :
    parts delimiter text = [text] := by
  induction text with
  | nil => rfl
  | cons c rest ih =>
    rw [List.length_cons] at short
    have plain : ¬ delimiter <+: c :: rest := fun here => by
      have bound := here.length_le
      rw [List.length_cons] at bound
      omega
    rw [parts_cons plain, ih (by omega)]
    rfl

/-! ## Reading back -/

private theorem map_content_eq_some_iff {change : Text → Text} (injective : Function.Injective change)
    {read : Option (Text × Text)} {text left : Text} :
    (read.map fun (content, left) => (change content, left)) = some (change text, left) ↔
      read = some (text, left) := by
  cases read with
  | none => simp
  | some pair =>
    obtain ⟨content, rest⟩ := pair
    simp [injective.eq_iff]

private theorem extendFirst_append (c : Char) {lines : List Text} (some_line : lines ≠ [])
    (others : List Text) : extendFirst c (lines ++ others) = extendFirst c lines ++ others := by
  obtain ⟨line, rest, rfl⟩ := List.exists_cons_of_ne_nil some_line
  rfl

private theorem extendFirst_inj {c : Char} {first second : List Text} (some_first : first ≠ [])
    (some_second : second ≠ []) : extendFirst c first = extendFirst c second ↔ first = second := by
  obtain ⟨line, rest, rfl⟩ := List.exists_cons_of_ne_nil some_first
  obtain ⟨other, others, rfl⟩ := List.exists_cons_of_ne_nil some_second
  simp [extendFirst]

/-- The content that is read is the whole text exactly when the closing delimiter is an occurrence of its
own among those that are found in the text and this delimiter from left to right. -/
theorem readContent_double_iff (some_delimiter : delimiter ≠ []) (text : Text) :
    readContent delimiter (double delimiter text ++ delimiter) = some (text, []) ↔
      parts delimiter (text ++ delimiter) = parts delimiter text ++ [[]] := by
  induction text using delimiter_induction some_delimiter with
  | nil =>
    have single : ¬ delimiter <+: [] := fun nothing => some_delimiter (List.prefix_nil.mp nothing)
    have closing := readContent_closing some_delimiter single
    have cut := parts_delimiter_append some_delimiter []
    rw [List.append_nil] at closing cut
    exact iff_of_true closing cut
  | found rest ih =>
    rw [double_delimiter_append some_delimiter, List.append_assoc _ (double delimiter rest),
      readContent_delimiters some_delimiter, List.append_assoc, parts_delimiter_append some_delimiter,
      parts_delimiter_append some_delimiter, List.cons_append, List.cons_inj_right, ← ih]
    exact map_content_eq_some_iff fun _ _ => List.append_cancel_left
  | plain c rest plain ih =>
    rw [double_cons plain, List.cons_append, List.cons_append]
    by_cases meets : delimiter <+: c :: (rest ++ delimiter)
    · -- the closing delimiter is met too early, so that the reader stops before `c`
      have short := length_lt_of_prefix_append plain meets
      have shorter : rest.length < delimiter.length := by rw [List.length_cons] at short; omega
      obtain ⟨left, same⟩ := meets
      have unread : readContent delimiter (c :: (rest ++ delimiter)) ≠ some (c :: rest, []) := by
        have size := congrArg List.length same
        simp only [List.length_append, List.length_cons] at size short
        have single : ¬ delimiter <+: left := fun here => by
          have bound := here.length_le
          omega
        rw [← same, readContent_closing some_delimiter single]
        simp
      have uncut : parts delimiter (c :: (rest ++ delimiter)) ≠ parts delimiter (c :: rest) ++ [[]] := by
        rw [← same, parts_delimiter_append some_delimiter, parts_of_length_lt short]
        simp
      have kept : double delimiter rest = rest := by
        rw [double_eq_replace, replace, parts_of_length_lt shorter, joinWith, List.intercalate_singleton]
      rw [kept]
      exact iff_of_false unread uncut
    · have away := mt (prefix_cons_double_append_iff some_delimiter c rest delimiter).mp meets
      rw [readContent_cons away, parts_cons meets, parts_cons plain,
        ← extendFirst_append c (parts_ne_nil _ _), extendFirst_inj (parts_ne_nil _ _) (by simp), ← ih]
      exact map_content_eq_some_iff List.cons_injective

theorem parts_append_of_unbordered (some_delimiter : delimiter ≠ []) (unbordered : Unbordered delimiter)
    (text : Text) : parts delimiter (text ++ delimiter) = parts delimiter text ++ [[]] := by
  induction text using delimiter_induction some_delimiter with
  | nil =>
    have cut := parts_delimiter_append some_delimiter []
    rwa [List.append_nil] at cut
  | found rest ih =>
    rw [List.append_assoc, parts_delimiter_append some_delimiter, ih,
      parts_delimiter_append some_delimiter, List.cons_append]
  | plain c rest plain ih =>
    have away : ¬ delimiter <+: c :: (rest ++ delimiter) := by
      intro meets
      have short := length_lt_of_prefix_append plain meets
      -- what is left of the delimiter behind `c :: rest` is a border
      obtain ⟨border, same⟩ : c :: rest <+: delimiter :=
        List.prefix_of_prefix_length_le (List.prefix_append (c :: rest) delimiter) meets (Nat.le_of_lt short)
      have start : border <+: delimiter := by
        rw [← List.prefix_append_right_inj (c :: rest), same]
        exact meets
      have size := congrArg List.length same
      simp only [List.length_append, List.length_cons] at size short
      rcases unbordered border start ⟨c :: rest, same⟩ with rfl | rfl
      · simp only [List.length_nil] at size
        omega
      · omega
    rw [List.cons_append, parts_cons away, ih, parts_cons plain, extendFirst_append c (parts_ne_nil _ _)]

theorem unbordered_of_parts_append (some_delimiter : delimiter ≠ [])
    (all : ∀ text, parts delimiter (text ++ delimiter) = parts delimiter text ++ [[]]) :
    Unbordered delimiter := by
  intro border start
  rintro ⟨front, same⟩
  obtain ⟨back, split⟩ := start
  rcases eq_or_ne border [] with none | some_border
  · exact .inl none
  rcases eq_or_ne front [] with rfl | some_front
  · exact .inr same
  -- the start of the delimiter in front of the border meets the closing delimiter too early
  have short : front.length < delimiter.length := by
    have size := congrArg List.length same
    have pos := List.length_pos_iff.mpr some_border
    rw [List.length_append] at size
    omega
  have meets : front ++ delimiter = delimiter ++ back := by
    rw [← split, ← List.append_assoc, same, split]
  have cut := all front
  rw [meets, parts_delimiter_append some_delimiter, parts_of_length_lt short] at cut
  exact absurd (List.cons.inj cut).1.symm some_front

theorem readWrapped_wrap (some_delimiter : delimiter ≠ []) (text : Text) :
    readWrapped delimiter (wrap delimiter text) =
      readContent delimiter (double delimiter text ++ delimiter) := by
  have opened : dropStart? delimiter (delimiter ++ (double delimiter text ++ delimiter)) =
      some (double delimiter text ++ delimiter) := dropStart?_eq_some_iff.mpr rfl
  rw [readWrapped, wrap, if_neg (by simpa using some_delimiter), List.append_assoc, opened]
  rfl

theorem unbordered_singleton (c : Char) : Unbordered [c] := by
  intro border start _
  simpa using List.prefix_cons_iff.mp start

/-- A wrapped text is read back as a whole, with nothing left over, exactly when the closing delimiter is
an occurrence of its own behind the text; and the delimiters with which every text is read back are those
without a border. -/
theorem readWrapped_wrap_iff (some_delimiter : delimiter ≠ []) :
    (∀ text, readWrapped delimiter (wrap delimiter text) = some (text, []) ↔
      parts delimiter (text ++ delimiter) = parts delimiter text ++ [[]]) ∧
    ((∀ text, readWrapped delimiter (wrap delimiter text) = some (text, [])) ↔ Unbordered delimiter) := by
  have each (text : Text) : readWrapped delimiter (wrap delimiter text) = some (text, []) ↔
      parts delimiter (text ++ delimiter) = parts delimiter text ++ [[]] := by
    rw [readWrapped_wrap some_delimiter]
    exact readContent_double_iff some_delimiter text
  refine ⟨each, ?_⟩
  constructor
  · intro all
    exact unbordered_of_parts_append some_delimiter fun text => (each text).mp (all text)
  · intro unbordered text
    exact (each text).mpr (parts_append_of_unbordered some_delimiter unbordered text)

/-- Two dollar signs overlap themselves, so that not every text is read back, though one that holds three of
them is. One quote does not, and every text is. -/
theorem readWrapped_wrap_iff_dollars : "$$".toList ≠ [] ∧
    readWrapped "$$".toList (wrap "$$".toList "a$$$b".toList) = some ("a$$$b".toList, []) ∧
    ¬ Unbordered "$$".toList ∧
    ∀ text, readWrapped ['\''] (wrap ['\''] text) = some (text, []) := by
  have some_delimiter : "$$".toList ≠ [] := by decide
  obtain ⟨each, -⟩ := readWrapped_wrap_iff some_delimiter
  obtain ⟨-, all⟩ := readWrapped_wrap_iff (List.cons_ne_nil '\'' [])
  refine ⟨some_delimiter, (each _).mpr (by decide), fun unbordered => ?_, ?_⟩
  · have border := unbordered ['$'] (by decide) (by decide)
    revert border
    decide
  · exact all.mpr (unbordered_singleton '\'')

/-- A text that ends in a dollar sign closes early between two dollar signs. -/
theorem readWrapped_wrap_dollars : "$$".toList ≠ [] ∧
    wrap "$$".toList "a$".toList = "$$a$$$".toList ∧
    readWrapped "$$".toList (wrap "$$".toList "a$".toList) ≠ some ("a$".toList, []) ∧
    readWrapped "$$".toList (wrap "$$".toList "a$".toList) = some ("a".toList, "$".toList) := by
  have read : readWrapped "$$".toList (wrap "$$".toList "a$".toList) = some ("a".toList, "$".toList) := by
    cbv
  refine ⟨by decide, by decide, ?_, read⟩
  rw [read]
  decide

end QueryTemplates.Text
