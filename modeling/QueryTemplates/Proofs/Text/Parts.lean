import Mathlib.Data.List.Basic
import QueryTemplates.Text.Basic

/-! # Parts of a text

A text is split at a character into parts, and parts are joined with it. What is joined has the characters of
its parts and of what stands between them, and is split into the parts again. A text is also changed in parts,
where some items take the place of each one of a kind.
-/

namespace QueryTemplates

section Joined

variable {α : Type} {separator : List α}

theorem mem_of_mem_intercalate {parts : List (List α)} {item : α} (member : item ∈ separator.intercalate parts) :
    item ∈ separator ∨ ∃ part ∈ parts, item ∈ part := by
  induction parts with
  | nil => exact absurd member List.not_mem_nil
  | cons part rest ih =>
    by_cases last : rest = []
    · subst last
      rw [List.intercalate_singleton] at member
      exact .inr ⟨part, List.mem_singleton_self part, member⟩
    · rw [List.intercalate_cons_of_ne_nil last, List.mem_append, List.mem_append] at member
      rcases member with (own | between) | later
      · exact .inr ⟨part, List.mem_cons_self .., own⟩
      · exact .inl between
      · rcases ih later with between | ⟨other, among, own⟩
        · exact .inl between
        · exact .inr ⟨other, List.mem_cons_of_mem _ among, own⟩

theorem intercalate_append (separator : List α) {first second : List (List α)} (some_first : first ≠ [])
    (some_second : second ≠ []) :
    separator.intercalate (first ++ second) =
      separator.intercalate first ++ separator ++ separator.intercalate second := by
  induction first with
  | nil => exact absurd rfl some_first
  | cons part rest ih =>
    by_cases last : rest = []
    · subst last
      rw [List.singleton_append, List.intercalate_cons_of_ne_nil some_second, List.intercalate_singleton]
    · rw [List.cons_append, List.intercalate_cons_of_ne_nil (List.append_ne_nil_of_left_ne_nil last _), ih last,
        List.intercalate_cons_of_ne_nil last]
      simp only [List.append_assoc]

end Joined

section Replaced

variable {α : Type} [DecidableEq α] {item : α} {items : List α}

/-- The items with others in the place of each one that is the given item. -/
def replaceEach (item : α) (others items : List α) : List α :=
  items.flatMap fun own => if own = item then others else [own]

theorem replaceEach_append (item : α) (others first second : List α) :
    replaceEach item others (first ++ second) = replaceEach item others first ++ replaceEach item others second :=
  List.flatMap_append

theorem replaceEach_cons_self (item : α) (others items : List α) :
    replaceEach item others (item :: items) = others ++ replaceEach item others items := by
  rw [replaceEach, List.flatMap_cons, if_pos rfl, replaceEach]

theorem replaceEach_cons_of_ne {own : α} (different : own ≠ item) (others items : List α) :
    replaceEach item others (own :: items) = own :: replaceEach item others items := by
  rw [replaceEach, List.flatMap_cons, if_neg different, List.singleton_append, replaceEach]

theorem replaceEach_of_notMem (absent : item ∉ items) (others : List α) : replaceEach item others items = items := by
  induction items with
  | nil => rfl
  | cons own items ih =>
    obtain ⟨different, later⟩ := not_or.mp fun same => absent (List.mem_cons.mpr same)
    rw [replaceEach_cons_of_ne (Ne.symm different), ih later]

theorem replaceEach_self (item : α) (items : List α) : replaceEach item [item] items = items := by
  induction items with
  | nil => rfl
  | cons own items ih =>
    by_cases same : own = item
    · subst same
      rw [replaceEach_cons_self, ih, List.singleton_append]
    · rw [replaceEach_cons_of_ne same, ih]

end Replaced

namespace Text

variable {separator : Char}

theorem splitAt_ne_nil (separator : Char) (text : Text) : splitAt separator text ≠ [] := by
  cases text with
  | nil => exact List.cons_ne_nil _ _
  | cons c rest =>
    simp only [splitAt]
    split
    · exact List.cons_ne_nil _ _
    · split <;> exact List.cons_ne_nil _ _

theorem splitAt_append_separator (separator : Char) (first second : Text) :
    splitAt separator (first ++ separator :: second) =
      splitAt separator first ++ splitAt separator second := by
  induction first with
  | nil => simp [splitAt]
  | cons c first ih =>
    rw [List.cons_append, splitAt, ih, splitAt]
    by_cases same : c = separator
    · simp [same]
    · cases parts : splitAt separator first with
      | nil => exact absurd parts (splitAt_ne_nil separator first)
      | cons part others => simp [same]

theorem splitAt_of_notMem {text : Text} (plain : separator ∉ text) : splitAt separator text = [text] := by
  induction text with
  | nil => rfl
  | cons c rest ih =>
    obtain ⟨other, later⟩ := not_or.mp fun same => plain (List.mem_cons.mpr same)
    simp [splitAt, Ne.symm other, ih later]

theorem splitAt_of_mem {text : Text} (present : separator ∈ text) : ∃ first second others,
    splitAt separator text = first :: second :: others := by
  obtain ⟨before, after, rfl⟩ := List.append_of_mem present
  rw [splitAt_append_separator]
  cases first : splitAt separator before with
  | nil => exact absurd first (splitAt_ne_nil separator before)
  | cons part others =>
    cases others with
    | cons second others => exact ⟨part, second, others ++ splitAt separator after, rfl⟩
    | nil =>
      cases second : splitAt separator after with
      | nil => exact absurd second (splitAt_ne_nil separator after)
      | cons other others => exact ⟨part, other, others, rfl⟩

theorem joinWith_cons (separator first : Text) {texts : List Text} (some_text : texts ≠ []) :
    joinWith separator (first :: texts) = first ++ separator ++ joinWith separator texts :=
  List.intercalate_cons_of_ne_nil some_text

/-- Texts that are joined are split into their own parts. -/
theorem splitAt_joinWith {texts : List Text} (some_text : texts ≠ []) :
    splitAt separator (joinWith [separator] texts) = texts.flatMap (splitAt separator) := by
  induction texts with
  | nil => exact absurd rfl some_text
  | cons text texts ih =>
    by_cases last : texts = []
    · simp [last, joinWith, List.intercalate]
    · rw [joinWith_cons [separator] text last, List.append_assoc, List.singleton_append,
        splitAt_append_separator, ih last, List.flatMap_cons]

theorem splitAt_joinWith_of_notMem {texts : List Text} (some_text : texts ≠ [])
    (plain : ∀ text ∈ texts, separator ∉ text) :
    splitAt separator (joinWith [separator] texts) = texts :=
  (splitAt_joinWith some_text).trans <|
    (List.flatMap_congr fun text member => splitAt_of_notMem (plain text member)).trans
      (List.flatMap_singleton' texts)

theorem mem_joinWith {separator : Text} {texts : List Text} {c : Char}
    (member : c ∈ joinWith separator texts) : c ∈ separator ∨ ∃ text ∈ texts, c ∈ text :=
  mem_of_mem_intercalate member

/-- Each of the texts that are joined is a part of the whole. -/
theorem infix_joinWith (separator : Text) {text : Text} {texts : List Text} (member : text ∈ texts) :
    text <:+: joinWith separator texts := by
  induction texts with
  | nil => exact absurd member List.not_mem_nil
  | cons first rest ih =>
    by_cases last : rest = []
    · subst last
      obtain rfl := List.mem_singleton.mp member
      have whole : joinWith separator [text] = text := List.intercalate_singleton
      exact whole.symm ▸ List.infix_rfl
    · rw [joinWith_cons separator first last]
      rcases List.mem_cons.mp member with rfl | later
      · exact ⟨[], separator ++ joinWith separator rest, by simp⟩
      · exact (ih later).trans (List.suffix_append _ _).isInfix

end Text

end QueryTemplates
