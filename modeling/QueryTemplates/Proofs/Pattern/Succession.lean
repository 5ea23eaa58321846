import QueryTemplates.Pattern.Occurrence

/-! # Occurrences follow one another

The occurrences of any pattern lie in their line, from left to right and without overlap, and so do those
that are left when some are passed over. Therefore the texts between occurrences and those of the
occurrences make up the line again.
-/

namespace QueryTemplates.Pattern

variable {line : Text}

namespace Cursor

theorem after_eq_drop (cursor : Cursor line) :
    cursor.after = line.drop (line.length - cursor.room) := by
  obtain ⟨before, after, room, line_eq, room_eq⟩ := cursor
  subst line_eq room_eq
  simp

theorem room_le (cursor : Cursor line) : cursor.room ≤ line.length := by
  have total := congrArg List.length cursor.line_eq
  rw [List.length_append, cursor.room_eq] at total
  omega

/-- What lies after a later place is what is left of what lies after an earlier one. -/
theorem drop_after {first last : Cursor line} (order : last.room ≤ first.room) :
    first.after.drop (first.room - last.room) = last.after := by
  have inside := first.room_le
  rw [first.after_eq_drop, last.after_eq_drop, List.drop_drop]
  congr 1
  omega

theorem textTo_append_after {first last : Cursor line} (order : last.room ≤ first.room) :
    first.textTo last ++ last.after = first.after := by
  rw [textTo, ← drop_after order]
  exact List.take_append_drop _ _

theorem textTo_append_textTo {first middle last : Cursor line} (onward : last.room ≤ middle.room)
    (order : middle.room ≤ first.room) : first.textTo middle ++ middle.textTo last = first.textTo last := by
  have whole := textTo_append_after (Nat.le_trans onward order)
  rw [← textTo_append_after order, ← textTo_append_after onward, ← List.append_assoc] at whole
  exact (List.append_cancel_right whole).symm

end Cursor

/-- Occurrences that begin one after another, none of them before the given place or before the end of
the one ahead of it. -/
inductive Succession : Cursor line → List (Occurrence line) → Prop
  | nil (place : Cursor line) : Succession place []
  | cons {place : Cursor line} {occurrence : Occurrence line} {rest : List (Occurrence line)}
      (begins : occurrence.first.room ≤ place.room)
      (ends : occurrence.last.room ≤ occurrence.first.room)
      (onward : Succession occurrence.last rest) : Succession place (occurrence :: rest)

namespace Succession

/-- Occurrences from a place on are occurrences from each earlier place on. -/
theorem from_earlier {place earlier : Cursor line} {occurrences : List (Occurrence line)}
    (order : place.room ≤ earlier.room) (succession : Succession place occurrences) :
    Succession earlier occurrences := by
  cases succession with
  | nil => exact .nil earlier
  | cons begins ends onward => exact .cons (Nat.le_trans begins order) ends onward

/-- None of the occurrences begins before the place. -/
theorem begins_of_mem {place : Cursor line} {occurrences : List (Occurrence line)}
    (succession : Succession place occurrences) {occurrence : Occurrence line}
    (member : occurrence ∈ occurrences) : occurrence.first.room ≤ place.room := by
  induction succession with
  | nil => exact (List.not_mem_nil member).elim
  | cons begins ends _ ih =>
    rcases List.mem_cons.mp member with rfl | later
    · exact begins
    · exact Nat.le_trans (ih later) (Nat.le_trans ends begins)

theorem filter {place : Cursor line} {occurrences : List (Occurrence line)}
    (keep : Occurrence line → Bool) (succession : Succession place occurrences) :
    Succession place (occurrences.filter keep) := by
  induction succession with
  | nil => exact .nil _
  | @cons place occurrence rest begins ends _ ih =>
    cases kept : keep occurrence with
    | true =>
      rw [List.filter_cons_of_pos kept]
      exact .cons begins ends ih
    | false =>
      rw [List.filter_cons_of_neg (by simp [kept])]
      exact ih.from_earlier (Nat.le_trans ends begins)

theorem append {place middle : Cursor line} {first second : List (Occurrence line)}
    (order : middle.room ≤ place.room) (ended : ∀ occurrence ∈ first, middle.room ≤ occurrence.last.room)
    (succession : Succession place first) (onward : Succession middle second) :
    Succession place (first ++ second) := by
  induction succession with
  | nil => exact onward.from_earlier order
  | @cons place occurrence rest begins ends _ ih =>
    refine .cons begins ends (ih (ended occurrence (List.mem_cons_self ..)) ?_)
    exact fun other member => ended other (List.mem_cons_of_mem _ member)

end Succession

namespace Node

theorem occurrencesAt_succession (node : Node) (cursor : Cursor line) :
    Succession cursor (node.occurrencesAt cursor).1 := by
  simp only [occurrencesAt]
  split
  · exact .nil cursor
  · next last found =>
    have within := room_of_matchAt? found
    split
    · exact .cons (Nat.le_refl _) within (.nil _)
    · next same =>
      split
      · exact .cons (Nat.le_refl _) within (.nil _)
      · next later more =>
        -- the first occurrence is empty, so the second one may begin where the first does
        refine .cons (Nat.le_refl _) within (.cons (Nat.le_of_not_lt same) ?_ (.nil _))
        exact Nat.le_of_lt (room_of_matchSomeAt? more)

/-- The next occurrences are looked for after those that are found. -/
theorem occurrencesAt_ended {node : Node} {cursor later : Cursor line}
    (onward : (node.occurrencesAt cursor).2 = some later) :
    ∀ occurrence ∈ (node.occurrencesAt cursor).1, later.room ≤ occurrence.last.room := by
  have progress := room_of_occurrencesAt onward
  simp only [occurrencesAt] at onward ⊢
  split at onward
  · exact fun _ absent => (List.not_mem_nil absent).elim
  · next last found =>
    split at onward
    · next fewer =>
      rw [if_pos fewer]
      intro occurrence member
      obtain rfl := List.mem_singleton.mp member
      obtain rfl := Option.some.inj onward
      exact Nat.le_refl _
    · next same =>
      rw [if_neg same]
      have empty : cursor.room ≤ last.room := Nat.le_of_not_lt same
      split at onward
      · intro occurrence member
        obtain rfl := List.mem_singleton.mp member
        exact Nat.le_trans (Nat.le_of_lt progress) empty
      · next second more =>
        obtain rfl := Option.some.inj onward
        intro occurrence member
        rcases List.mem_cons.mp member with rfl | member
        · exact Nat.le_trans (Nat.le_of_lt progress) empty
        · obtain rfl := List.mem_singleton.mp member
          exact Nat.le_refl _

theorem occurrencesFrom_succession (node : Node) (cursor : Cursor line) :
    Succession cursor (node.occurrencesFrom cursor) := by
  fun_induction occurrencesFrom node cursor with
  | case1 cursor here found =>
    have first := node.occurrencesAt_succession cursor
    rwa [found] at first
  | case2 cursor here later found ih =>
    have first := node.occurrencesAt_succession cursor
    have onward : (node.occurrencesAt cursor).2 = some later := by rw [found]
    have ended := occurrencesAt_ended onward
    rw [found] at first ended
    exact first.append (Nat.le_of_lt (room_of_occurrencesAt onward)) ended ih

theorem occurrencesFrom_eq (node : Node) (cursor : Cursor line) :
    node.occurrencesFrom cursor = (node.occurrencesAt cursor).1 ++
      ((node.occurrencesAt cursor).2.map node.occurrencesFrom).getD [] := by
  rw [occurrencesFrom]
  split <;> simp [*]

/-- Where the pattern matches a text that is not empty, this is the first occurrence, and the next ones are
looked for behind it. -/
theorem occurrencesFrom_of_match {node : Node} {cursor : Cursor line} {last : Progress line}
    (found : node.matchAt? cursor = some last) (fewer : last.room < cursor.room) :
    node.occurrencesFrom cursor = last.occurrence cursor :: node.occurrencesFrom last.cursor := by
  have here : node.occurrencesAt cursor = ([last.occurrence cursor], some last.cursor) := by
    simp [occurrencesAt, found, fewer]
  rw [occurrencesFrom_eq, here]
  rfl

/-- Where the pattern does not match, the occurrences are those from the next place on. -/
theorem occurrencesFrom_of_no_match {node : Node} {cursor : Cursor line}
    (absent : node.matchAt? cursor = none) :
    node.occurrencesFrom cursor =
      match cursor.next? with
      | none => []
      | some (_, later) => node.occurrencesFrom later := by
  have here : node.occurrencesAt cursor = ([], cursor.next?.map (·.2)) := by
    simp [occurrencesAt, absent]
  rw [occurrencesFrom_eq, here]
  cases cursor.next? <;> rfl

/-- The occurrences of a pattern follow one another in the line. -/
theorem occurrences_succession (node : Node) (line : Text) :
    Succession (Cursor.start line) (node.occurrences line) :=
  node.occurrencesFrom_succession (Cursor.start line)

end Node

end QueryTemplates.Pattern
