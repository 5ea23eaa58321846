import QueryTemplates.Proofs.Pattern.Succession

/-! # Spans of one class of characters

A place in a line is known by what lies after it. A span without bounds is tried first where its class of
characters ends, and never outside the rest of the line.
-/

namespace QueryTemplates.Pattern

variable {line : Text}

namespace Cursor

theorem next?_eq_none {cursor : Cursor line} (ended : cursor.after = []) : cursor.next? = none := by
  obtain ⟨before, after, room, line_eq, room_eq⟩ := cursor
  obtain rfl : after = [] := ended
  rfl

theorem exists_next? {cursor : Cursor line} {c : Char} {rest : Text} (ahead : cursor.after = c :: rest) :
    ∃ later, cursor.next? = some (c, later) ∧ later.after = rest := by
  obtain ⟨before, after, room, line_eq, room_eq⟩ := cursor
  obtain rfl : after = c :: rest := ahead
  exact ⟨_, rfl, rfl⟩

theorem room_le_of_suffix {first last : Cursor line} (suffix : last.after <:+ first.after) :
    last.room ≤ first.room := by
  rw [← last.room_eq, ← first.room_eq]
  exact suffix.length_le

theorem suffix_of_room_le {first last : Cursor line} (order : last.room ≤ first.room) :
    last.after <:+ first.after := by
  rw [← drop_after order]
  exact List.drop_suffix _ _

/-- The text between two places is what the first has ahead of it and the second has not. -/
theorem textTo_eq {first last : Cursor line} {between : Text}
    (ahead : first.after = between ++ last.after) : first.textTo last = between := by
  have order : last.room ≤ first.room := room_le_of_suffix ⟨between, ahead.symm⟩
  exact List.append_cancel_right ((textTo_append_after order).trans ahead)

end Cursor

theorem spanEnds_unbounded (test : CharTest) (cursor : Cursor line) (found : List (Cursor line)) :
    spanEnds test 0 none cursor found =
      match cursor.next? with
      | none => cursor :: found
      | some (c, later) =>
        if test.accepts c then spanEnds test 0 none later (cursor :: found) else cursor :: found := by
  rw [spanEnds]
  · cases cursor.next? <;> rfl
  · intro _ bounded
    cases bounded

/-- The furthest place of a span without bounds lies where characters of its class end. -/
theorem spanEnds_head? (test : CharTest) (cursor : Cursor line) (found : List (Cursor line)) :
    ∃ last, (spanEnds test 0 none cursor found).head? = some last ∧
      last.after = cursor.after.dropWhile test.accepts := by
  generalize ahead : cursor.after = after
  induction after generalizing cursor found with
  | nil =>
    rw [spanEnds_unbounded, Cursor.next?_eq_none ahead]
    exact ⟨cursor, rfl, ahead⟩
  | cons c rest ih =>
    obtain ⟨later, next, behind⟩ := Cursor.exists_next? ahead
    rw [spanEnds_unbounded, next]
    by_cases accepted : test.accepts c
    · simp only [accepted, ↓reduceIte, List.dropWhile_cons_of_pos]
      exact ih later (cursor :: found) behind
    · rw [List.dropWhile_cons_of_neg accepted]
      simp only [accepted, Bool.false_eq_true, ↓reduceIte]
      exact ⟨cursor, rfl, ahead⟩

end QueryTemplates.Pattern
