import QueryTemplates.Text.Basic

/-! # Places in a line

A cursor is a place between two characters of a line. It holds what lies before it, nearest character
first, what lies after it, and how many characters those are. A cursor that moves on stays in its line.
-/

namespace QueryTemplates.Pattern

/-- A place in a line. -/
structure Cursor (line : Text) where
  before : Text
  after : Text
  room : Nat
  line_eq : before.reverse ++ after = line
  room_eq : after.length = room

namespace Cursor

variable {line : Text}

/-- The place before the first character. -/
def start (line : Text) : Cursor line := ⟨[], line, line.length, rfl, rfl⟩

/-- The next character and the place after it. -/
def next? (cursor : Cursor line) : Option (Char × Cursor line) :=
  match cursor with
  | ⟨_, [], _, _, _⟩ => none
  | ⟨before, c :: after, room, line_eq, room_eq⟩ =>
    some (c, ⟨c :: before, after, room - 1, by simpa using line_eq,
      by simp only [List.length_cons] at room_eq; omega⟩)

/-- The place one character earlier. -/
def previous? (cursor : Cursor line) : Option (Cursor line) :=
  match cursor with
  | ⟨[], _, _, _, _⟩ => none
  | ⟨c :: before, after, room, line_eq, room_eq⟩ =>
    some ⟨before, c :: after, room + 1, by simpa using line_eq, by simp [room_eq]⟩

/-- The place a number of characters earlier. -/
def back? : (count : Nat) → Cursor line → Option (Cursor line)
  | 0, cursor => some cursor
  | count + 1, cursor => cursor.previous?.bind (back? count)

/-- The text from one place to a later one. -/
def textTo (first last : Cursor line) : Text := first.after.take (first.room - last.room)

theorem next?_room {cursor later : Cursor line} {c : Char}
    (next : cursor.next? = some (c, later)) : later.room + 1 = cursor.room := by
  obtain ⟨before, after, room, line_eq, room_eq⟩ := cursor
  cases after with
  | nil => simp [next?] at next
  | cons d after =>
    simp only [next?, Option.some.injEq, Prod.mk.injEq] at next
    obtain ⟨-, rfl⟩ := next
    simp only [List.length_cons] at room_eq
    simp only
    omega

end Cursor

end QueryTemplates.Pattern
