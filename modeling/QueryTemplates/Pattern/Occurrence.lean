import QueryTemplates.Pattern.Reach

/-! # Occurrences of a pattern in a line

The occurrences are found from left to right and do not overlap. At each place the preferred way to
match counts; where that is the empty text, a way that is not empty is looked for at the same place. An
empty occurrence may follow directly after one that is not.
-/

namespace QueryTemplates.Pattern

variable {line : Text}

/-- A part of a line that a pattern matches, with the text that its first group has recorded. -/
structure Occurrence (line : Text) where
  first : Cursor line
  last : Cursor line
  content : Option Text

namespace Occurrence

/-- The text that the pattern matches. -/
def text (occurrence : Occurrence line) : Text := occurrence.first.textTo occurrence.last

/-- The pattern matches the empty text. -/
def isEmpty (occurrence : Occurrence line) : Bool :=
  occurrence.last.room == occurrence.first.room

end Occurrence

/-- The preferred way to match at a place. -/
def Node.matchAt? (node : Node) (cursor : Cursor line) : Option (Progress line) :=
  node.run ⟨cursor, [], []⟩ some

/-- The preferred way to match a text that is not empty at a place. -/
def Node.matchSomeAt? (node : Node) (cursor : Cursor line) : Option (Progress line) :=
  node.run ⟨cursor, [], []⟩ fun later => if later.room < cursor.room then some later else none

/-- The occurrence that a match from a place on is. -/
def Progress.occurrence (last : Progress line) (first : Cursor line) : Occurrence line :=
  ⟨first, last.cursor, last.recorded? 1⟩

/-- The occurrences that begin at a place, and the place where the next ones are looked for. -/
def Node.occurrencesAt (node : Node) (cursor : Cursor line) :
    List (Occurrence line) × Option (Cursor line) :=
  let onward := cursor.next?.map (·.2)
  match node.matchAt? cursor with
  | none => ([], onward)
  | some last =>
    if last.room < cursor.room then ([last.occurrence cursor], some last.cursor)
    else match node.matchSomeAt? cursor with
      | none => ([last.occurrence cursor], onward)
      | some later => ([last.occurrence cursor, later.occurrence cursor], some later.cursor)

theorem Node.room_of_matchAt? {node : Node} {cursor : Cursor line} {last : Progress line}
    (found : node.matchAt? cursor = some last) : last.room ≤ cursor.room :=
  (Node.run_reaches node).first found

theorem Node.room_of_matchSomeAt? {node : Node} {cursor : Cursor line} {last : Progress line}
    (found : node.matchSomeAt? cursor = some last) : last.room < cursor.room := by
  obtain ⟨later, -, accepted⟩ := Node.run_reaches node _ _ _ found
  split at accepted
  · next fewer => exact Option.some.inj accepted ▸ fewer
  · cases accepted

/-- The search moves on. -/
theorem Node.room_of_occurrencesAt {node : Node} {cursor later : Cursor line}
    (onward : (node.occurrencesAt cursor).2 = some later) : later.room < cursor.room := by
  have step : cursor.next?.map (·.2) = some later → later.room < cursor.room := by
    intro mapped
    obtain ⟨⟨c, place⟩, next, rfl⟩ := Option.map_eq_some_iff.mp mapped
    have := Cursor.next?_room next
    simp only
    omega
  simp only [occurrencesAt] at onward
  split at onward
  · exact step onward
  · split at onward
    · next fewer => exact Option.some.inj onward ▸ fewer
    · split at onward
      · exact step onward
      · next last found => exact Option.some.inj onward ▸ room_of_matchSomeAt? found

/-- The occurrences from a place on. -/
def Node.occurrencesFrom (node : Node) (cursor : Cursor line) : List (Occurrence line) :=
  match _found : node.occurrencesAt cursor with
  | (here, none) => here
  | (here, some later) => here ++ node.occurrencesFrom later
termination_by cursor.room
decreasing_by exact room_of_occurrencesAt (by rw [_found])

/-- The occurrences of a pattern in a line. -/
def Node.occurrences (node : Node) (line : Text) : List (Occurrence line) :=
  node.occurrencesFrom (Cursor.start line)

/-- The pattern matches the empty text. -/
def Node.matchesEmpty (node : Node) : Bool := (node.matchAt? (Cursor.start [])).isSome

end QueryTemplates.Pattern
