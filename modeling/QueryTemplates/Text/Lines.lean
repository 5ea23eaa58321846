import QueryTemplates.Text.Basic

/-! # Lines of a text

A line ends at a carriage return followed by a line feed, at a lone carriage return, or at a lone
line feed. Other separators are ordinary characters. A text has one line more than it has breaks.
-/

namespace QueryTemplates.Text

/-- Puts a character in front of the first line. -/
def extendFirst (c : Char) : List Text → List Text
  | [] => [[c]]
  | line :: rest => (c :: line) :: rest

/-- The lines of a text, without their breaks. -/
def lines : Text → List Text
  | [] => [[]]
  | '\r' :: '\n' :: rest => [] :: lines rest
  | c :: rest => if c = '\r' ∨ c = '\n' then [] :: lines rest else extendFirst c (lines rest)

/-- The text with every line break written as a line feed. -/
def normalizeBreaks (text : Text) : Text := joinWith ['\n'] text.lines

/-- The line and the column of a place, both from 1, where only line feeds break lines. -/
def lineAndColumn (text : Text) (position : Nat) : Nat × Nat :=
  let before := text.take position
  (before.count '\n' + 1, (before.reverse.takeWhile (· != '\n')).length + 1)

end QueryTemplates.Text
