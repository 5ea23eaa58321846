import QueryTemplates.Text.Basic

/-! # Marks of a pattern

A pattern is read from marks: single characters, and pairs of a backslash and the character after it. A
backslash at the very end is a mark of its own.
-/

namespace QueryTemplates.Pattern

/-- What a pattern is read from. -/
inductive Mark
  | plain (c : Char)
  | escaped (c : Char)
  /-- a backslash that ends the pattern -/
  | dangling
deriving DecidableEq

namespace Mark

/-- The text of a mark. -/
def text : Mark → Text
  | .plain c => [c]
  | .escaped c => ['\\', c]
  | .dangling => ['\\']

/-- The marks of a text. -/
def ofText : Text → List Mark
  | [] => []
  | ['\\'] => [.dangling]
  | '\\' :: c :: rest => .escaped c :: ofText rest
  | c :: rest => .plain c :: ofText rest

/-- The character of a mark that is no escape. -/
def plain? : Mark → Option Char
  | .plain c => some c
  | _ => none

end Mark

end QueryTemplates.Pattern
