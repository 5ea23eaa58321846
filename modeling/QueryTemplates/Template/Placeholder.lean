import QueryTemplates.Pattern.Occurrence
import QueryTemplates.Pattern.Reader
import QueryTemplates.StartupError
import QueryTemplates.Value.Text

/-! # Placeholder patterns

A pattern finds placeholders if it has a group, which holds the content, and does not match the empty
text. Checking a pattern is the first step of every load.
-/

namespace QueryTemplates

/-- A pattern that can find placeholders; its first group holds the content. -/
structure Placeholder where
  node : Pattern.Node
  groups : Nat
  groups_pos : 0 < groups
  not_matchesEmpty : node.matchesEmpty = false

namespace Placeholder

/-- The pattern that is used where no other is given: a name or an index in braces, after a dollar sign. -/
def standardText : Text := "\\$\\\x7b([^\\\x7d]*)\\\x7d".toList

/-- The placeholder pattern that a text describes. -/
def compile (pattern : Text) : Except StartupFailure Placeholder :=
  let refuse (defect : PatternDefect) : Except StartupFailure Placeholder :=
    .error (.error (.unusablePattern pattern defect))
  match Pattern.read pattern with
  | .error (.refused refusal) => refuse (.refused refusal)
  | .error (.fault fault) => .error (.pattern fault)
  | .ok ⟨node, groups⟩ =>
    if groups_pos : 0 < groups then
      if not_matchesEmpty : node.matchesEmpty = false then
        .ok ⟨node, groups, groups_pos, not_matchesEmpty⟩
      else refuse .matchesEmpty
    else refuse .noGroup

/-- The placeholder pattern that a value describes, which has to be a text. -/
def compileValue : Value → Except StartupFailure Placeholder
  | .text pattern => compile pattern
  | value => .error (.error (.unusablePattern (value.text?.getD []) .notText))

end Placeholder

end QueryTemplates
