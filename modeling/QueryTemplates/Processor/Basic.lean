import QueryTemplates.RenderError
import QueryTemplates.Value.Basic

/-! # Value processors

A processor turns the value of a parameter into query text, and says what stands for a parameter without a
value. Where it names no text, the parameter has to be supplied.
-/

namespace QueryTemplates

/-- How values become query text. Both functions are told the parameter and the query. -/
structure Processor where
  format : (key id : Text) → Value → Except RenderFailure Text
  substitute : (key id : Text) → Except RenderFailure (Option Text)

namespace Processor

/-- The processor that always fails with the same message. -/
def failing (message : Text) : Processor where
  format _ _ _ := .error (.processor message)
  substitute _ _ := .error (.processor message)

/-- The failure for a value that has no query text. -/
def unsupported (key id : Text) (value : Value) : RenderFailure :=
  .error (.unsupportedValue id key value.typeName)

end Processor

end QueryTemplates
