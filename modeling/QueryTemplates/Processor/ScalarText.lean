import QueryTemplates.Processor.Basic
import QueryTemplates.Value.Text

/-! # Texts of scalars

What all processors agree on: how numbers, dates and times are written, and that integers with too many
digits are not.
-/

namespace QueryTemplates

namespace Value

/-- The text of a number: an integer may be too long to have one. -/
def numberText? : Value → Option (Except RenderFailure Text)
  | .int value => some (intText value)
  | .float value => some (.ok value.text)
  | .decimal value => some (.ok value.text)
  | _ => none

/-- The characters of a text, a date or a time, where the latter two are in their standard forms. A zone of
the caller may fail to tell the offset of a time. -/
def characters? : Value → Option (Except RenderFailure Text)
  | .text value => some (.ok value)
  | .date value => some (.ok value.iso)
  | .dateTime value => some (.ok value.iso)
  | .zonedTime time zone => some ((zone.place time).map DateTime.iso)
  | _ => none

end Value

end QueryTemplates
