import QueryTemplates.Text.Lines
import QueryTemplates.Text.Numeral

/-! # Why a text is not JSON

A failure names what is wrong and where. An integer with too many digits is a failure of its own, which
has no place.
-/

namespace QueryTemplates.Json

/-- What is wrong with a text. -/
inductive Problem
  | byteOrderMark
  | noValue
  | noName
  | noColon
  | noComma
  | extraData
  | openString
  | controlCharacter
  | badEscape
  | badCodeEscape
deriving DecidableEq

/-- What is wrong, in words. -/
def Problem.message : Problem → String
  | .byteOrderMark => "Unexpected UTF-8 BOM (decode using utf-8-sig)"
  | .noValue => "Expecting value"
  | .noName => "Expecting property name enclosed in double quotes"
  | .noColon => "Expecting ':' delimiter"
  | .noComma => "Expecting ',' delimiter"
  | .extraData => "Extra data"
  | .openString => "Unterminated string starting at"
  | .controlCharacter => "Invalid control character at"
  | .badEscape => "Invalid \\escape"
  | .badCodeEscape => "Invalid \\uXXXX escape"

/-- Why reading ends without a value. -/
inductive Failure
  | problem (problem : Problem) (position : Nat)
  | longNumeral (digits : Nat)
deriving DecidableEq

/-- The failure in words, with the place in the text that was read. -/
def Failure.message (text : Text) : Failure → String
  | .problem what position =>
    let (line, column) := text.lineAndColumn position
    what.message ++ ": line " ++ toString line ++ " column " ++ toString column ++
      " (char " ++ toString position ++ ")"
  | .longNumeral digits => Numeral.tooLongToRead digits

end QueryTemplates.Json
