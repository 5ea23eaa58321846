import QueryTemplates.Text.Lines
import QueryTemplates.Text.Quoted

/-! # Refused patterns

Why a text is no pattern, and where. Three faults are not refusals of the pattern's form: a repetition
count beyond the largest one, a number with too many digits, and script rules that exclude each other.
-/

namespace QueryTemplates.Pattern

/-- What is wrong with the form of a pattern. -/
inductive Reason
  | unterminatedGroup
  | unterminatedComment
  | unterminatedClass
  | unbalancedParenthesis
  | unexpectedEnd
  | nothingToRepeat
  | multipleRepeat
  | crossedBounds
  | badRange (first last : Text)
  | badEscape (escape : Text)
  | danglingEscape
  | incompleteEscape (escape : Text)
  | octalTooLarge (escape : Text)
  | missingBrace
  | unknownCharacter (name : Text)
  | missingName (what : String)
  | unterminatedName (terminator : Char)
  | badGroupName (name : Text)
  | badGroupNumber
  | redefinedName (name : Text) (index earlier : Nat)
  | unknownName (name : Text)
  | invalidReference (index : Nat)
  | openGroup
  | sameLookBehind
  | variableLookBehind
  | tooManyBranches
  | unknownExtension (text : Text)
  | misplacedOptions
  | badOptions (what : String)
  | missingOption (what : String)
  | unknownOption
deriving DecidableEq

/-- The reason in words. -/
def Reason.message : Reason → String
  | .unterminatedGroup => "missing ), unterminated subpattern"
  | .unterminatedComment => "missing ), unterminated comment"
  | .unterminatedClass => "unterminated character set"
  | .unbalancedParenthesis => "unbalanced parenthesis"
  | .unexpectedEnd => "unexpected end of pattern"
  | .nothingToRepeat => "nothing to repeat"
  | .multipleRepeat => "multiple repeat"
  | .crossedBounds => "min repeat greater than max repeat"
  | .badRange first last => "bad character range " ++ first.asString ++ "-" ++ last.asString
  | .badEscape escape => "bad escape " ++ escape.asString
  | .danglingEscape => "bad escape (end of pattern)"
  | .incompleteEscape escape => "incomplete escape " ++ escape.asString
  | .octalTooLarge escape =>
    "octal escape value " ++ escape.asString ++ " outside of range 0-0o377"
  | .missingBrace => "missing \x7b"
  | .unknownCharacter name => "undefined character name " ++ name.quoted.asString
  | .missingName what => "missing " ++ what
  | .unterminatedName terminator => "missing " ++ terminator.toString ++ ", unterminated name"
  | .badGroupName name => "bad character in group name " ++ name.quoted.asString
  | .badGroupNumber => "bad group number"
  | .redefinedName name index earlier =>
    "redefinition of group name " ++ name.quoted.asString ++ " as group " ++ toString index ++
      "; was group " ++ toString earlier
  | .unknownName name => "unknown group name " ++ name.quoted.asString
  | .invalidReference index => "invalid group reference " ++ toString index
  | .openGroup => "cannot refer to an open group"
  | .sameLookBehind => "cannot refer to group defined in the same lookbehind subpattern"
  | .variableLookBehind => "look-behind requires fixed-width pattern"
  | .tooManyBranches => "conditional backref with more than two branches"
  | .unknownExtension text => "unknown extension ?" ++ text.asString
  | .misplacedOptions => "global flags not at the start of the expression"
  | .badOptions what => "bad inline flags: " ++ what
  | .missingOption what => "missing " ++ what
  | .unknownOption => "unknown flag"

/-- A refusal: its reason and the place in the pattern that it is about, if any. -/
structure Refusal where
  reason : Reason
  position : Option Nat
deriving DecidableEq

/-- The refusal of a pattern in words. The line is told only where there is more than one. -/
def Refusal.message (refusal : Refusal) (pattern : Text) : String :=
  match refusal.position with
  | none => refusal.reason.message
  | some position =>
    let place := refusal.reason.message ++ " at position " ++ toString position
    if pattern.contains '\n' then
      let (line, column) := Text.lineAndColumn pattern position
      place ++ " (line " ++ toString line ++ ", column " ++ toString column ++ ")"
    else place

/-- A fault that reading a pattern meets and that is no refusal. -/
inductive Fault
  /-- a repetition count that is too large -/
  | repetitionTooLarge
  /-- a number of so many digits -/
  | longNumeral (digits : Nat)
  /-- options that ask for ASCII and for all scripts -/
  | conflictingScripts
deriving DecidableEq

/-- The fault in words. -/
def Fault.message : Fault → String
  | .repetitionTooLarge => "the repetition number is too large"
  | .longNumeral digits => Numeral.tooLongToRead digits
  | .conflictingScripts => "ASCII and UNICODE flags are incompatible"

/-- Why reading a pattern ends without one. -/
inductive Failure
  | refused (refusal : Refusal)
  | fault (fault : Fault)
deriving DecidableEq

end QueryTemplates.Pattern
