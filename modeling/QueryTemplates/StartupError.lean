import QueryTemplates.Pattern.Error

/-! # Why queries cannot be loaded

A startup error says which file, definition or pattern is at fault; `StartupError.message` is its wording.
A load can also end with a fault that is no startup error: those are the other cases of `StartupFailure`.
-/

namespace QueryTemplates

/-- Why a file or a directory cannot be read. -/
inductive ReadFault
  /-- the place to look for files does not exist -/
  | noLocation
  | notFound
  | isDirectory
  | notDirectory
  | nameTooLong
  | notText (reason : String)
deriving DecidableEq

/-- The fault in words. -/
def ReadFault.message : ReadFault → String
  | .noLocation => "no such file or directory"
  | .notFound => "No such file or directory"
  | .isDirectory => "Is a directory"
  | .notDirectory => "Not a directory"
  | .nameTooLong => "File name too long"
  | .notText reason => "not valid UTF-8 (" ++ reason ++ ")"

/-- What is wrong with a definition. -/
inductive Malformation
  /-- a marker line, counted from 1, has no identifier -/
  | blankId (line : Nat)
  /-- there is content, but no line starts with the marker -/
  | noMarker (marker : Text)
  /-- there is content before the first marker line -/
  | strayContent
  /-- the index of a placeholder has more digits than are read -/
  | tooManyDigits (query : Option Text) (digits : Nat)
  /-- the index of a placeholder is zero -/
  | zeroIndex (query : Option Text) (written : Text)
deriving DecidableEq

/-- The query that a message is about, if it has a name. -/
def Malformation.inQuery : Option Text → String
  | some (c :: id) => " in query " ++ Text.asString (c :: id)
  | _ => ""

/-- What is wrong, in words. -/
def Malformation.message : Malformation → String
  | .blankId line => "line " ++ toString line ++ ": query id marker without an id"
  | .noMarker marker => "no line starts with the query id prefix " ++ marker.quoted.asString
  | .strayContent => "content found before the first query id"
  | .tooManyDigits query digits =>
    "Positional placeholder" ++ inQuery query ++ " has too many digits (" ++ toString digits ++ ")"
  | .zeroIndex query written =>
    "Positional placeholder " ++ written.quoted.asString ++ inQuery query ++
      " must be 1 or greater"

/-- Why a pattern cannot be used for placeholders. -/
inductive PatternDefect
  /-- it is no text at all -/
  | notText
  | refused (refusal : Pattern.Refusal)
  | noGroup
  | matchesEmpty
deriving DecidableEq

/-- The defect of a pattern in words. -/
def PatternDefect.message (pattern : Text) : PatternDefect → String
  | .notText => "first argument must be string or compiled pattern"
  | .refused refusal => refusal.message pattern
  | .noGroup => "pattern must contain a capture group"
  | .matchesEmpty => "pattern must not match the empty string"

/-- Why queries cannot be loaded. -/
inductive StartupError
  | unreadable (path : Text) (fault : ReadFault)
  | malformed (path : Option Text) (malformation : Malformation)
  | duplicateId (id : Text) (path : Option Text)
  | unusablePattern (pattern : Text) (defect : PatternDefect)
deriving DecidableEq

/-- The error in words. An empty path is not told. -/
def StartupError.message : StartupError → String
  | .unreadable path fault =>
    "Unable to read query template " ++ path.asString ++ ": " ++ fault.message
  | .malformed (some (c :: path)) malformation =>
    Text.asString (c :: path) ++ ": " ++ malformation.message
  | .malformed _ malformation => malformation.message
  | .duplicateId id path =>
    "Query id " ++ id.quoted.asString ++ " is defined more than once" ++
      match path with
      | some (c :: path) => " (redefined in " ++ Text.asString (c :: path) ++ ")"
      | _ => ""
  | .unusablePattern pattern defect =>
    "Invalid placeholder pattern " ++ pattern.quoted.asString ++ ": " ++ defect.message pattern

/-- What a load that does not succeed ends with. -/
inductive StartupFailure
  | error (error : StartupError)
  /-- reading the pattern met a fault that is no refusal -/
  | pattern (fault : Pattern.Fault)
  /-- the path of a file to read holds a null character -/
  | nullInPath
  /-- a path that is looked at for files is too long, or has a name that no file can have -/
  | nameTooLong (path : Text)
deriving DecidableEq

/-- The failure in words. -/
def StartupFailure.message : StartupFailure → String
  | .error cause => cause.message
  | .pattern fault => fault.message
  | .nullInPath => "embedded null byte"
  | .nameTooLong path => "[Errno 36] File name too long: " ++ path.quoted.asString

end QueryTemplates
