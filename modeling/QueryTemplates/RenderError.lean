import QueryTemplates.Text.Numeral

/-! # Why a query cannot be rendered

A render error says which query, parameter or value is at fault; `RenderError.message` is its wording. Two
other things can end a rendering: an integer too long to be written, and code of the caller that fails.
-/

namespace QueryTemplates

/-- Why a query cannot be rendered. -/
inductive RenderError
  | unknownQuery (id : Text)
  | missingPositional (id : Text) (index : Nat)
  | missingNamed (id name : Text)
  | unsupportedValue (id key typeName : Text)
deriving DecidableEq

namespace RenderError

/-- The query that the error is about. -/
def query : RenderError → Text
  | .unknownQuery id | .missingPositional id _ | .missingNamed id _ | .unsupportedValue id _ _ => id

/-- The error in words. -/
def message : RenderError → String
  | .unknownQuery id => "Unknown query " ++ id.asString
  | .missingPositional id index =>
    "Query " ++ id.asString ++ " requires positional parameter " ++ Text.asString (Numeral.ofNat index) ++
      " but it was not supplied"
  | .missingNamed id name =>
    "Query " ++ id.asString ++ " requires a parameter named " ++ name.asString ++
      " but none supplied"
  | .unsupportedValue id key typeName =>
    "Value for parameter " ++ key.asString ++ " of query " ++ id.asString ++
      " is not a supported type (type is " ++ typeName.asString ++ ")"

end RenderError

/-- What a rendering that does not succeed ends with. -/
inductive RenderFailure
  | error (error : RenderError)
  /-- an integer has more digits than are written -/
  | longInteger
  /-- code of the caller fails with a message: a processor, or what is asked of an object or a time zone -/
  | processor (message : Text)
deriving DecidableEq

/-- The failure in words. -/
def RenderFailure.message : RenderFailure → String
  | .error cause => cause.message
  | .longInteger => Numeral.tooLongToWrite
  | .processor message => message.asString

/-- What code of the caller answers, or the failure with its message. -/
def RenderFailure.told {α : Type} (answer : Except Text α) : Except RenderFailure α :=
  answer.mapError .processor

end QueryTemplates
