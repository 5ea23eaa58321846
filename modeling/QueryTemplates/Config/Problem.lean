import QueryTemplates.Text.Basic

/-! # Problems in configuration data

Each problem is about one field, under the name by which the field was given, and says what was expected
there.
-/

namespace QueryTemplates

/-- What is wrong with the value of a field. -/
inductive FieldFault
  | notRecord
  | notText
  | tooShort
  | notBool
  | unreadableBool
  | notInteger
  | notNumber
  | notPath
  | notChoice (choices : List String)
deriving DecidableEq

namespace FieldFault

/-- The name of the kind of fault. -/
def kind : FieldFault → String
  | .notRecord => "model_type"
  | .notText => "string_type"
  | .tooShort => "string_too_short"
  | .notBool => "bool_type"
  | .unreadableBool => "bool_parsing"
  | .notInteger => "int_type"
  | .notNumber => "float_type"
  | .notPath => "path_type"
  | .notChoice _ => "literal_error"

/-- Choices in words: between quotes, with `or` before the last one. -/
def choicesText : List String → String
  | [] => ""
  | [choice] => "'" ++ choice ++ "'"
  | [choice, last] => "'" ++ choice ++ "' or '" ++ last ++ "'"
  | choice :: rest => "'" ++ choice ++ "', " ++ choicesText rest

/-- The fault in words. -/
def message : FieldFault → String
  | .notRecord => "Input should be a valid dictionary or instance of QueryManagerConfig"
  | .notText => "Input should be a valid string"
  | .tooShort => "String should have at least 1 character"
  | .notBool => "Input should be a valid boolean"
  | .unreadableBool => "Input should be a valid boolean, unable to interpret input"
  | .notInteger => "Input should be a valid integer"
  | .notNumber => "Input should be a valid number"
  | .notPath => "Input is not a valid path for <class 'pathlib.Path'>"
  | .notChoice choices => "Input should be " ++ choicesText choices

end FieldFault

/-- A fault, and the field that it is about. -/
structure FieldProblem where
  location : List Text
  fault : FieldFault
deriving DecidableEq

end QueryTemplates
