import QueryTemplates.Config.Problem
import QueryTemplates.Files.Path
import QueryTemplates.Value.Basic

/-! # Fields of configuration data

What each kind of field accepts. Fields are read one after another, and the problems of all of them are
gathered in that order.
-/

namespace QueryTemplates

/-- What a field makes of a value. Each fault may be about a part of the field. -/
abbrev FieldReader (α : Type) := Value → Except (List (List Text × FieldFault)) α

namespace FieldReader

/-- A fault of the field as a whole. -/
def fault {α : Type} (fault : FieldFault) : Except (List (List Text × FieldFault)) α :=
  .error [([], fault)]

/-- A text. -/
def text : FieldReader Text
  | .text value => .ok value
  | _ => fault .notText

/-- A text that is not empty, in another form. -/
def nonEmpty {α : Type} (make? : Text → Option α) : FieldReader α := fun value => do
  match make? (← text value) with
  | some made => .ok made
  | none => fault .tooShort

/-- A text, or nothing. -/
def optionalText : FieldReader (Option Text)
  | .null => .ok none
  | value => (text value).map some

/-- A path. -/
def path : FieldReader Path
  | .text value => .ok (Path.ofText value)
  | _ => fault .notPath

/-- The words that are read as true. -/
def trueWords : List Text := ["1", "true", "t", "yes", "y", "on"].map String.toList

/-- The words that are read as false. -/
def falseWords : List Text := ["0", "false", "f", "no", "n", "off"].map String.toList

/-- The bounds of the integers that may be meant as truth values: those of 64 bits with a sign. -/
def wordBound : Int := 9223372036854775808

/-- A truth value, also as zero or one, or as a word in any letter case. -/
def bool : FieldReader Bool
  | .bool value => .ok value
  | .int value =>
    if value = 0 then .ok false
    else if value = 1 then .ok true
    else if -wordBound ≤ value ∧ value < wordBound then fault .unreadableBool
    else fault .notBool
  | .float value =>
    if value.text = "0.0".toList ∨ value.text = "-0.0".toList then .ok false
    else if value.text = "1.0".toList then .ok true
    else fault .notBool
  | .text value =>
    if trueWords.contains (Text.lowerAscii value) then .ok true
    else if falseWords.contains (Text.lowerAscii value) then .ok false
    else fault .unreadableBool
  | _ => fault .notBool

/-- One of several words, each of which means something. -/
def choice {α : Type} (choices : List (String × α)) : FieldReader α := fun value =>
  match choices.find? fun (word, _) => value.isText word.toList with
  | some (_, meaning) => .ok meaning
  | none => fault (.notChoice (choices.map (·.1)))

/-- Nothing, or a text, a number or a truth value, kept as it is. -/
def scalar : FieldReader Value
  | .null => .ok .null
  | .text value => .ok (.text value)
  | .int value => .ok (.int value)
  | .float value => .ok (.float value)
  | .bool value => .ok (.bool value)
  | _ => .error [(["str".toList], .notText), (["int".toList], .notInteger),
      (["float".toList], .notNumber), (["bool".toList], .notBool)]

end FieldReader

/-- Reading of fields, which gathers problems. -/
abbrev FieldsReader := StateM (List FieldProblem)

/-- Reads a field under the first of its names that the data has. Without the field, and where it has a
problem, the value is the given one. -/
def readField {α : Type} (fields : List (Text × Value)) (names : List String)
    (read : FieldReader α) (default : α) : FieldsReader α := do
  match names.findSome? fun name => (fields.lookup name.toList).map (name, ·) with
  | none => return default
  | some (name, value) =>
    match read value with
    | .ok result => return result
    | .error faults =>
      modify (· ++ faults.map fun (part, fault) => ⟨name.toList :: part, fault⟩)
      return default

/-- The result of reading fields, if there is no problem. -/
def FieldsReader.result {α : Type} (reader : FieldsReader α) : Except (List FieldProblem) α :=
  match reader.run [] with
  | (result, []) => .ok result
  | (_, problem :: rest) => .error (problem :: rest)

end QueryTemplates
