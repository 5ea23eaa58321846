import QueryTemplates.Processor.ScalarText
import QueryTemplates.Text.Delimiter

/-! # The configurable processor

Texts and dates are put between delimiters, unless they look like numbers or equal the default value and
the settings say otherwise. Numbers and truth values stand bare. The default value can stand for what is
not supplied.
-/

namespace QueryTemplates

/-- Digits, perhaps after a minus sign, perhaps with more digits after a point. -/
def looksNumeric (text : Text) : Bool :=
  let unsigned := match text with
    | '-' :: rest => rest
    | text => text
  let rest := unsigned.dropWhile Char.isDigit
  rest.length < unsigned.length &&
    match rest with
    | [] => true
    | c :: fraction => c == '.' && Numeral.isDigits fraction

/-- The settings of a configurable processor. -/
structure Configurable where
  wrapsTexts : Bool
  delimiter : Text
  wrapsNumericTexts : Bool
  substitutesDefault : Bool
  default : Value
  escapesDefault : Bool
  keepsDefaultBare : Bool

namespace Configurable

/-- The settings that are used where no others are given. -/
def standard : Configurable where
  wrapsTexts := true
  delimiter := ['\'']
  wrapsNumericTexts := false
  substitutesDefault := false
  default := .null
  escapesDefault := false
  keepsDefaultBare := false

/-- A truth value in lower case. -/
def boolText (value : Bool) : Text := if value then "true".toList else "false".toList

/-- A text in a query: between delimiters or bare. -/
def characters (settings : Configurable) (text : Text) : Text :=
  if !settings.wrapsTexts then text
  else if !settings.wrapsNumericTexts && looksNumeric text then text
  else if settings.keepsDefaultBare && settings.default.isText text then text
  else Text.wrap settings.delimiter text

/-- The query text of a value. -/
def format (settings : Configurable) (key id : Text) (value : Value) : Except RenderFailure Text :=
  match value with
  | .bool value => .ok (boolText value)
  | value =>
    match value.numberText?, value.characters? with
    | some text, _ => text
    | none, some text => text.map settings.characters
    | none, none => .error (Processor.unsupported key id value)

/-- What stands for a parameter without a value. -/
def substitute (settings : Configurable) (key id : Text) : Except RenderFailure (Option Text) :=
  if !settings.substitutesDefault then .ok none
  else if settings.default.isNull then .ok (some [])
  else
    let text :=
      if settings.escapesDefault then settings.format key id settings.default
      else match settings.default with
        | .bool value => .ok (boolText value)
        | value => value.plainText
    text.map some

/-- The processor with these settings. -/
def processor (settings : Configurable) : Processor := ⟨settings.format, settings.substitute⟩

end Configurable

end QueryTemplates
