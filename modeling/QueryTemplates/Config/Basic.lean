import QueryTemplates.Config.Field
import QueryTemplates.Definitions.Loading
import QueryTemplates.Processor.Configurable
import QueryTemplates.Processor.Sql
import QueryTemplates.Template.Placeholder

/-! # Configuration

Where templates are found, how they are read, and how values are written. Data gives each setting under
one of two names; what it does not give has a standard value.
-/

namespace QueryTemplates

/-- The processors that a configuration can ask for. -/
inductive ProcessorKind
  | configurable
  | sql
deriving DecidableEq

/-- The configuration of a manager. -/
structure Config where
  location : Path
  format : BlockFormat
  pattern : Text
  newLine : Text
  policy : DuplicatePolicy
  kind : ProcessorKind
  configurable : Configurable
  sql : Sql

namespace Config

/-- The configuration without any data. -/
def standard : Config where
  location := ⟨0, ["resource".toList, "queries".toList]⟩
  format := ⟨.standard, true⟩
  pattern := Placeholder.standardText
  newLine := ['\n']
  policy := .refuse
  kind := .configurable
  configurable := .standard
  sql := .standard

/-- The processor that the configuration asks for. -/
def processor (config : Config) : Processor :=
  match config.kind with
  | .configurable => config.configurable.processor
  | .sql => config.sql.processor

/-- The words for what is done with an identifier that is defined again. -/
def policies : List (String × DuplicatePolicy) := [("error", .refuse), ("last_wins", .replace)]

/-- The words for the processors. -/
def kinds : List (String × ProcessorKind) := [("configurable", .configurable), ("sql", .sql)]

/-- A text that is not empty. -/
def someText? (text : Text) : Option Text := if text.isEmpty then none else some text

/-- The configuration in the fields of a record. -/
def ofFields (fields : List (Text × Value)) : FieldsReader Config := do
  let field {α : Type} (title name : String) (read : FieldReader α) (default : α) :=
    readField fields [title, name] read default
  let location ← field "TemplateLocation" "template_location" .path standard.location
  let marker ← field "QueryIdPrefix" "query_id_prefix" (.nonEmpty Marker.ofText?) Marker.standard
  let trimsIds ← field "TrimIdWhiteSpace" "trim_id_whitespace" .bool standard.format.trimsIds
  let pattern ← field "VarMatchRegEx" "var_match_regex" (.nonEmpty someText?) standard.pattern
  let newLine ← field "NewLine" "new_line" .text standard.newLine
  let wrapsTexts ← field "WrapStrings" "wrap_strings" .bool Configurable.standard.wrapsTexts
  let delimiter ← field "StringWrapWith" "string_wrap_with" .text Configurable.standard.delimiter
  let wrapsNumericTexts ←
    field "WrapNumericStrings" "wrap_numeric_strings" .bool Configurable.standard.wrapsNumericTexts
  let policy ← field "DuplicateIdPolicy" "duplicate_id_policy" (.choice policies) standard.policy
  let kind ← field "ValueProcessor" "value_processor" (.choice kinds) standard.kind
  let substitutesDefault ←
    field "UseDefaultForMissingParameter" "use_default_for_missing_parameter" .bool
      Configurable.standard.substitutesDefault
  let default ←
    field "DefaultParameterValue" "default_parameter_value" .scalar Configurable.standard.default
  let escapesDefault ←
    field "EscapeDefaultValues" "escape_default_values" .bool Configurable.standard.escapesDefault
  let keepsDefaultBare ←
    field "DisableWrapWhenDefaultParameterValue" "disable_wrap_when_default_parameter_value" .bool
      Configurable.standard.keepsDefaultBare
  let trueWord ← field "BoolTrue" "bool_true" .text Sql.standard.trueWord
  let falseWord ← field "BoolFalse" "bool_false" .text Sql.standard.falseWord
  let configurable := ⟨wrapsTexts, delimiter, wrapsNumericTexts, substitutesDefault, default,
    escapesDefault, keepsDefaultBare⟩
  return ⟨location, ⟨marker, trimsIds⟩, pattern, newLine, policy, kind, configurable,
    ⟨trueWord, falseWord⟩⟩

/-- The configuration that a value describes, which has to be a record. -/
def ofValue (value : Value) : Except (List FieldProblem) Config :=
  match value with
  | .record fields => (ofFields fields).result
  | _ => .error [⟨[], .notRecord⟩]

end Config

end QueryTemplates
