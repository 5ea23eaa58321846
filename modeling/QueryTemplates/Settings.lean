import QueryTemplates.Config.File

/-! # Settings of the service

A setting comes from what the program is given directly, from the environment, or from a settings file in
the working directory, in this order. Names in the last two are read without regard to letter case, and
empty values there count as absent.
-/

namespace QueryTemplates

/-- Where the service runs. -/
inductive Environment
  | «local»
  | staging
  | production
deriving DecidableEq

/-- The words for the environments. -/
def Environment.words : List (String × Environment) :=
  [("local", .local), ("staging", .staging), ("production", .production)]

/-- The settings of the service. -/
structure Settings where
  projectName : Text
  apiPath : Text
  environment : Environment
  logLevel : Text
  templateLocation : Option Text
  configFile : Option Text

namespace Settings

/-- The settings where nothing is given. -/
def standard : Settings where
  projectName := "querymanager".toList
  apiPath := "/api/v1".toList
  environment := .local
  logLevel := "INFO".toList
  templateLocation := none
  configFile := none

/-- The name of the settings file. -/
def fileName : Text := ".env".toList

/-- The names of the settings. -/
def names : List String :=
  ["PROJECT_NAME", "API_V1_STR", "ENVIRONMENT", "LOG_LEVEL", "QUERY_TEMPLATE_LOCATION",
    "QUERY_MANAGER_CONFIG_FILE"]

/-- The setting on a line: a name, an equals sign and a value, which ends before a comment. -/
def ofLine? (line : Text) : Option (Text × Text) :=
  let name := Text.trim (line.takeWhile (· != '='))
  match line.dropWhile (· != '=') with
  | [] => none
  | _ :: (value : Text) =>
    if name.isEmpty || name.head? == some '#' then none
    else some (name, (withoutComment value.trimStart).trim)
where
  /-- The text up to the first number sign after white space. -/
  withoutComment : Text → Text
    | [] => []
    | c :: rest =>
      if Character.isBlank c && (rest.dropWhile Character.isBlank).head? == some '#' then []
      else c :: withoutComment rest

/-- The settings in the file of the working directory. -/
def inFile (root : FileTree) : List (Text × Text) :=
  match root.readBytes (Path.ofText fileName) with
  | .error _ => []
  | .ok bytes =>
    match Utf8.decode bytes with
    | .error _ => []
    | .ok raw => raw.lines.filterMap ofLine?

/-- The last value that is not empty under a name, without regard to letter case. -/
def find? (name : String) (entries : List (Text × Text)) : Option Value :=
  (entries.reverse.find? fun (other, value) =>
    Text.lowerAscii other == Text.lowerAscii name.toList && !value.isEmpty).map (.text ·.2)

/-- The value of each setting that is given somewhere. -/
def gather (given : List (Text × Value)) (environment file : List (Text × Text)) :
    List (Text × Value) :=
  names.filterMap fun name =>
    (given.lookup name.toList <|> find? name environment <|> find? name file).map (name.toList, ·)

/-- The settings in the given values. -/
def ofFields (fields : List (Text × Value)) : FieldsReader Settings := do
  let projectName ← readField fields ["PROJECT_NAME"] .text standard.projectName
  let apiPath ← readField fields ["API_V1_STR"] .text standard.apiPath
  let environment ←
    readField fields ["ENVIRONMENT"] (.choice Environment.words) standard.environment
  let logLevel ← readField fields ["LOG_LEVEL"] .text standard.logLevel
  let templateLocation ←
    readField fields ["QUERY_TEMPLATE_LOCATION"] .optionalText standard.templateLocation
  let configFile ←
    readField fields ["QUERY_MANAGER_CONFIG_FILE"] .optionalText standard.configFile
  return ⟨projectName, apiPath, environment, logLevel, templateLocation, configFile⟩

/-- The settings, from all places where they can be given. -/
def read (root : FileTree) (given : List (Text × Value)) (environment : List (Text × Text)) :
    Except (List FieldProblem) Settings :=
  (ofFields (gather given environment (inFile root))).result

/-- The configuration under these settings: that of the configuration file, if one is named, with the
location of the templates, if one is named. -/
def config (settings : Settings) (root : FileTree) : Except ConfigFailure Config := do
  let config ← match settings.configFile with
    | some (c :: path) => Config.ofFile root (c :: path) Config.sectionName
    | _ => .ok Config.standard
  match settings.templateLocation with
  | some (c :: location) => return { config with location := Path.ofText (c :: location) }
  | _ => return config

end Settings

end QueryTemplates
