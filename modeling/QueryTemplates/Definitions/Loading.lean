import QueryTemplates.Definitions.Blocks
import QueryTemplates.Files.Reading
import QueryTemplates.Log

/-! # Loading definitions

The definitions of several files are merged in order. An identifier that is defined again is an error, or
replaces the body and keeps its place, as the policy says. The first file with a problem ends the load.
-/

namespace QueryTemplates

/-- What is done with an identifier that is defined again. -/
inductive DuplicatePolicy
  | refuse
  | replace
deriving DecidableEq

/-- A body, and the file that defines it. -/
structure Definition where
  body : Text
  path : Text
deriving DecidableEq

/-- The report that a file is read. -/
def parsingEntry (path : Text) : LogEntry :=
  ⟨.debug, .loader, "Parsing query file " ++ path.asString⟩

/-- The report that a definition is replaced. -/
def replacedEntry (id earlier later : Text) : LogEntry :=
  ⟨.warning, .loader, "Query id " ++ id.asString ++ " from " ++ earlier.asString ++
    " replaced by definition in " ++ later.asString⟩

/-- Merges the definitions of one file, and reports each that is replaced. -/
def merge (policy : DuplicatePolicy) (path : Text) (merged : Dictionary Definition) :
    List (Text × Text) → Except StartupError (Logged (Dictionary Definition))
  | [] => .ok (.quiet merged)
  | (id, body) :: rest =>
    let onward := merge policy path (merged.put id ⟨body, path⟩) rest
    match merged.get? id with
    | none => onward
    | some earlier =>
      match policy with
      | .refuse => .error (.duplicateId id (some path))
      | .replace => onward.map (Logged.after (replacedEntry id earlier.path path))

/-- The definitions in one file. -/
def parse (root : FileTree) (format : BlockFormat) (path : Text) :
    Except StartupFailure (List (Text × Text)) :=
  match root.readTemplate path with
  | .error failure => .error failure
  | .ok text =>
    (format.split text).mapError fun malformation => .error (.malformed (some path) malformation)

/-- Merges the definitions of files, one after another, into those that are there. -/
def mergeFiles (root : FileTree) (format : BlockFormat) (policy : DuplicatePolicy)
    (merged : Dictionary Definition) :
    List Text → Logged (Except StartupFailure (Dictionary Definition))
  | [] => .quiet (.ok merged)
  | path :: rest =>
    Logged.after (parsingEntry path) <|
      match parse root format path with
      | .error failure => .quiet (.error failure)
      | .ok pairs =>
        match merge policy path merged pairs with
        | .error cause => .quiet (.error (.error cause))
        | .ok onward => onward.andThen fun all => mergeFiles root format policy all rest

/-- The bodies that the files define, by identifier. -/
def load (root : FileTree) (format : BlockFormat) (policy : DuplicatePolicy) (paths : List Text) :
    Logged (Except StartupFailure (Dictionary Text)) :=
  (mergeFiles root format policy Dictionary.empty paths).map
    (Except.map (Dictionary.mapValues Definition.body))

end QueryTemplates
