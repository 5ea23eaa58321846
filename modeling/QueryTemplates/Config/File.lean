import QueryTemplates.Config.Basic
import QueryTemplates.Json.Reader

/-! # Configuration files

A configuration file is JSON. Its data is a section of it, if there is a record of that name, and else all
of it.
-/

namespace QueryTemplates

/-- Why a configuration file gives no configuration. -/
inductive ConfigFailure
  | unreadable (path : Path) (fault : ReadFault)
  | nullInPath
  | notText (failure : Utf8.Error)
  | notJson (text : Text) (failure : Json.Failure)
  | invalid (problems : List FieldProblem)

/-- The number by which the system calls a fault. -/
def ReadFault.number : ReadFault → Nat
  | .noLocation | .notFound => 2
  | .notDirectory => 20
  | .isDirectory => 21
  | .nameTooLong => 36
  | .notText _ => 84

/-- A failure to decode in words. -/
def Utf8.Error.message (failure : Utf8.Error) : String :=
  let bytes :=
    if failure.length = 1 then
      "byte 0x" ++ Text.asString (Numeral.hex 2 failure.byte) ++ " in position " ++
        toString failure.position
    else
      "bytes in position " ++ toString failure.position ++ "-" ++
        toString (failure.position + failure.length - 1)
  "'utf-8' codec can't decode " ++ bytes ++ ": " ++ failure.fault.reason

/-- The failure in words. Problems of fields have words of their own. -/
def ConfigFailure.message : ConfigFailure → String
  | .unreadable path fault =>
    "[Errno " ++ toString fault.number ++ "] " ++ fault.message ++ ": " ++ path.text.quoted.asString
  | .nullInPath => "embedded null byte"
  | .notText failure => failure.message
  | .notJson text failure => failure.message text
  | .invalid problems => ", ".intercalate (problems.map (·.fault.message))

/-- The section in which configuration files keep their data. -/
def Config.sectionName : Text := "QueryManager".toList

/-- The data in the value of a configuration file. -/
def Config.dataIn (sectionName : Text) (value : Value) : Value :=
  match value.fields.lookup sectionName with
  | some (.record fields) => .record fields
  | _ => value

/-- The configuration in a file. -/
def Config.ofFile (root : FileTree) (path sectionName : Text) : Except ConfigFailure Config :=
  if path.contains '\x00' then .error .nullInPath
  else match root.readBytes (Path.ofText path) with
    | .error fault => .error (.unreadable (Path.ofText path) fault)
    | .ok bytes =>
      match Utf8.decode bytes with
      | .error failure => .error (.notText failure)
      | .ok raw =>
        match Json.read raw.normalizeBreaks with
        | .error failure => .error (.notJson raw.normalizeBreaks failure)
        | .ok document => (Config.ofValue (dataIn sectionName document.value)).mapError .invalid

end QueryTemplates
