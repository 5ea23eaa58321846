import QueryTemplates.Calendar
import QueryTemplates.Number.Binary64
import QueryTemplates.Number.Decimal

/-! # Values

What is supplied for a parameter: nothing, a scalar, a collection of values, a record with named fields,
or an object of a kind that no query text is made of. Values are of these kinds exactly; kinds derived from
them, which can have texts of their own, are left out. Objects and time zones of the caller have code of
their own: what it answers when it is asked is a part of the value, and may be that it fails.
-/

namespace QueryTemplates

/-- The kinds of collection. Sets have no two equal members. -/
inductive CollectionKind
  | list
  | tuple
  | set
  | frozenSet
deriving DecidableEq

/-- The members of such a collection have no order of their own. -/
def CollectionKind.isSet : CollectionKind → Bool
  | .list | .tuple => false
  | .set | .frozenSet => true

/-- A time zone of the caller: by how many seconds a time in it is ahead of universal time, if that is known,
and the form in which it is shown. Asked for either, it may fail with a message. -/
structure Zone where
  offset : Except Text (Option Int)
  shown : Except Text Text

/-- A value. -/
inductive Value
  | null
  | bool (value : Bool)
  | int (value : Int)
  | float (value : Binary64)
  | decimal (value : Decimal)
  | text (value : Text)
  | date (value : Date)
  | dateTime (value : DateTime)
  /-- a time whose offset is the one that a zone of the caller answers for it -/
  | zonedTime (time : DateTime) (zone : Zone)
  | collection (kind : CollectionKind) (members : List Value)
  | record (fields : List (Text × Value))
  /-- an object, with its plain text and the form in which it is shown, or the messages with which it fails
  when it is asked for them -/
  | object (typeName : Text) (plain shown : Except Text Text)

namespace Value

/-- An object whose texts are the name of its type. -/
def other (typeName : Text) : Value := .object typeName (.ok typeName) (.ok typeName)

/-- The name that messages give to the kind of a collection. -/
def collectionName : CollectionKind → String
  | .list => "list"
  | .tuple => "tuple"
  | .set => "set"
  | .frozenSet => "frozenset"

/-- The name that messages give to the kind of a value. -/
def typeName : Value → Text
  | .null => "NoneType".toList
  | .bool _ => "bool".toList
  | .int _ => "int".toList
  | .float _ => "float".toList
  | .decimal _ => "Decimal".toList
  | .text _ => "str".toList
  | .date _ => "date".toList
  | .dateTime _ | .zonedTime _ _ => "datetime".toList
  | .collection kind _ => (collectionName kind).toList
  | .record _ => "dict".toList
  | .object typeName _ _ => typeName

/-- No value. -/
def isNull : Value → Bool
  | .null => true
  | _ => false

/-- The value is this text. -/
def isText (text : Text) : Value → Bool
  | .text value => value == text
  | _ => false

/-- The list of the given members. -/
def list (members : List Value) : Value := .collection .list members

/-- The members of a collection; other values have none. -/
def members : Value → List Value
  | .collection _ values => values
  | _ => []

/-- The fields of a record; other values have none. -/
def fields : Value → List (Text × Value)
  | .record entries => entries
  | _ => []

end Value

end QueryTemplates
