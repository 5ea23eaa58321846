import QueryTemplates.Value.Basic

/-! # JSON documents

A string of JSON is a list of codes. Escapes can put a surrogate into it that is not one of a pair, which is
no character: such a string is no text, and the value of a document has a replacement in its place.
-/

namespace QueryTemplates.Json

/-- A string: the codes of its characters, and surrogates that stand alone. -/
abbrev Codes := List Nat

namespace Codes

/-- The string of codes: a high and a low surrogate next to each other make one character. -/
def paired : List Nat → Codes
  | [] => []
  | high :: low :: rest =>
    if 0xD800 ≤ high ∧ high < 0xDC00 ∧ 0xDC00 ≤ low ∧ low < 0xE000 then
      (0x10000 + (high - 0xD800) * 0x400 + (low - 0xDC00)) :: paired rest
    else high :: paired (low :: rest)
  | [code] => [code]

/-- No surrogate stands alone in the string. -/
def isPlain (codes : Codes) : Bool := codes.all fun code => decide code.isValidChar

/-- The characters of a string. A surrogate that stands alone is replaced. -/
def text (codes : Codes) : Text :=
  codes.map fun code => if code.isValidChar then Char.ofNat code else '\uFFFD'

/-- The string of a text. -/
def ofText (text : Text) : Codes := text.map Char.toNat

end Codes

/-- What a JSON text describes. -/
inductive Document
  | null
  | bool (value : Bool)
  | int (value : Int)
  | float (value : Binary64)
  | string (codes : Codes)
  | list (members : List Document)
  | record (fields : List (Codes × Document))

namespace Document

mutual

/-- The value of a document. -/
def value : Document → Value
  | .null => .null
  | .bool value => .bool value
  | .int value => .int value
  | .float value => .float value
  | .string codes => .text codes.text
  | .list members => .list (values members)
  | .record fields => .record (fieldValues fields)

/-- The values of documents. -/
def values : List Document → List Value
  | [] => []
  | document :: rest => document.value :: values rest

/-- The fields of a record with their values. -/
def fieldValues : List (Codes × Document) → List (Text × Value)
  | [] => []
  | (name, document) :: rest => (name.text, document.value) :: fieldValues rest

end

mutual

/-- Every number in a document is finite. -/
def isFinite : Document → Bool
  | .float value => value.isFinite
  | .list members => allFinite members
  | .record fields => fieldsFinite fields
  | _ => true

/-- Every number in the documents is finite. -/
def allFinite : List Document → Bool
  | [] => true
  | document :: rest => document.isFinite && allFinite rest

/-- Every number in the fields is finite. -/
def fieldsFinite : List (Codes × Document) → Bool
  | [] => true
  | (_, document) :: rest => document.isFinite && fieldsFinite rest

end

mutual

/-- No surrogate stands alone in a string of a document. -/
def isPlain : Document → Bool
  | .string codes => codes.isPlain
  | .list members => allPlain members
  | .record fields => fieldsPlain fields
  | _ => true

/-- No surrogate stands alone in a string of the documents. -/
def allPlain : List Document → Bool
  | [] => true
  | document :: rest => document.isPlain && allPlain rest

/-- No surrogate stands alone in a string of the fields. -/
def fieldsPlain : List (Codes × Document) → Bool
  | [] => true
  | (name, document) :: rest => name.isPlain && document.isPlain && fieldsPlain rest

end

end Document

end QueryTemplates.Json
