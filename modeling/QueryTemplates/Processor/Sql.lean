import QueryTemplates.Processor.ScalarText
import QueryTemplates.Text.Delimiter

/-! # The SQL processor

Texts and dates stand between single quotes, truth values are words, what is missing is the null value,
and a collection is a list in parentheses, of any depth. The members of a set are written in the order of
their plain texts. An empty collection is a list that nothing belongs to.
-/

namespace QueryTemplates

/-- The words for the two truth values. -/
structure Sql where
  trueWord : Text
  falseWord : Text
deriving DecidableEq

namespace Sql

/-- The words that are used where no others are given. -/
def standard : Sql := ⟨"TRUE".toList, "FALSE".toList⟩

/-- The null value. -/
def nullText : Text := "NULL".toList

/-- The list that nothing belongs to. -/
def emptyList : Text := "(SELECT 1 WHERE 1=0)".toList

/-- The text of a list, from those of its members. -/
def listText (members : List Text) : Text := '(' :: Value.commaSeparated members ++ [')']

/-- Texts in the order of their keys. The first failure among the keys counts before all others. -/
def inKeyOrder (keys texts : List (Except RenderFailure Text)) :
    Except RenderFailure (List (Except RenderFailure Text)) := do
  let keys ← keys.mapM id
  return ((keys.zip texts).mergeSort fun first second => first.1.precedes second.1).map (·.2)

/-- The text of a list, where each member has a text or is a failure. The first failure counts. -/
def listOf (members : List (Except RenderFailure Text)) : Except RenderFailure Text := do
  if members.isEmpty then return emptyList
  else return listText (← members.mapM id)

mutual

/-- The query text of a value. -/
def format (words : Sql) (key id : Text) : Value → Except RenderFailure Text
  | .null => .ok nullText
  | .bool value => .ok (if value then words.trueWord else words.falseWord)
  | .collection kind members =>
    let texts := formatMembers words key id members
    if kind.isSet then (inKeyOrder (members.map Value.plainText) texts).bind listOf else listOf texts
  | value =>
    match value.numberText?, value.characters? with
    | some text, _ => text
    | none, some text => text.map (Text.wrap ['\''])
    | none, none => .error (Processor.unsupported key id value)

/-- The query texts of values. -/
def formatMembers (words : Sql) (key id : Text) : List Value → List (Except RenderFailure Text)
  | [] => []
  | value :: rest => words.format key id value :: formatMembers words key id rest

end

/-- The processor with these words. -/
def processor (words : Sql) : Processor where
  format := words.format
  substitute _ _ := .ok (some nullText)

end Sql

end QueryTemplates
