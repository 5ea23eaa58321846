import QueryTemplates.Template.Token
import QueryTemplates.Text.Quoted
import QueryTemplates.Value.Text

/-! # Queries

A query is a template with an identifier.
-/

namespace QueryTemplates

/-- A template with its identifier. -/
structure Query where
  id : Text
  tokens : List Token
deriving DecidableEq

/-- The form in which a token is shown; how it was written is left out. -/
def Token.shown : Token → Text
  | .literal text => "Literal(text=".toList ++ text.quoted ++ [')']
  | .positional index _ => "PositionalVar(index=".toList ++ index.numeral ++ [')']
  | .named name _ => "NamedVar(name=".toList ++ name.quoted ++ [')']

/-- The form in which a query is shown. -/
def Query.shown (query : Query) : Text :=
  "TokenisedQuery(id=".toList ++ query.id.quoted ++ ", tokens=".toList ++
    Value.shownCollection .tuple (query.tokens.map Token.shown) ++ [')']

end QueryTemplates
