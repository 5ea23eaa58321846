import QueryTemplates.Template.Placeholder
import QueryTemplates.Template.Token

/-! # From body to tokens

A body is cut at the placeholders of each of its lines, and its line breaks are replaced. Each placeholder
becomes a reference, by its content: a run of ASCII digits is an index, anything else a name. Adjacent
literals are merged, and empty ones left out. The first index that cannot be read is an error.
-/

namespace QueryTemplates

open Pattern (Cursor Occurrence)

/-- A part of a body: text between placeholders, or a placeholder. -/
inductive Piece
  | text (text : Text)
  | placeholder (content written : Text)
deriving DecidableEq

namespace Piece

/-- The text of a piece in the body. -/
def source : Piece → Text
  | .text plain => plain
  | .placeholder _ written => written

/-- The pieces of a line from a place on, cut at the given occurrences. -/
def cut {line : Text} (place : Cursor line) : List (Occurrence line) → List Piece
  | [] => [.text place.after]
  | occurrence :: rest =>
    .text (place.textTo occurrence.first) ::
      .placeholder (occurrence.content.getD []) occurrence.text :: cut occurrence.last rest

/-- The pieces of a line. Occurrences of no length are no placeholders. -/
def ofLine (placeholder : Placeholder) (line : Text) : List Piece :=
  cut (Cursor.start line) ((placeholder.node.occurrences line).filter fun occurrence =>
    !occurrence.isEmpty)

/-- The pieces of a body, with the line break that takes the place of its own. -/
def ofBody (placeholder : Placeholder) (newLine body : Text) : List Piece :=
  List.intercalate [.text newLine] (body.lines.map (ofLine placeholder))

/-- The token that a placeholder stands for. -/
def reference (query : Option Text) (content written : Text) : Except Malformation Token :=
  if Numeral.isDigits content then
    if Numeral.digitLimit < content.length then .error (.tooManyDigits query content.length)
    else
      match Index.ofNat? (Numeral.value content) with
      | some index => .ok (.positional index (some written))
      | none => .error (.zeroIndex query written)
  else .ok (.named content (some written))

/-- The token of a piece. -/
def token (query : Option Text) : Piece → Except Malformation Token
  | .text plain => .ok (.literal plain)
  | .placeholder content written => reference query content written

/-- The tokens of pieces, up to the first that has none. -/
def tokens (query : Option Text) : List Piece → Except Malformation (List Token)
  | [] => .ok []
  | piece :: rest =>
    match piece.token query with
    | .error malformation => .error malformation
    | .ok first =>
      match tokens query rest with
      | .error malformation => .error malformation
      | .ok others => .ok (first :: others)

end Piece

/-- Puts a token in front of others: an empty literal is left out, and a literal before another is
merged with it. -/
def Token.joinTo : Token → List Token → List Token
  | .literal [], rest => rest
  | .literal text, .literal more :: rest => .literal (text ++ more) :: rest
  | token, rest => token :: rest

/-- The tokens with adjacent literals merged and empty ones left out. -/
def coalesce (tokens : List Token) : List Token := tokens.foldr Token.joinTo []

/-- The tokens of a body. Errors name the query if it has a name. -/
def tokenize (placeholder : Placeholder) (newLine : Text) (query : Option Text) (body : Text) :
    Except Malformation (List Token) :=
  (Piece.tokens query (Piece.ofBody placeholder newLine body)).map coalesce

end QueryTemplates
