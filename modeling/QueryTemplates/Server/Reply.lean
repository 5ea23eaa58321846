import QueryTemplates.Server.Body

/-! # Replies

What the service answers: a status and, but for redirections, a value.
-/

namespace QueryTemplates

/-- An answer of the service. -/
inductive Reply
  | queries (ids : List Text)
  | tokens (id : Text) (tokens : List Token)
  | rendered (id query : Text)
  | unknownQuery (id : Text)
  /-- a query cannot be rendered -/
  | refused (error : RenderError)
  | invalid (problems : List BodyProblem)
  /-- the body cannot be read at all -/
  | unreadableBody
  | notFound
  | wrongMethod
  | redirect
  /-- something failed that is not the caller's fault, and what may be told of it -/
  | failed (reason : Option String)

/-- A text value of a string. -/
def Value.ofString (string : String) : Value := .text string.toList

/-- A record of fields. -/
def Value.recordOf (fields : List (String × Value)) : Value :=
  .record (fields.map fun (name, value) => (name.toList, value))

namespace BodyProblem

/-- What is told of a problem in the body. -/
def report (kind : String) (place : List Value) (message : String) (input : Value) :
    List (String × Value) :=
  [("type", .ofString kind), ("loc", .list (.ofString "body" :: place)),
    ("msg", .ofString message), ("input", input)]

/-- The fields of a problem. -/
def fields : BodyProblem → List (String × Value)
  | .missing => report "missing" [] "Field required" .null
  | .notJson reason position =>
    report "json_invalid" [.int position] "JSON decode error" (.record []) ++
      [("ctx", .recordOf [("error", .ofString reason)])]
  | .notRecord body =>
    report "model_attributes_type" []
      "Input should be a valid dictionary or object to extract fields from" body.value
  | .notList positional =>
    report "list_type" [.ofString "positional"] "Input should be a valid list" positional.value
  | .notNamed named =>
    report "dict_type" [.ofString "named"] "Input should be a valid dictionary" named.value

end BodyProblem

/-- A token as a record; what a token does not have is null. -/
def Token.described : Token → Value
  | .literal text => describe "literal" (.text text) .null .null
  | .positional index _ => describe "positional" .null (.int index.value) .null
  | .named name _ => describe "named" .null .null (.text name)
where
  /-- The record of a token. -/
  describe (kind : String) (text index name : Value) : Value :=
    .recordOf [("kind", .ofString kind), ("text", text), ("index", index), ("name", name)]

namespace Reply

/-- The status of a reply. -/
def status : Reply → Nat
  | .queries _ | .tokens _ _ | .rendered _ _ => 200
  | .redirect => 307
  | .unreadableBody => 400
  | .unknownQuery _ | .notFound => 404
  | .wrongMethod => 405
  | .refused _ | .invalid _ => 422
  | .failed _ => 500

/-- A record that tells one thing. -/
def detail (message : String) : Value := .recordOf [("detail", .ofString message)]

/-- The value of a reply. A redirection has none. -/
def content? : Reply → Option Value
  | .queries ids =>
    some (.recordOf [("data", .list (ids.map .text)), ("count", .int ids.length)])
  | .tokens id parts =>
    some (.recordOf [("id", .text id), ("tokens", .list (parts.map Token.described))])
  | .rendered id query => some (.recordOf [("id", .text id), ("query", .text query)])
  | .unknownQuery id => some (detail (RenderError.unknownQuery id).message)
  | .refused error => some (detail error.message)
  | .invalid problems =>
    some (.recordOf [("detail", .list (problems.map fun problem => .recordOf problem.fields))])
  | .unreadableBody => some (detail "There was an error parsing the body")
  | .notFound => some (detail "Not Found")
  | .wrongMethod => some (detail "Method Not Allowed")
  | .redirect => none
  | .failed none => some (detail "Internal server error")
  | .failed (some reason) => some (detail ("Internal server error: " ++ reason))

end Reply

end QueryTemplates
