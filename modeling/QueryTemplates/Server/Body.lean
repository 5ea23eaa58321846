import QueryTemplates.Json.Reader
import QueryTemplates.Rendering

/-! # Bodies of requests

The body of a request that a query be rendered is a JSON record with positional and named arguments, both of
which may be left out. What is wrong with it is told, with the part of the body that is at fault.
-/

namespace QueryTemplates

open Json (Codes Document)

/-- What is wrong with the body of a request. -/
inductive BodyProblem
  | missing
  /-- the body is no JSON, for a reason, at a place -/
  | notJson (reason : String) (position : Nat)
  | notRecord (body : Document)
  /-- the positional arguments are no list -/
  | notList (positional : Document)
  /-- the named arguments are no record -/
  | notNamed (named : Document)

/-- The part of the body that is told again. -/
def BodyProblem.input : BodyProblem → Document
  | .notRecord document | .notList document | .notNamed document => document
  | _ => .null

/-- What a body asks for: arguments, positional and named. -/
structure Body where
  positional : List Document
  named : List (Codes × Document)

namespace Body

/-- The arguments of the call. A name in which a surrogate stands alone is not that of any parameter. -/
def arguments (body : Body) : Arguments where
  positional := body.positional.map Document.value
  named := body.named.filterMap fun (name, document) =>
    if name.isPlain then some (name.text, document.value) else none

/-- What a token refers to in the body. -/
def document? (body : Body) : Token → Option Document
  | .literal _ => none
  | .positional index _ => body.positional[index.offset]?
  | .named name _ => body.named.lookup (Codes.ofText name)

/-- No surrogate stands alone in what tokens refer to. -/
def isPlainFor (body : Body) (tokens : List Token) : Bool :=
  tokens.all fun token => (body.document? token).all Document.isPlain

/-- The positional arguments in a record. -/
def positionalIn (fields : List (Codes × Document)) : Except BodyProblem (List Document) :=
  match fields.lookup (Codes.ofText "positional".toList) with
  | none => .ok []
  | some (.list members) => .ok members
  | some document => .error (.notList document)

/-- The named arguments in a record. -/
def namedIn (fields : List (Codes × Document)) : Except BodyProblem (List (Codes × Document)) :=
  match fields.lookup (Codes.ofText "named".toList) with
  | none => .ok []
  | some (.record named) => .ok named
  | some document => .error (.notNamed document)

/-- The arguments in a document; what is wrong with each of its two fields is told. -/
def ofDocument : Document → Except (List BodyProblem) Body
  | .record fields =>
    match positionalIn fields, namedIn fields with
    | .ok positional, .ok named => .ok ⟨positional, named⟩
    | .error first, .error second => .error [first, second]
    | .error problem, _ | _, .error problem => .error [problem]
  | document => .error [.notRecord document]

/-- The text of a body without a byte order mark. -/
def withoutMark : Text → Text
  | '\uFEFF' :: rest => rest
  | text => text

end Body

/-- Why a body gives no arguments. -/
inductive BodyFailure
  | invalid (problems : List BodyProblem)
  | unreadable

/-- What the body of a request asks for. -/
def Body.read (body : Option Text) : Except BodyFailure Body :=
  match body with
  | none | some [] => .error (.invalid [.missing])
  | some (c :: text) =>
    match Json.readText (withoutMark (c :: text)) with
    | .error (.longNumeral _) => .error .unreadable
    | .error (.problem what position) => .error (.invalid [.notJson what.message position])
    | .ok document => (ofDocument document).mapError .invalid

end QueryTemplates
