import QueryTemplates.Log
import QueryTemplates.Processor.Basic
import QueryTemplates.Registry

/-! # Rendering

A query is rendered token by token: literals as they are, references as the processor writes their
arguments. Nothing that is written is looked at again. An argument that is null counts as missing. The
first token without a text is the error, and then there is no text at all.
-/

namespace QueryTemplates

/-- The arguments of a call. -/
structure Arguments where
  positional : List Value
  named : List (Text × Value)

namespace Arguments

/-- No arguments. -/
def none : Arguments := ⟨[], []⟩

/-- The positional argument of an index, or null. -/
def atIndex (arguments : Arguments) (index : Index) : Value :=
  arguments.positional[index.offset]?.getD .null

/-- The named argument, or null. -/
def atName (arguments : Arguments) (name : Text) : Value :=
  (arguments.named.lookup name).getD .null

end Arguments

/-- The text of an argument. A missing one that nothing stands for is the given error. -/
def Processor.argument (processor : Processor) (key id : Text) (value : Value)
    (missing : RenderError) : Except RenderFailure Text :=
  if value.isNull then
    match processor.substitute key id with
    | .error failure => .error failure
    | .ok none => .error (.error missing)
    | .ok (some text) => .ok text
  else processor.format key id value

/-- The text of a token. -/
def Token.render (processor : Processor) (id : Text) (arguments : Arguments) :
    Token → Except RenderFailure Text
  | .literal text => .ok text
  | .positional index _ =>
    processor.argument index.numeral id (arguments.atIndex index) (.missingPositional id index.value)
  | .named name _ => processor.argument name id (arguments.atName name) (.missingNamed id name)

/-- The text of tokens, one after another. -/
def renderTokens (processor : Processor) (id : Text) (arguments : Arguments) :
    List Token → Except RenderFailure Text
  | [] => .ok []
  | token :: rest =>
    match token.render processor id arguments with
    | .error failure => .error failure
    | .ok text =>
      match renderTokens processor id arguments rest with
      | .error failure => .error failure
      | .ok more => .ok (text ++ more)

/-- The text of a query. -/
def Registry.render (registry : Registry) (processor : Processor) (id : Text)
    (arguments : Arguments) : Except RenderFailure Text :=
  match registry.tokens? id with
  | none => .error (.error (.unknownQuery id))
  | some tokens => renderTokens processor id arguments tokens

/-- The report of a query that is rendered. -/
def renderedEntry (id text : Text) : LogEntry :=
  ⟨.debug, .renderer, "Rendered query " ++ id.asString ++ ": " ++ text.asString⟩

/-- Renders a query, and reports its text. -/
def Registry.renderLogged (registry : Registry) (processor : Processor) (id : Text)
    (arguments : Arguments) : Logged (Except RenderFailure Text) :=
  match registry.render processor id arguments with
  | .error failure => .quiet (.error failure)
  | .ok text => ⟨[renderedEntry id text], .ok text⟩

end QueryTemplates
