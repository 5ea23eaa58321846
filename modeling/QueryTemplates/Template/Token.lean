import QueryTemplates.Text.Numeral

/-! # Tokens of a template

The body of a query is a sequence of tokens: literal text, references to positional arguments, which are
counted from 1, and references to named arguments. A reference may remember how it was written.
-/

namespace QueryTemplates

/-- The index of a positional argument, counted from 1. Its numeral has no more digits than are written. -/
structure Index where
  value : Nat
  valid : 0 < value ∧ (Numeral.ofNat value).length ≤ Numeral.digitLimit
deriving DecidableEq

namespace Index

theorem pos (index : Index) : 0 < index.value := index.valid.1

theorem short (index : Index) : (Numeral.ofNat index.value).length ≤ Numeral.digitLimit := index.valid.2

/-- A number as an index, unless it is zero or too long to be written. -/
def ofNat? (value : Nat) : Option Index :=
  if valid : 0 < value ∧ (Numeral.ofNat value).length ≤ Numeral.digitLimit then some ⟨value, valid⟩ else none

/-- An integer as an index, if it is positive and not too long. -/
def ofInt? (value : Int) : Option Index := if 0 < value then ofNat? value.toNat else none

/-- The message for a number that is no index. -/
def refusal (value : Int) : String := "Positional index must be >= 1, got " ++ toString value

/-- The index in a list counted from zero. -/
def offset (index : Index) : Nat := index.value - 1

/-- The decimal digits of an index. -/
def numeral (index : Index) : Text := Numeral.ofNat index.value

end Index

/-- A part of a template. -/
inductive Token
  | literal (text : Text)
  | positional (index : Index) (written : Option Text)
  | named (name : Text) (written : Option Text)
deriving DecidableEq

namespace Token

/-- The standard form of a reference. -/
def reference (content : Text) : Text := '$' :: '\x7b' :: content ++ ['\x7d']

/-- The text of a token in a template: the written form, or the standard one. -/
def source : Token → Text
  | .literal text => text
  | .positional index written => written.getD (reference index.numeral)
  | .named name written => written.getD (reference name)

/-- The token without a memory of how it was written. -/
def bare : Token → Token
  | .literal text => .literal text
  | .positional index _ => .positional index none
  | .named name _ => .named name none

/-- Equal tokens, however they were written. -/
def same (first second : Token) : Bool := first.bare == second.bare

/-- The name of the argument that a token refers to. -/
def name? : Token → Option Text
  | .named name _ => some name
  | _ => none

/-- The index of the argument that a token refers to. -/
def index? : Token → Option Index
  | .positional index _ => some index
  | _ => none

end Token

/-- The text of a template. -/
def toSource (tokens : List Token) : Text := tokens.flatMap Token.source

/-- The names that tokens refer to, without repetition, in order of first use. -/
def namedParameters (tokens : List Token) : List Text := (tokens.filterMap Token.name?).eraseDups

/-- The highest index that tokens refer to, or zero. -/
def positionalCount (tokens : List Token) : Nat :=
  ((tokens.filterMap Token.index?).map Index.value).foldl max 0

end QueryTemplates
