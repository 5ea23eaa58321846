import QueryTemplates.Text.Basic

/-! # Texts between delimiters

A text is wrapped by doubling every occurrence of the delimiter inside it, from left to right and
without overlap, and putting one delimiter at each end. The empty delimiter wraps nothing.
-/

namespace QueryTemplates.Text

/-- Doubles every occurrence of the delimiter that begins after the first `skip` characters, which are
passed over: they belong to an occurrence already doubled. -/
def doubleFrom (delimiter : Text) : (skip : Nat) → Text → Text
  | _, [] => []
  | skip + 1, _ :: rest => doubleFrom delimiter skip rest
  | 0, c :: rest =>
    if delimiter.isPrefixOf (c :: rest) then
      delimiter ++ delimiter ++ doubleFrom delimiter (delimiter.length - 1) rest
    else c :: doubleFrom delimiter 0 rest

/-- The text with every occurrence of the delimiter doubled. -/
def double (delimiter text : Text) : Text := doubleFrom delimiter 0 text

/-- The text between delimiters. -/
def wrap (delimiter text : Text) : Text :=
  if delimiter.isEmpty then text else delimiter ++ double delimiter text ++ delimiter

end QueryTemplates.Text
