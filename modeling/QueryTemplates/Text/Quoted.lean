import QueryTemplates.Character.Printable
import QueryTemplates.Text.Numeral

/-! # Quoted texts

The form in which messages show a text: between single quotes, or between double quotes when the text
holds single quotes and no double ones. The quote in use and the backslash are escaped, and so is every
character without a printed form of its own.
-/

namespace QueryTemplates.Text

/-- The written form of a character between the given quotes. -/
def escapeChar (quote c : Char) : Text :=
  if c = quote ∨ c = '\\' then ['\\', c]
  else if c = '\n' then ['\\', 'n']
  else if c = '\r' then ['\\', 'r']
  else if c = '\t' then ['\\', 't']
  else if Character.isPrintable c then [c]
  else if c.toNat < 0x100 then '\\' :: 'x' :: Numeral.hex 2 c.toNat
  else if c.toNat < 0x10000 then '\\' :: 'u' :: Numeral.hex 4 c.toNat
  else '\\' :: 'U' :: Numeral.hex 8 c.toNat

/-- The quote that a text is shown between. -/
def quoteFor (text : Text) : Char :=
  if text.contains '\'' && !text.contains '"' then '"' else '\''

/-- The text between quotes, with escapes. -/
def quoted (text : Text) : Text :=
  let quote := text.quoteFor
  quote :: text.flatMap (escapeChar quote) ++ [quote]

end QueryTemplates.Text
