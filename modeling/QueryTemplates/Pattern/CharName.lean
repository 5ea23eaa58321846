import QueryTemplates.Text.Basic

/-! # Names of characters

The printable ASCII characters by name. Names are compared without regard to letter case. The names of all
other characters are left out: they are unknown here.
-/

namespace QueryTemplates.Pattern

/-- The names of the ASCII punctuation marks, symbols and digits. -/
def markNames : List (String × Char) := [
  ("space", ' '), ("exclamation mark", '!'), ("quotation mark", '"'), ("number sign", '#'),
  ("dollar sign", '$'), ("percent sign", '%'), ("ampersand", '&'), ("apostrophe", '\''),
  ("left parenthesis", '('), ("right parenthesis", ')'), ("asterisk", '*'), ("plus sign", '+'),
  ("comma", ','), ("hyphen-minus", '-'), ("full stop", '.'), ("solidus", '/'), ("colon", ':'),
  ("semicolon", ';'), ("less-than sign", '<'), ("equals sign", '='), ("greater-than sign", '>'),
  ("question mark", '?'), ("commercial at", '@'), ("left square bracket", '['),
  ("reverse solidus", '\\'), ("right square bracket", ']'), ("circumflex accent", '^'),
  ("low line", '_'), ("grave accent", '\x60'), ("left curly bracket", '\x7b'), ("vertical line", '|'),
  ("right curly bracket", '\x7d'), ("tilde", '~'), ("digit zero", '0'), ("digit one", '1'),
  ("digit two", '2'), ("digit three", '3'), ("digit four", '4'), ("digit five", '5'),
  ("digit six", '6'), ("digit seven", '7'), ("digit eight", '8'), ("digit nine", '9')]

/-- The character with the given name. -/
def charNamed? (name : Text) : Option Char :=
  let name := name.lowerAscii.asString
  match markNames.lookup name with
  | some c => some c
  | none =>
    let letters := (List.range 26).map fun n => Char.ofNat (0x61 + n)
    letters.findSome? fun c =>
      if name == "latin small letter " ++ c.toString then some c
      else if name == "latin capital letter " ++ c.toString then some c.toUpper
      else none

end QueryTemplates.Pattern
