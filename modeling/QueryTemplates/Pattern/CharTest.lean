import QueryTemplates.Character.Blank
import QueryTemplates.Character.LetterCase
import QueryTemplates.Character.Word

/-! # Tests of a single character

What a literal, a dot, an escape such as `\w` or a bracketed class of a pattern accepts. Characters are
compared by code point, so that a pattern may name a code point that no text contains.
-/

namespace QueryTemplates.Pattern

/-- The named classes of characters. -/
inductive Category
  | digit
  | space
  | word
deriving DecidableEq

/-- Membership in a named class, of all scripts or of ASCII alone. -/
def Category.contains (category : Category) (ascii : Bool) (c : Char) : Bool :=
  match category, ascii with
  | .digit, false => Character.isDecimalDigit c
  | .digit, true => c.isDigit
  | .space, false => Character.isBlank c
  | .space, true => (0x09 ≤ c.toNat && c.toNat ≤ 0x0D) || c.toNat == 0x20
  | .word, false => Character.isWord c
  | .word, true => c.isAlphanum || c == '_'

/-- One member of a bracketed class. -/
inductive ClassItem
  | code (code : Nat)
  | range (first last : Nat)
  | category (category : Category) (negated : Bool)
deriving DecidableEq

/-- A class of characters, or its complement, under the letter case and script rules in force. -/
structure CharTest where
  negated : Bool
  items : List ClassItem
  ignoreCase : Bool
  ascii : Bool
deriving DecidableEq

namespace CharTest

/-- The form in which code points are compared when letter case is ignored. -/
def fold (ascii : Bool) (code : Nat) : Nat :=
  if ascii then Character.lowerAscii code else Character.lower code

/-- The code point lies between the two. -/
def between (first last code : Nat) : Bool := decide (first ≤ code) && decide (code ≤ last)

/-- Membership of a character in one item when letter case matters. -/
def exactly (ascii : Bool) (c : Char) : ClassItem → Bool
  | .code code => c.toNat == code
  | .range first last => between first last c.toNat
  | .category category negated => category.contains ascii c != negated

/-- Membership of a character in one item when letter case is ignored: the item holds a character whose
lower-case form is that of `c` or shares its upper-case form. -/
def looselyIn (ascii : Bool) (c : Char) : ClassItem → Bool
  | .code code =>
    let lower := fold ascii code
    let own := fold ascii c.toNat
    own == lower || (!ascii && (Character.caseMates lower).contains own)
  | .range first last =>
    let own := fold ascii c.toNat
    if ascii then
      between first last own || (between 0x61 0x7A own && between first last (own - 0x20))
    else
      (own :: Character.caseMates own).any fun code =>
        between first last code || (Character.uppers code).any (between first last)
  | .category category negated => category.contains ascii c != negated

/-- The characters that the test accepts. -/
def accepts (test : CharTest) (c : Char) : Bool :=
  test.items.any (if test.ignoreCase then looselyIn test.ascii c else exactly test.ascii c)
    != test.negated

end CharTest

end QueryTemplates.Pattern
