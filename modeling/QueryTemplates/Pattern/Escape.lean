import QueryTemplates.Character.Word
import QueryTemplates.Pattern.CharName
import QueryTemplates.Pattern.ReaderState

/-! # Escapes

What a backslash and the characters after it stand for: a character, a named class, a place, or the text of
a group. Inside of a class only the first two are meant.
-/

namespace QueryTemplates.Pattern

open Reader

/-- What an escape stands for inside or outside of a class. -/
inductive Escape
  | code (code : Nat)
  | category (category : Category) (negated : Bool)
  | anchor (condition : Anchor)
  | recorded (node : Node)

/-- The named classes of characters. -/
def categoryEscape? : Char → Option (Category × Bool)
  | 'd' => some (.digit, false)
  | 'D' => some (.digit, true)
  | 's' => some (.space, false)
  | 'S' => some (.space, true)
  | 'w' => some (.word, false)
  | 'W' => some (.word, true)
  | _ => none

/-- The escapes that stand for one character, whatever follows. -/
def controlEscape? : Char → Option Nat
  | 'a' => some 0x07
  | 'b' => some 0x08
  | 'f' => some 0x0C
  | 'n' => some 0x0A
  | 'r' => some 0x0D
  | 't' => some 0x09
  | 'v' => some 0x0B
  | '\\' => some 0x5C
  | _ => none

/-- The escapes that stand for a place. -/
def anchorEscape? (ascii : Bool) : Char → Option Anchor
  | 'A' => some .textStart
  | 'Z' => some .textEnd
  | 'b' => some (.boundary false ascii)
  | 'B' => some (.boundary true ascii)
  | _ => none

/-- An octal digit. -/
def isOctal (c : Char) : Bool := '0' ≤ c && c ≤ '7'

/-- A hexadecimal digit. -/
def isHex (c : Char) : Bool := (Numeral.hexValue? c).isSome

/-- The value of digits in a base. -/
def valueIn (base : Nat) (digits : Text) : Nat :=
  digits.foldl (fun n c => base * n + (Numeral.hexValue? c).getD 0) 0

/-- A code point of a fixed number of hexadecimal digits. -/
def hexEscape (c : Char) (count : Nat) : Reader Nat := do
  let digits ← takeChars isHex count
  let escape := '\\' :: c :: digits
  if digits.length < count then refuse (.incompleteEscape escape) escape.length
  else
    let code := valueIn 16 digits
    if code < 0x110000 then return code else refuse (.badEscape escape) escape.length

/-- A character by its name in braces. -/
def namedEscape : Reader Nat := do
  if ← accept '\x7b' then
    let name ← takeName '\x7d' "character name"
    match charNamed? name with
    | some c => return c.toNat
    | none => refuse (.unknownCharacter name) (name.length + 4)
  else refuse .missingBrace 0

/-- An octal escape that begins with the given digit. -/
def octalEscape (digits : Text) : Reader Nat :=
  let code := valueIn 8 digits
  if code > 0xFF then refuse (.octalTooLarge ('\\' :: digits)) (digits.length + 1) else return code

/-- An escape that means the same inside and outside of a class. -/
def commonEscape (c : Char) : Reader Nat := do
  if c = 'x' then hexEscape c 2
  else if c = 'u' then hexEscape c 4
  else if c = 'U' then hexEscape c 8
  else if c = 'N' then namedEscape
  else if c.isAlpha || c.isDigit then refuse (.badEscape ['\\', c]) 2
  else return c.toNat

/-- An escape inside of a class. -/
def classEscape (c : Char) : Reader Escape := do
  match controlEscape? c, categoryEscape? c with
  | some code, _ => return .code code
  | none, some (category, negated) => return .category category negated
  | none, none =>
    if isOctal c then
      let more ← takeChars isOctal 2
      return .code (← octalEscape (c :: more))
    else return .code (← commonEscape c)

/-- A group by its number, or an octal escape of three digits. -/
def digitEscape (options : Options) (c : Char) : Reader Escape := do
  let second ← takeChars Char.isDigit 1
  let third ← if isOctal c && second.any isOctal then takeChars isOctal 1 else pure []
  if third.isEmpty then
    let digits := c :: second
    let index := Numeral.value digits
    if index ≤ (← get).groups.length then
      return .recorded (← recordedGroup options index (digits.length + 1))
    else refuse (.invalidReference index) digits.length
  else return .code (← octalEscape (c :: second ++ third))

/-- An escape outside of a class. -/
def outerEscape (options : Options) (c : Char) : Reader Escape := do
  match anchorEscape? options.ascii c, categoryEscape? c, controlEscape? c with
  | some condition, _, _ => return .anchor condition
  | none, some (category, negated), _ => return .category category negated
  | none, none, some code => return .code code
  | none, none, none =>
    if c = '0' then
      let more ← takeChars isOctal 2
      return .code (valueIn 8 (c :: more))
    else if c.isDigit then digitEscape options c
    else return .code (← commonEscape c)

end QueryTemplates.Pattern
