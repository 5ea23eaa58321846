import QueryTemplates.Dictionary
import QueryTemplates.Json.Document
import QueryTemplates.Json.Error

/-! # Reading JSON

A document is read from a text, with the three number words `NaN`, `Infinity` and `-Infinity`. A number with
a point or an exponent is a float, any other an integer. Of fields with the same name the last one counts, in the
place of the first. What comes first in the text is found wrong first.
-/

namespace QueryTemplates.Json

/-- A place in the text: how many characters lie before it, and the text from there on. -/
structure Place where
  position : Nat
  rest : Text

namespace Place

/-- The place a number of characters later. -/
def skip (place : Place) (count : Nat) : Place :=
  ⟨place.position + count, place.rest.drop count⟩

/-- The white space of JSON. -/
def isSpace (c : Char) : Bool := c == ' ' || c == '\t' || c == '\n' || c == '\r'

/-- The next place without white space. -/
def skipSpace (place : Place) : Place := place.skip (place.rest.takeWhile isSpace).length

/-- The failure that the place is wrong. -/
def fail {α : Type} (place : Place) (problem : Problem) : Except Failure α :=
  .error (.problem problem place.position)

end Place

/-! ## Strings -/

/-- The character of a short escape. -/
def shortEscape? : Char → Option Char
  | '"' => some '"'
  | '\\' => some '\\'
  | '/' => some '/'
  | 'b' => some '\x08'
  | 'f' => some '\x0c'
  | 'n' => some '\n'
  | 'r' => some '\r'
  | 't' => some '\t'
  | _ => none

/-- The code of four hexadecimal digits. -/
def code? (a b c d : Char) : Option Nat := do
  return (((← Numeral.hexValue? a) * 16 + (← Numeral.hexValue? b)) * 16 +
    (← Numeral.hexValue? c)) * 16 + (← Numeral.hexValue? d)

/-- The codes of a string up to its closing quote, and the place after it. `opening` is the position of
the opening quote, and `done` holds the codes read so far, the last one first. An escape by code takes four
digits, and more text has to follow. -/
def readCodes (opening position : Nat) (done : List Nat) : Text → Except Failure (Codes × Place)
  | [] => .error (.problem .openString opening)
  | '"' :: rest => .ok (Codes.paired done.reverse, ⟨position + 1, rest⟩)
  | ['\\'] => .error (.problem .openString opening)
  | '\\' :: 'u' :: a :: b :: c :: d :: e :: rest =>
    match code? a b c d with
    | none => .error (.problem .badCodeEscape (position + 1))
    | some code => readCodes opening (position + 6) (code :: done) (e :: rest)
  | '\\' :: c :: rest =>
    if c = 'u' then .error (.problem .badCodeEscape (position + 1))
    else match shortEscape? c with
      | none => .error (.problem .badEscape position)
      | some escaped => readCodes opening (position + 2) (escaped.toNat :: done) rest
  | c :: rest =>
    if c.toNat < 0x20 then .error (.problem .controlCharacter position)
    else readCodes opening (position + 1) (c.toNat :: done) rest

/-- A string, whose opening quote is at the place. -/
def readString (place : Place) : Except Failure (Codes × Place) :=
  readCodes place.position (place.position + 1) [] (place.rest.drop 1)

/-! ## Numbers and words -/

/-- The digits of an integer: a zero, or digits that start with another one. -/
def wholeDigits : Text → Text
  | [] => []
  | c :: rest => if c = '0' then [c] else (c :: rest).takeWhile Char.isDigit

/-- A fraction: a point with digits after it, or nothing. -/
def fractionPart : Text → Text
  | '.' :: rest =>
    match rest.takeWhile Char.isDigit with
    | [] => []
    | digits => '.' :: digits
  | _ => []

/-- An exponent: the letter, perhaps a sign, and digits, or nothing. -/
def exponentPart : Text → Text
  | [] => []
  | letter :: rest =>
    if letter = 'e' ∨ letter = 'E' then
      let sign := match rest with
        | '-' :: _ => ['-']
        | '+' :: _ => ['+']
        | _ => []
      match (rest.drop sign.length).takeWhile Char.isDigit with
      | [] => []
      | digits => letter :: sign ++ digits
    else []

/-- A number. -/
def readNumber (place : Place) : Except Failure (Document × Place) :=
  let sign := place.rest.takeWhile (· == '-') |>.take 1
  let whole := wholeDigits (place.rest.drop sign.length)
  if whole.isEmpty then place.fail .noValue
  else
    let length := sign.length + whole.length
    let fraction := fractionPart (place.rest.drop length)
    let exponent := exponentPart (place.rest.drop (length + fraction.length))
    let after := place.skip (length + fraction.length + exponent.length)
    if fraction.isEmpty && exponent.isEmpty then
      if Numeral.digitLimit < whole.length then .error (.longNumeral whole.length)
      else
        let value : Int := Numeral.value whole
        .ok (.int (if sign.isEmpty then value else -value), after)
    else
      match Binary64.ofText? (sign ++ whole ++ fraction ++ exponent) with
      | some value => .ok (.float value, after)
      | none => place.fail .noValue

/-- The words, with what they mean. -/
def words : List (Text × Document) := [
  ("null".toList, .null), ("true".toList, .bool true), ("false".toList, .bool false),
  ("NaN".toList, .float .nan), ("Infinity".toList, .float (.infinite false)),
  ("-Infinity".toList, .float (.infinite true))]

/-- A word or a number. -/
def readScalar (place : Place) : Except Failure (Document × Place) :=
  match words.find? fun (word, _) => word.isPrefixOf place.rest with
  | some (word, document) => .ok (document, place.skip word.length)
  | none => readNumber place

/-! ## Documents -/

mutual

/-- A document. The fuel bounds the nesting and the number of members. -/
def readDocument : (fuel : Nat) → Place → Except Failure (Document × Place)
  | 0, place => place.fail .noValue
  | fuel + 1, place =>
    match place.rest with
    | '"' :: _ => (readString place).map fun (codes, after) => (.string codes, after)
    | '[' :: _ =>
      let first := (place.skip 1).skipSpace
      match first.rest with
      | ']' :: _ => .ok (.list [], first.skip 1)
      | _ => readMembers fuel [] first
    | '\x7b' :: _ =>
      let first := (place.skip 1).skipSpace
      match first.rest with
      | '\x7d' :: _ => .ok (.record [], first.skip 1)
      | _ => readFields fuel [] first
    | _ => readScalar place

/-- The members of a list, from one of them on; `done` holds the earlier ones, the last one first. -/
def readMembers : (fuel : Nat) → (done : List Document) → Place → Except Failure (Document × Place)
  | 0, _, place => place.fail .noValue
  | fuel + 1, done, place =>
    match readDocument fuel place with
    | .error failure => .error failure
    | .ok (document, after) =>
      let next := after.skipSpace
      match next.rest with
      | ']' :: _ => .ok (.list (document :: done).reverse, next.skip 1)
      | ',' :: _ => readMembers fuel (document :: done) (next.skip 1).skipSpace
      | _ => next.fail .noComma

/-- The fields of a record, from one of them on. -/
def readFields :
    (fuel : Nat) → (done : List (Codes × Document)) → Place → Except Failure (Document × Place)
  | 0, _, place => place.fail .noValue
  | fuel + 1, done, place =>
    match place.rest with
    | '"' :: _ =>
      match readString place with
      | .error failure => .error failure
      | .ok (name, after) =>
        let colon := after.skipSpace
        match colon.rest with
        | ':' :: _ =>
          match readDocument fuel (colon.skip 1).skipSpace with
          | .error failure => .error failure
          | .ok (document, after) =>
            let fields := Dictionary.putEntry name document done
            let next := after.skipSpace
            match next.rest with
            | '\x7d' :: _ => .ok (.record fields, next.skip 1)
            | ',' :: _ => readFields fuel fields (next.skip 1).skipSpace
            | _ => next.fail .noComma
        | _ => colon.fail .noColon
    | _ => place.fail .noName

end

/-- The document that a text describes. -/
def readText (text : Text) : Except Failure Document :=
  match readDocument (2 * text.length + 2) (Place.mk 0 text).skipSpace with
  | .error failure => .error failure
  | .ok (document, after) =>
    let rest := after.skipSpace
    if rest.rest.isEmpty then .ok document else rest.fail .extraData

/-- The document that a text describes, which may not begin with a byte order mark. -/
def read : Text → Except Failure Document
  | '\uFEFF' :: _ => .error (.problem .byteOrderMark 0)
  | text => readText text

end QueryTemplates.Json
