import QueryTemplates.Character.Blank

/-! # Texts

A text is a list of characters, so that what is cut, joined and compared is visible to induction.
Texts that are blank, and texts without the blank characters at their two ends, are defined here.
-/

namespace QueryTemplates

/-- A text: its characters in order. -/
abbrev Text := List Char

namespace Text

/-- The text as a string, for messages. -/
def asString (text : Text) : String := String.ofList text

/-- No character but white space. -/
def isBlank (text : Text) : Bool := text.all Character.isBlank

/-- The text from its first character that is not white space on. -/
def trimStart (text : Text) : Text := text.dropWhile Character.isBlank

/-- The text up to its last character that is not white space. -/
def trimEnd (text : Text) : Text := (trimStart text.reverse).reverse

/-- The text without the white space at its two ends. -/
def trim (text : Text) : Text := trimEnd (trimStart text)

/-- What follows the given start, when the text starts with it. -/
def dropStart? : (start text : Text) → Option Text
  | [], text => some text
  | _ :: _, [] => none
  | s :: start, c :: text => if s = c then dropStart? start text else none

theorem dropStart?_eq_some_iff {start text rest : Text} :
    dropStart? start text = some rest ↔ text = start ++ rest := by
  induction start generalizing text with
  | nil => simp [dropStart?]
  | cons s start ih =>
    cases text with
    | nil => simp [dropStart?]
    | cons c text =>
      by_cases same : s = c
      · simp [dropStart?, same, ih]
      · simp [dropStart?, same, Ne.symm same]

/-- The parts of a text between the occurrences of a character; there is one more part than those. -/
def splitAt (separator : Char) : Text → List Text
  | [] => [[]]
  | c :: rest =>
    let parts := splitAt separator rest
    if c = separator then [] :: parts
    else match parts with
      | [] => [[c]]
      | part :: others => (c :: part) :: others

/-- The number of bytes that a text takes in UTF-8. -/
def byteSize (text : Text) : Nat := text.foldl (fun size c => size + c.utf8Size) 0

/-- The first text does not come after the second in the order by code points: where they differ first, its
character is the lesser one, or it has no more characters. -/
def precedes : (first second : Text) → Bool
  | [], _ => true
  | _ :: _, [] => false
  | c :: first, d :: second => if c = d then precedes first second else decide (c < d)

/-- The texts one after another, with a separator between them. -/
def joinWith (separator : Text) (texts : List Text) : Text := separator.intercalate texts

/-- The text in ASCII lower case; other characters are kept. -/
def lowerAscii (text : Text) : Text := text.map Char.toLower

end Text

end QueryTemplates
