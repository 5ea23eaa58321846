import QueryTemplates.Text.Basic

/-! # Decimal numerals

Natural numbers are written with ASCII digits and without leading zeros; a reading accepts any run of
ASCII digits.
-/

namespace QueryTemplates.Numeral

/-- The character of a digit. -/
def digit (n : Nat) : Char := Char.ofNat (0x30 + n % 10)

/-- The value of a digit character. -/
def digitValue (c : Char) : Nat := c.toNat - 0x30

/-- The decimal digits of a number. -/
def ofNat (n : Nat) : Text :=
  if n < 10 then [digit n] else ofNat (n / 10) ++ [digit n]
termination_by n

/-- The decimal digits of an integer, after its sign. -/
def ofInt : Int → Text
  | .ofNat n => ofNat n
  | .negSucc n => '-' :: ofNat (n + 1)

/-- The value of a text read as decimal digits. -/
def value (digits : Text) : Nat := digits.foldl (fun n c => 10 * n + digitValue c) 0

/-- One or more ASCII digits and nothing else. -/
def isDigits (text : Text) : Bool := !text.isEmpty && text.all Char.isDigit

/-- The digits of a number, with zeros in front up to a least width. -/
def padded (width n : Nat) : Text :=
  let digits := ofNat n
  List.replicate (width - digits.length) '0' ++ digits

/-- The character of a hexadecimal digit. -/
def hexDigit (n : Nat) : Char :=
  if n % 16 < 10 then Char.ofNat (0x30 + n % 16) else Char.ofNat (0x57 + n % 16)

/-- The last `width` hexadecimal digits of a number, in lower case. -/
def hex : (width n : Nat) → Text
  | 0, _ => []
  | width + 1, n => hex width (n / 16) ++ [hexDigit n]

/-- The value of a hexadecimal digit. -/
def hexValue? (c : Char) : Option Nat :=
  if c.isDigit then some (c.toNat - 0x30)
  else if 'a' ≤ c ∧ c ≤ 'f' then some (c.toNat - 0x57)
  else if 'A' ≤ c ∧ c ≤ 'F' then some (c.toNat - 0x37)
  else none

/-- The longest decimal numeral that is converted, in digits. -/
def digitLimit : Nat := 4300

/-- The numeral of an integer, unless it has more digits than are converted. -/
def ofInt? (i : Int) : Option Text :=
  let numeral := ofNat i.natAbs
  if numeral.length ≤ digitLimit then some (if i < 0 then '-' :: numeral else numeral) else none

/-- The message for an integer that has too many digits to be written. -/
def tooLongToWrite : String :=
  "Exceeds the limit (4300 digits) for integer string conversion; " ++
    "use sys.set_int_max_str_digits() to increase the limit"

/-- The message for a numeral that has too many digits to be read. -/
def tooLongToRead (digits : Nat) : String :=
  "Exceeds the limit (4300 digits) for integer string conversion: value has " ++ toString digits ++
    " digits; use sys.set_int_max_str_digits() to increase the limit"

end QueryTemplates.Numeral
