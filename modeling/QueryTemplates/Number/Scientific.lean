import QueryTemplates.Text.Numeral

/-! # Decimal numbers with an exponent

A sign, a coefficient and a power of ten, read from the usual notation: digits with an optional point,
then an optional exponent.
-/

namespace QueryTemplates

/-- The number `coefficient · 10 ^ exponent`, with its sign. -/
structure Scientific where
  negative : Bool
  coefficient : Nat
  exponent : Int
deriving DecidableEq

namespace Scientific

/-- Splits a sign off. -/
def sign : Text → Bool × Text
  | '-' :: rest => (true, rest)
  | '+' :: rest => (false, rest)
  | text => (false, text)

/-- An integer of decimal digits after an optional sign. -/
def exponent? (text : Text) : Option Int :=
  let (negative, digits) := sign text
  if Numeral.isDigits digits then
    some (if negative then -(Numeral.value digits : Int) else Numeral.value digits)
  else none

/-- A number in the usual notation. -/
def ofText? (text : Text) : Option Scientific := do
  let (negative, text) := sign text
  let whole := text.takeWhile Char.isDigit
  let rest := text.drop whole.length
  let (fraction, rest) := match rest with
    | '.' :: rest => (rest.takeWhile Char.isDigit, rest.dropWhile Char.isDigit)
    | rest => ([], rest)
  if whole.isEmpty && fraction.isEmpty then none
  else
    let exponent ← match rest with
      | [] => some 0
      | c :: rest => if c = 'e' || c = 'E' then exponent? rest else none
    return ⟨negative, Numeral.value (whole ++ fraction), exponent - fraction.length⟩

end Scientific

/-- A natural number without its trailing zeros, and how many those are, added to `zeros`. -/
def stripZeros (n : Nat) (zeros : Nat) : Nat × Nat :=
  if h : n ≠ 0 ∧ n % 10 = 0 then stripZeros (n / 10) (zeros + 1) else (n, zeros)
termination_by n
decreasing_by omega

end QueryTemplates
