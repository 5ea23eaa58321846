import QueryTemplates.Number.Scientific

/-! # Binary floating-point numbers

The numbers of the 64-bit binary format as exact integers: a finite one is `mantissa · 2 ^ exponent` with
a mantissa below `2 ^ 53`, and at least `2 ^ 52` unless the exponent is the least one. A decimal number is
read as the nearest of them, the even mantissa in a tie. The text of a number is the shortest one that
reads back as the same number.
-/

namespace QueryTemplates

/-- A binary floating-point number. -/
inductive Binary64
  | nan
  | infinite (negative : Bool)
  | finite (negative : Bool) (mantissa : Nat) (exponent : Int)
deriving DecidableEq

namespace Binary64

/-- The least and the largest exponent. -/
def leastExponent : Int := -1074
def largestExponent : Int := 971

/-- The least mantissa of 53 bits, `2 ^ 52`. -/
def leastNormal : Nat := Nat.pow 2 52

/-- Zero. -/
def zero (negative : Bool) : Binary64 := .finite negative 0 leastExponent

/-- The quotient rounded to the nearest integer, to the even one in a tie. -/
def roundedQuotient (numerator denominator : Nat) : Nat :=
  let quotient := numerator / denominator
  let rest := 2 * (numerator % denominator)
  if rest < denominator ∨ (rest = denominator ∧ quotient % 2 = 0) then quotient else quotient + 1

/-- The exponent at which the quotient of two positive numbers has a mantissa of 53 bits. -/
def normalExponent (numerator denominator : Nat) : Int :=
  let bits : Int := (numerator.log2 : Int) - denominator.log2
  let below := if 0 ≤ bits then numerator < denominator * Nat.pow 2 bits.toNat
    else numerator * Nat.pow 2 (-bits).toNat < denominator
  if below then bits - 53 else bits - 52

/-- The number nearest to the quotient of two positive numbers. -/
def ofQuotient (negative : Bool) (numerator denominator : Nat) : Binary64 :=
  let exponent := max (normalExponent numerator denominator) leastExponent
  let mantissa :=
    if 0 ≤ exponent then roundedQuotient numerator (denominator * Nat.pow 2 exponent.toNat)
    else roundedQuotient (numerator * Nat.pow 2 (-exponent).toNat) denominator
  let (mantissa, exponent) :=
    if mantissa = 2 * leastNormal then (leastNormal, exponent + 1) else (mantissa, exponent)
  if largestExponent < exponent then .infinite negative else .finite negative mantissa exponent

/-- Decimal exponents of the first digit beyond which every number is infinite, or zero. -/
def decimalExponentBound : Int := 400

/-- The number nearest to a decimal number. -/
def ofScientific (value : Scientific) : Binary64 :=
  if value.coefficient = 0 then zero value.negative
  else
    let first := value.exponent + (Numeral.ofNat value.coefficient).length
    if decimalExponentBound < first then .infinite value.negative
    else if first < -decimalExponentBound then zero value.negative
    else if 0 ≤ value.exponent then
      ofQuotient value.negative (value.coefficient * Nat.pow 10 value.exponent.toNat) 1
    else ofQuotient value.negative value.coefficient (Nat.pow 10 (-value.exponent).toNat)

/-- A number from its text. -/
def ofText? (text : Text) : Option Binary64 :=
  let (negative, body) := Scientific.sign text.lowerAscii
  if body = "nan".toList then some .nan
  else if body = "inf".toList ∨ body = "infinity".toList then some (.infinite negative)
  else (Scientific.ofText? text).map ofScientific

/-! ## Shortest digits -/

/-- The integers, in units of a power of ten, between which every number reads as a given one, that number
itself, and whether the bounds belong to it. -/
structure Neighbourhood where
  low : Nat
  value : Nat
  high : Nat
  inclusive : Bool

/-- The neighbourhood of `mantissa · 2 ^ exponent`, and the power of ten of its unit. -/
def neighbourhood (mantissa : Nat) (exponent : Int) : Neighbourhood × Int :=
  let lower :=
    if mantissa = leastNormal ∧ leastExponent < exponent then 4 * mantissa - 1 else 4 * mantissa - 2
  let scaled (factor : Nat) : Neighbourhood :=
    ⟨lower * factor, 4 * mantissa * factor, (4 * mantissa + 2) * factor, mantissa % 2 = 0⟩
  let quarter := exponent - 2
  if 0 ≤ quarter then (scaled (Nat.pow 2 quarter.toNat), 0)
  else (scaled (Nat.pow 5 (-quarter).toNat), quarter)

/-- The candidate reads as the value. -/
def Neighbourhood.contains (place : Neighbourhood) (candidate : Nat) : Bool :=
  if place.inclusive then place.low ≤ candidate && candidate ≤ place.high
  else place.low < candidate && candidate < place.high

/-- The multiple of `unit` that reads as the value: the nearer one of the two next to it, in a tie the one
with the even last digit. -/
def Neighbourhood.onGrid? (place : Neighbourhood) (unit : Nat) : Option Nat :=
  let digit := place.value / unit
  let below := digit * unit
  let above := below + unit
  match place.contains below, place.contains above with
  | false, false => none
  | true, false => some below
  | false, true => some above
  | true, true =>
    let first := place.value - below
    let second := above - place.value
    if first < second ∨ (first = second ∧ digit % 2 = 0) then some below else some above

/-- The candidate with the fewest digits, at least `count` of them, on the grids from there on. -/
def Neighbourhood.fewest (place : Neighbourhood) (length : Nat) : (grids count : Nat) → Nat
  | 0, _ => place.value
  | grids + 1, count =>
    match place.onGrid? (Nat.pow 10 (length - count)) with
    | some candidate => candidate
    | none => place.fewest length grids (count + 1)

/-- The largest number of digits that is ever needed. -/
def mostDigits : Nat := 17

/-- The shortest decimal number that reads as `mantissa · 2 ^ exponent`: its digits, without trailing
zeros, and the power of ten of the last one. -/
def shortest (mantissa : Nat) (exponent : Int) : Text × Int :=
  let (place, power) := neighbourhood mantissa exponent
  let candidate := place.fewest (Numeral.ofNat place.value).length mostDigits 1
  let (digits, zeros) := stripZeros candidate 0
  (Numeral.ofNat digits, power + zeros)

/-! ## Text -/

/-- How numbers are written: the decimal exponents of the first digit between which there is no exponent
in the text, and the least number of digits of an exponent. -/
structure Layout where
  leastPlain : Int
  largestPlain : Int
  exponentDigits : Nat

/-- Exponents are written below −4 and above 15, with a sign and at least two digits. -/
def layout : Layout := ⟨-4, 15, 2⟩

/-- Digits in plain notation, always with a point, where the last one stands for a power of ten. -/
def plainText (digits : Text) (power : Int) : Text :=
  let whole := digits.length + power
  if 0 ≤ power then digits ++ List.replicate power.toNat '0' ++ ".0".toList
  else if 0 < whole then digits.take whole.toNat ++ '.' :: digits.drop whole.toNat
  else "0.".toList ++ List.replicate (-whole).toNat '0' ++ digits

/-- Digits with an exponent, and a point after the first digit if there are more. -/
def exponentText (layout : Layout) (digits : Text) (exponent : Int) : Text :=
  let leading := match digits with
    | [] | [_] => digits
    | first :: rest => first :: '.' :: rest
  leading ++ 'e' :: (if exponent < 0 then '-' else '+') ::
    Numeral.padded layout.exponentDigits exponent.natAbs

/-- The text of `mantissa · 2 ^ exponent`. -/
def magnitudeText (mantissa : Nat) (exponent : Int) : Text :=
  if mantissa = 0 then "0.0".toList
  else
    let (digits, power) := shortest mantissa exponent
    let first := power + digits.length - 1
    if layout.leastPlain ≤ first ∧ first ≤ layout.largestPlain then plainText digits power
    else exponentText layout digits first

/-- The text of a number. -/
def text : Binary64 → Text
  | .nan => "nan".toList
  | .infinite negative => if negative then "-inf".toList else "inf".toList
  | .finite negative mantissa exponent =>
    (if negative then ['-'] else []) ++ magnitudeText mantissa exponent

/-- Neither infinite nor not-a-number. -/
def isFinite : Binary64 → Bool
  | .finite .. => true
  | _ => false

end Binary64

end QueryTemplates
