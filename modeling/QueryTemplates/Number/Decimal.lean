import QueryTemplates.Number.Scientific

/-! # Decimal arithmetic numbers

The numbers of the general decimal arithmetic: finite ones keep their trailing zeros, and there are
infinities and two kinds of not-a-number with a payload. The text of a number is its scientific string:
plain notation where the exponent is not positive and the number is not too small, else a coefficient with
one digit before the point.
-/

namespace QueryTemplates

/-- A number of the general decimal arithmetic. A payload of zero is none. -/
inductive Decimal
  | finite (value : Scientific)
  | infinite (negative : Bool)
  | nan (negative signaling : Bool) (payload : Nat)
deriving DecidableEq

namespace Decimal

/-- The text in front of a number that is negative. -/
def signText (negative : Bool) : Text := if negative then ['-'] else []

/-- The digits of a coefficient with the point after `whole` of them, where there may be fewer digits. -/
def pointed (digits : Text) (whole : Int) : Text :=
  if whole ≤ 0 then "0.".toList ++ List.replicate (-whole).toNat '0' ++ digits
  else digits.take whole.toNat ++ '.' :: digits.drop whole.toNat

/-- The digits of a coefficient with one of them before the point, if there are more. -/
def leadingPointed : Text → Text
  | [] => []
  | [digit] => [digit]
  | digit :: digits => digit :: '.' :: digits

/-- An exponent after its sign, which is always written. -/
def signedExponent (exponent : Int) : Text :=
  (if exponent < 0 then '-' else '+') :: Numeral.ofNat exponent.natAbs

/-- The least exponent of the first digit in plain notation. -/
def leastPlainExponent : Int := -6

/-- The text of a finite number. -/
def finiteText (value : Scientific) : Text :=
  let digits := Numeral.ofNat value.coefficient
  let adjusted := value.exponent + digits.length - 1
  signText value.negative ++
    if value.exponent = 0 then digits
    else if value.exponent < 0 ∧ leastPlainExponent ≤ adjusted then
      pointed digits (digits.length + value.exponent)
    else leadingPointed digits ++ 'E' :: signedExponent adjusted

/-- The text of a number. -/
def text : Decimal → Text
  | .finite value => finiteText value
  | .infinite negative => signText negative ++ "Infinity".toList
  | .nan negative signaling payload =>
    signText negative ++ (if signaling then "sNaN".toList else "NaN".toList) ++
      if payload = 0 then [] else Numeral.ofNat payload

/-- A number from its text; letter case does not matter, and low lines set digits apart. -/
def ofText? (text : Text) : Option Decimal :=
  let text := Text.lowerAscii (text.trim.filter (· != '_'))
  let (negative, body) := Scientific.sign text
  if body = "inf".toList ∨ body = "infinity".toList then some (.infinite negative)
  else
    let nan? (signaling : Bool) (payload : Text) : Option Decimal :=
      if payload.all Char.isDigit then some (.nan negative signaling (Numeral.value payload)) else none
    match Text.dropStart? "nan".toList body, Text.dropStart? "snan".toList body with
    | some payload, _ => nan? false payload
    | none, some payload => nan? true payload
    | none, none => (Scientific.ofText? text).map .finite

end Decimal

end QueryTemplates
