import EventHub.Decimal.Double

/-!
Writing finite doubles. A style says which decimal stands for a double, which decimal exponents
are written positionally and how the rest of the form looks.
-/

namespace EventHub.Decimal

structure Style where
  /-- The decimal of the magnitude of a finite double other than zero. -/
  decimal : Double → Decimal := Double.magnitude
  /-- Exponents of the leading digit are written positionally from here on. -/
  positionalFrom : Option Int
  /-- Exponents are written positionally as long as they stay below this one. -/
  positionalBelow : Option Int
  /-- Integral numbers end in `.0`. -/
  marksIntegral : Bool
  signsExponent : Bool

def digitsOf (value : Nat) : List Char :=
  Nat.toDigits 10 value

def zeros (count : Nat) : List Char :=
  List.replicate count '0'

namespace Style

def isPositional (style : Style) (leading : Int) : Bool :=
  style.positionalFrom.all (fun bound => bound ≤ leading) &&
    style.positionalBelow.all fun bound => leading < bound

def integralEnd (style : Style) : List Char :=
  if style.marksIntegral then ['.', '0'] else []

def positional (style : Style) (digits : List Char) (exponent : Int) : List Char :=
  if 0 ≤ exponent then digits ++ zeros exponent.toNat ++ style.integralEnd
  else
    let places := exponent.natAbs
    if places < digits.length then
      digits.take (digits.length - places) ++ '.' :: digits.drop (digits.length - places)
    else '0' :: '.' :: zeros (places - digits.length) ++ digits

def scientific (style : Style) (digits : List Char) (exponent : Int) : List Char :=
  let mantissa :=
    match digits with
    | [] => []
    | [digit] => [digit]
    | digit :: rest => digit :: '.' :: rest
  let sign := if exponent < 0 then ['-'] else if style.signsExponent then ['+'] else []
  mantissa ++ 'e' :: sign ++ digitsOf exponent.natAbs

def magnitude (style : Style) (value : Double) : List Char :=
  if value.isZero then '0' :: style.integralEnd
  else
    let decimal := style.decimal value
    let digits := digitsOf decimal.digits
    let leading : Int := decimal.exponent + digits.length - 1
    if style.isPositional leading then style.positional digits decimal.exponent
    else style.scientific digits leading

def chars (style : Style) (value : Double) : List Char :=
  if value.isNegative then '-' :: style.magnitude value else style.magnitude value

/-- A double that is no finite number has a name. -/
def text (style : Style) (value : Double) : String :=
  if value.isNaN then "NaN"
  else if value.isFinite then String.ofList (style.chars value)
  else if value.isNegative then "-inf"
  else "inf"

end Style

end EventHub.Decimal
