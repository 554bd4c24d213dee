import EventHub.Decimal.Style
import EventHub.Text.Ascii

/-!
Reading doubles from text: decimal digits with a point and an exponent or without, or the name of
a special value in any case. The result is the double nearest to what is written.
-/

namespace EventHub.Decimal.Double

def infinity : Double := ⟨0x7FF0000000000000⟩

def notANumber : Double := ⟨0x7FF8000000000000⟩

def special? (text : List Char) : Option Double :=
  let name := Text.lower text
  if name = "inf".toList ∨ name = "infinity".toList then some infinity
  else if name = "nan".toList then some notANumber
  else none

/-- The double nearest to `digits × 10 ^ exponent`; far from the range of doubles the place of the
leading digit decides alone. -/
def nearest (digits : Nat) (exponent : Int) : Double :=
  let leading := exponent + (digitsOf digits).length
  if digits = 0 ∨ leading < -330 then ⟨0⟩
  else if 310 < leading then infinity
  else ofDecimal digits exponent

/-- The digits a text starts with, and the text after them. -/
def leadingDigits (text : List Char) : List Char × List Char :=
  (text.takeWhile Char.isDigit, text.dropWhile Char.isDigit)

def digitsValue (digits : List Char) : Nat :=
  digits.foldl (fun value digit => value * 10 + (digit.toNat - 48)) 0

/-- The exponent that makes up the rest of a number. -/
def exponent? : List Char → Option Int
  | [] => some 0
  | mark :: rest =>
      if mark = 'e' ∨ mark = 'E' then
        let (negative, unsigned) :=
          match rest with
          | '-' :: digits => (true, digits)
          | '+' :: digits => (false, digits)
          | digits => (false, digits)
        match leadingDigits unsigned with
        | ([], _) => none
        | (digits, []) =>
            some (if negative then -(digitsValue digits : Int) else digitsValue digits)
        | (_, _ :: _) => none
      else none

def unsigned? (text : List Char) : Option Double :=
  let (whole, afterWhole) := leadingDigits text
  let (fraction, afterFraction) :=
    match afterWhole with
    | '.' :: rest => leadingDigits rest
    | rest => ([], rest)
  if whole ++ fraction = [] then special? text
  else
    (exponent? afterFraction).map fun exponent =>
      nearest (digitsValue (whole ++ fraction)) (exponent - fraction.length)

def ofText? (text : String) : Option Double :=
  match text.toList with
  | '-' :: rest => (unsigned? rest).map negate
  | '+' :: rest => unsigned? rest
  | chars => unsigned? chars

end EventHub.Decimal.Double
