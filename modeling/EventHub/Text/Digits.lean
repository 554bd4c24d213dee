/-! Whole numbers in digits: decimal ones, with a sign or without, and hexadecimal ones. -/

namespace EventHub.Text

def digitValue? (char : Char) : Option Nat :=
  if char.isDigit then some (char.toNat - 48) else none

def digitsValue? (value : Nat) : List Char → Option Nat
  | [] => some value
  | char :: rest => (digitValue? char).bind fun digit => digitsValue? (value * 10 + digit) rest

def digits? (text : List Char) : Option Nat :=
  if text.isEmpty then none else digitsValue? 0 text

def natural? : List Char → Option Nat
  | '+' :: rest => digits? rest
  | text => digits? text

def integer? : List Char → Option Int
  | '-' :: rest => (digits? rest).map fun value => -(value : Int)
  | text => (natural? text).map Int.ofNat

def hexDigit? (char : Char) : Option Nat :=
  if char.isDigit then some (char.toNat - 48)
  else if 'a' ≤ char ∧ char ≤ 'f' then some (char.toNat - 87)
  else if 'A' ≤ char ∧ char ≤ 'F' then some (char.toNat - 55)
  else none

/-- The value of digits in a radix up to sixteen; zero without a digit. -/
def inRadix? (radix : Nat) (digits : List Char) : Option Nat :=
  digits.foldlM
    (fun value char => ((hexDigit? char).filter (· < radix)).map (value * radix + ·)) 0

/-- A signed word of 64 bits holds an integer. -/
def fitsWord (value : Int) : Bool :=
  -0x8000000000000000 ≤ value && value < 0x8000000000000000

end EventHub.Text
