import EventHub.Decimal.Reader
import EventHub.Text.Digits

/-!
Scalars of YAML. A quoted scalar is always a text; the words of a plain one decide whether it is
a null, a truth value, an integer of 64 bits, a real number or a text.
-/

namespace EventHub.Yaml

inductive Scalar where
  | null
  | bool (value : Bool)
  | integer (value : Int)
  /-- A real number as written. -/
  | real (literal : String)
  | text (value : String)
  deriving DecidableEq

namespace Scalar

def digitsInRadix? (radix : Nat) (digits : List Char) : Option Nat :=
  if digits.isEmpty then none else Text.inRadix? radix digits

def signedInRadix? (radix : Nat) : List Char → Option Int
  | '-' :: digits => (digitsInRadix? radix digits).map fun value => -(value : Int)
  | '+' :: digits => (digitsInRadix? radix digits).map Int.ofNat
  | digits => (digitsInRadix? radix digits).map Int.ofNat

/-- An integer in hexadecimal, octal or decimal digits. -/
def integer? (text : List Char) : Option Int :=
  let marked :=
    match text with
    | '0' :: 'x' :: digits => signedInRadix? 16 digits
    | '0' :: 'o' :: digits => signedInRadix? 8 digits
    | '+' :: signed => Text.integer? signed
    | _ => none
  (marked.filter Text.fitsWord).or ((Text.integer? text).filter Text.fitsWord)

def infinities : List String :=
  [".inf", ".Inf", ".INF", "+.inf", "+.Inf", "+.INF", "-.inf", "-.Inf", "-.INF"]

def notNumbers : List String :=
  [".nan", ".NaN", ".NAN"]

def isReal (text : String) : Bool :=
  infinities.contains text || notNumbers.contains text ||
    (text.toList.any Char.isDigit && (Decimal.Double.ofText? text).isSome)

def ofPlain (text : String) : Scalar :=
  if text = "" ∨ text = "~" ∨ text = "null" then null
  else if ["true", "True", "TRUE"].contains text then bool true
  else if ["false", "False", "FALSE"].contains text then bool false
  else
    match integer? text.toList with
    | some value => integer value
    | none => if isReal text then real text else .text text

/-- A scalar as the key of a mapping. -/
def key? : Scalar → Option String
  | null => none
  | bool value => some (if value then "true" else "false")
  | integer value => some (toString value)
  | real literal => some literal
  | text value => some value

end Scalar

end EventHub.Yaml
