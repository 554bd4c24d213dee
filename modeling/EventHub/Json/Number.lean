import EventHub.Decimal.Style

/-!
Numbers of a JSON text. An integer that fits 64 bits stays an integer; `-0`, larger integers and
every literal with a fraction or an exponent become doubles.

A literal is evaluated with a significand of at most 64 bits, further digits being ignored, which
is then scaled by a power of ten in machine arithmetic. A magnitude past the doubles is no value.
-/

namespace EventHub.Json

open EventHub.Decimal

inductive Number where
  | natural (value : UInt64)
  /-- The integer `-(value + 1)`. -/
  | negSucc (value : Fin 0x8000000000000000)
  | double (value : Double)
  deriving DecidableEq

/-- The parts of a number as written; digits are values below ten, most significant first. -/
structure NumberLiteral where
  negative : Bool
  whole : List Nat
  fraction : List Nat
  exponent : Option (Bool × List Nat)
  deriving DecidableEq

namespace NumberLiteral

/-- Appends digits to a significand while it fits 64 bits; returns the digits left over. -/
def gather (significand : Nat) : List Nat → Nat × List Nat
  | [] => (significand, [])
  | digit :: rest =>
      if significand * 10 + digit < UInt64.size then gather (significand * 10 + digit) rest
      else (significand, digit :: rest)

/-- The digits of an exponent, unless they pass the largest 32-bit integer. -/
def exponentOf (exponent : Nat) : List Nat → Option Nat
  | [] => some exponent
  | digit :: rest =>
      if exponent * 10 + digit < 0x80000000 then exponentOf (exponent * 10 + digit) rest else none

def powerOfTen (exponent : Nat) : Float :=
  Float.ofScientific 1 false exponent

/-- The double `value × 10 ^ exponent`, one rounding for each step; the table of powers ends at
`10 ^ 308`. A third step always starts from zero. -/
def scale : Nat → Float → Int → Option Float
  | 0, value, _ => some value
  | fuel + 1, value, exponent =>
      if exponent.natAbs ≤ 308 then
        if exponent < 0 then some (value / powerOfTen exponent.natAbs)
        else
          let scaled := value * powerOfTen exponent.natAbs
          if scaled.isInf then none else some scaled
      else if value == 0 then some value
      else if 0 ≤ exponent then none
      else scale fuel (value / powerOfTen 308) (exponent + 308)

def signed (negative : Bool) (value : Double) : Number :=
  .double (if negative then value.negate else value)

def integer (negative : Bool) (significand : Nat) : Number :=
  if negative then
    if h : 0 < significand ∧ significand ≤ 0x8000000000000000 then
      .negSucc ⟨significand - 1, by omega⟩
    else .double (Double.ofUInt64 (UInt64.ofNat significand)).negate
  else .natural (UInt64.ofNat significand)

def scaled (negative : Bool) (significand : Nat) (exponent : Int) : Option Number :=
  (scale 4 (UInt64.ofNat significand).toFloat exponent).map fun value =>
    signed negative (Double.ofFloat value)

def value? (literal : NumberLiteral) : Option Number :=
  let (significand, excess) := gather 0 literal.whole
  if literal.fraction = [] ∧ literal.exponent = none ∧ excess = [] then
    some (integer literal.negative significand)
  else
    let (significand, unread) := gather significand literal.fraction
    let start : Int := excess.length - (literal.fraction.length - unread.length : Nat)
    match literal.exponent with
    | none => scaled literal.negative significand start
    | some (down, digits) =>
        match exponentOf 0 digits with
        | some exponent =>
            scaled literal.negative significand
              (if down then start - exponent else start + exponent)
        | none =>
            if significand ≠ 0 ∧ ¬down then none
            else some (signed literal.negative (Double.ofFloat 0))

end NumberLiteral

/-- Doubles are positional while the exponent of their leading digit lies from -5 to 15. -/
def doubleStyle : Style where
  positionalFrom := some (-5)
  positionalBelow := some 16
  marksIntegral := true
  signsExponent := true

def Number.chars : Number → List Char
  | .natural value => digitsOf value.toNat
  | .negSucc value => '-' :: digitsOf (value.val + 1)
  | .double value => doubleStyle.chars value

end EventHub.Json
