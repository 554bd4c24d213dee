import EventHub.Decimal.Double

/-!
Decimals of doubles found with words of 64 bits (Grisu2). The double and the two ends of its
rounding interval are scaled by a power of ten that is itself rounded, and the interval is
narrowed by a unit at both ends to make up for that. So the digits read back as the double, and
are nearly always, but not always, the fewest and the nearest ones.
-/

namespace EventHub.Decimal

/-- The number `significand × 2 ^ power`. -/
structure Word where
  significand : Nat
  power : Int

namespace Word

def normal (word : Word) : Word :=
  let shift := 63 - Nat.log2 word.significand
  { significand := word.significand * Nat.pow 2 shift, power := word.power - shift }

def withPower (power : Int) (word : Word) : Word :=
  { significand := word.significand * Nat.pow 2 (word.power - power).toNat, power }

def times (left right : Word) : Word where
  significand := (left.significand * right.significand + Nat.pow 2 63) / Nat.pow 2 64
  power := left.power + right.power + 64

def powerOfTen (exponent : Int) : Word :=
  let ten := Nat.pow 10 exponent.natAbs
  let length := Nat.log2 ten
  if exponent < 0 then
    { significand := (Nat.pow 2 (65 + length) + ten) / (2 * ten), power := -(64 + length : Int) }
  else if length < 64 then normal { significand := ten, power := 0 }
  else
    let shift := length - 63
    { significand := (ten + Nat.pow 2 (shift - 1)) / Nat.pow 2 shift, power := shift }

end Word

/-- The power of ten that scales words of a binary power to between `2 ^ -60` and `2 ^ -32`; every
eighth power from -348 on is at hand. -/
def scalingExponent (power : Int) : Int :=
  let digits : Int := 347 - (61 + power) * 30102999566398114 / 100000000000000000
  8 * (digits / 8 + 1) - 348

/-- Upper end of an interval, its width, and how far the number is below that end, all in parts
of `one`. -/
structure Window where
  high : Nat
  width : Nat
  distance : Nat
  one : Nat

namespace Window

/-- Lowers the last digit while that brings the digits nearer to the number. `rest` is what they
leave of the upper end, in which the last digit counts `unit`. -/
def approach (width distance unit : Nat) : Nat → Nat → Nat → Nat
  | 0, _, digits => digits
  | fuel + 1, rest, digits =>
      if rest < distance && unit ≤ width - rest &&
          (rest + unit < distance || rest + unit - distance < distance - rest) then
        approach width distance unit fuel (rest + unit) (digits - 1)
      else digits

/-- Behind this many places the digits are left as they are. -/
def roundedPlaces : Nat := 8

def digitsAt? (window : Window) (exponent : Int) : Option Nat :=
  if 0 ≤ exponent then
    let unit := Nat.pow 10 exponent.toNat * window.one
    let rest := window.high % unit
    if rest ≤ window.width then
      some (approach window.width window.distance unit 9 rest (window.high / unit))
    else none
  else
    let places := exponent.natAbs
    let scale := Nat.pow 10 places
    let high := window.high * scale
    let width := window.width * scale
    let distance := if places ≤ roundedPlaces then window.distance * scale else 0
    let rest := high % window.one
    if rest < width then some (approach width distance window.one 9 rest (high / window.one))
    else none

/-- The first place, from `exponent` down, to which the digits can be cut. -/
def cut (window : Window) : Nat → Int → Decimal
  | 0, exponent => { digits := window.high / window.one, exponent }
  | fuel + 1, exponent =>
      match window.digitsAt? exponent with
      | some digits => { digits, exponent }
      | none => window.cut fuel (exponent - 1)

end Window

/-- A decimal of the magnitude of a finite double other than zero. -/
def grisu (value : Double) : Decimal :=
  let mantissa := value.mantissa
  let power := value.power
  let upper := Word.normal { significand := 2 * mantissa + 1, power := power - 1 }
  let lower : Word :=
    if value.fraction = 0 ∧ value.biasedExponent ≠ 0 then
      { significand := 4 * mantissa - 1, power := power - 2 }
    else { significand := 2 * mantissa - 1, power := power - 1 }
  let exponent := scalingExponent upper.power
  let scale (word : Word) : Word := word.times (Word.powerOfTen exponent)
  let high := scale upper
  let low := scale (lower.withPower upper.power)
  let middle := scale (Word.normal { significand := mantissa, power })
  let window : Window :=
    { high := high.significand - 1
      width := high.significand - low.significand - 2
      distance := high.significand - 1 - middle.significand
      one := Nat.pow 2 (-high.power).toNat }
  let places := (Nat.toDigits 10 (window.high / window.one)).length
  let decimal := window.cut 40 (places - 1)
  { decimal with exponent := decimal.exponent - exponent }

end EventHub.Decimal
