/-!
The shortest decimal that reads back as a given binary floating point number. The reals that
round to the number form an interval around it; on the coarsest decimal grid with a point in
that interval the point nearest to the number is taken, a tie going to the even digit.
-/

namespace EventHub

structure Decimal where
  digits : Nat
  exponent : Int
  deriving DecidableEq, Repr

namespace Decimal

/-- A positive number `numerator / denominator` and the ends of its rounding interval over the
same denominator. -/
structure Target where
  value : Nat
  low : Nat
  high : Nat
  denominator : Nat
  closed : Bool

/-- The interval of `mantissa × 2 ^ power`; below a power of two its lower half is `narrow`. -/
def Target.ofBinary (mantissa : Nat) (power : Int) (narrow : Bool) : Target :=
  let up := Nat.pow 2 power.toNat
  { value := 4 * mantissa * up
    low := (4 * mantissa - (if narrow then 1 else 2)) * up
    high := (4 * mantissa + 2) * up
    denominator := 4 * Nat.pow 2 (-power).toNat
    closed := mantissa % 2 == 0 }

def Target.holds (target : Target) (count : Nat) (exponent : Int) : Bool :=
  let point := count * Nat.pow 10 exponent.toNat * target.denominator
  let scale := Nat.pow 10 (-exponent).toNat
  if target.closed then target.low * scale ≤ point && point ≤ target.high * scale
  else target.low * scale < point && point < target.high * scale

def Target.floor (target : Target) (exponent : Int) : Nat :=
  target.value * Nat.pow 10 (-exponent).toNat / (target.denominator * Nat.pow 10 exponent.toNat)

/-- The nearer of two neighbouring grid points, the even one on a tie. -/
def Target.nearer (target : Target) (exponent : Int) (count : Nat) : Nat :=
  let doubled := 2 * target.value * Nat.pow 10 (-exponent).toNat
  let middle := (2 * count + 1) * (target.denominator * Nat.pow 10 exponent.toNat)
  if doubled < middle then count
  else if middle < doubled then count + 1
  else if count % 2 == 0 then count else count + 1

/-- The best point of one grid, if any lies in the interval. -/
def Target.onGrid (target : Target) (exponent : Int) : Option Nat :=
  let below := target.floor exponent
  match target.holds below exponent && below != 0, target.holds (below + 1) exponent with
  | true, true => some (target.nearer exponent below)
  | true, false => some below
  | false, true => some (below + 1)
  | false, false => none

/-- Tries `fuel` ever finer grids, starting at `exponent`. -/
def Target.search (target : Target) : Nat → Int → Decimal
  | 0, exponent => { digits := target.floor exponent, exponent }
  | fuel + 1, exponent =>
      match target.onGrid exponent with
      | some digits => { digits, exponent }
      | none => target.search fuel (exponent - 1)

def strip : Nat → Decimal → Decimal
  | 0, decimal => decimal
  | fuel + 1, decimal =>
      if decimal.digits ≠ 0 ∧ decimal.digits % 10 = 0 then
        strip fuel { digits := decimal.digits / 10, exponent := decimal.exponent + 1 }
      else decimal

def decimalLength (value : Nat) : Nat :=
  (Nat.toDigits 10 value).length

/-- An exponent whose grid is at least as coarse as the number is large. -/
def Target.coarsest (target : Target) : Int :=
  (decimalLength target.value : Int) - (decimalLength target.denominator : Int) + 1

def shortest (mantissa : Nat) (power : Int) (narrow : Bool) : Decimal :=
  let target := Target.ofBinary mantissa power narrow
  (target.search 30 target.coarsest).strip 400

end Decimal

end EventHub
