import EventHub.Decimal.Shortest

/-!
Double precision numbers by their bits: sign, eleven bits of exponent, fifty-two of fraction.
The bits are the value, so equality is decidable and tells the two zeros apart; arithmetic is
the machine's.
-/

namespace EventHub.Decimal

structure Double where
  bits : UInt64
  deriving DecidableEq, Inhabited

namespace Double

def ofFloat (value : Float) : Double :=
  ⟨value.toBits⟩

def toFloat (value : Double) : Float :=
  Float.ofBits value.bits

def isNegative (value : Double) : Bool :=
  value.bits.toNat / 0x8000000000000000 == 1

def biasedExponent (value : Double) : Nat :=
  value.bits.toNat / 0x10000000000000 % 2048

def fraction (value : Double) : Nat :=
  value.bits.toNat % 0x10000000000000

def isFinite (value : Double) : Bool :=
  value.biasedExponent ≠ 2047

def isNaN (value : Double) : Bool :=
  value.biasedExponent == 2047 && value.fraction != 0

def isZero (value : Double) : Bool :=
  value.biasedExponent == 0 && value.fraction == 0

/-- The magnitude of a finite double is `mantissa × 2 ^ power`. -/
def mantissa (value : Double) : Nat :=
  if value.biasedExponent = 0 then value.fraction else 0x10000000000000 + value.fraction

def power (value : Double) : Int :=
  if value.biasedExponent = 0 then -1074 else (value.biasedExponent : Int) - 1075

/-- The shortest decimal of the magnitude of a finite double other than zero. -/
def magnitude (value : Double) : Decimal :=
  shortest value.mantissa value.power (value.fraction == 0 && 1 < value.biasedExponent)

def negate (value : Double) : Double :=
  ⟨value.bits ^^^ 0x8000000000000000⟩

/-- The double nearest to a natural number below `2 ^ 64`. -/
def ofUInt64 (value : UInt64) : Double :=
  ofFloat value.toFloat

/-- The double nearest to `digits × 10 ^ exponent`. -/
def ofDecimal (digits : Nat) (exponent : Int) : Double :=
  if exponent < 0 then ofFloat (Float.ofScientific digits true exponent.natAbs)
  else ofFloat (Float.ofScientific digits false exponent.natAbs)

end Double

end EventHub.Decimal
