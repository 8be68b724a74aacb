import Metering.Decimal.Digits

/-!
Exact reading of decimal numbers into binary floating point, and exact decoding back.

A finite float is a whole mantissa times a power of two. `nearestBits?` rounds a fraction
to the nearest such number, a half to the neighbour with an even mantissa, in exact
natural-number arithmetic; it answers `none` when the nearest number would lie beyond the
largest float.
-/

namespace Metering.Decimal

/-- What a float stands for. -/
inductive Magnitude where
  | notANumber
  | infinite
  | finite (mantissa : Nat) (exponent : Int)
deriving DecidableEq, Repr

/-- The bits of a float without its sign. -/
def unsignedBits (x : Float) : Nat :=
  x.toBits.toNat % (1 <<< 63)

def isNegative (x : Float) : Bool :=
  1 <<< 63 ≤ x.toBits.toNat

/-- Reads the exponent field and the fraction field of a float's bits. -/
def magnitude (x : Float) : Magnitude :=
  let field : Nat := unsignedBits x / (1 <<< 52)
  let fraction : Nat := unsignedBits x % (1 <<< 52)
  if field = 2047 then (if fraction = 0 then .infinite else .notANumber)
  else if field = 0 then .finite fraction (-1074)
  else .finite ((1 <<< 52) + fraction) (field - 1075)

/-- The quotient rounded to a whole number, a half to the even neighbour. -/
def roundHalfEven (num den : Nat) : Nat :=
  let whole := num / den
  let twice := 2 * (num % den)
  if twice < den then whole
  else if den < twice then whole + 1
  else whole + whole % 2

/-- The fraction divided by a power of two, as numerator and denominator. -/
def scaleDown (num den : Nat) (exponent : Int) : Nat × Nat :=
  if 0 ≤ exponent then (num, den <<< exponent.toNat) else (num <<< (-exponent).toNat, den)

/-- The least whole number that is not below the float, brought into the range of 64-bit words. The
result of an undefined operation counts as zero. -/
def ceiling (x : Float) : Nat :=
  if isNegative x then 0
  else match magnitude x with
    | .notANumber => 0
    | .infinite => UInt64.size - 1
    | .finite mantissa exponent =>
      let scaled := scaleDown mantissa 1 (-exponent)
      min ((scaled.1 + scaled.2 - 1) / scaled.2) (UInt64.size - 1)

/-- The exponent of the last mantissa bit of the float nearest to the fraction: the
mantissa has 53 bits unless the fraction is too small for that. -/
def lastBit (num den : Nat) : Int :=
  let guess := max ((num.log2 : Int) - den.log2 - 52) (-1074)
  let scaled := scaleDown num den guess
  if scaled.1 / scaled.2 < 1 <<< 52 ∧ -1074 < guess then guess - 1 else guess

/-- The unsigned bits of the float nearest to the fraction. A mantissa that rounds up to
the next power of two carries into the exponent field. -/
def nearestBits? (num den : Nat) : Option Nat :=
  if num = 0 then some 0
  else
    let exponent := lastBit num den
    let scaled := scaleDown num den exponent
    let bits := ((exponent + 1074).toNat <<< 52) + roundHalfEven scaled.1 scaled.2
    if bits < 2047 <<< 52 then some bits else none

/-- The unsigned bits of the float nearest to `digits · 10 ^ exponent`. A number whose
leading digit lies far outside the range of floats is settled without expanding it. -/
def nearestDecimal? (digits : Nat) (exponent : Int) : Option Nat :=
  if digits = 0 then some 0
  else if 310 < (digitCount digits : Int) + exponent then none
  else if (digitCount digits : Int) + exponent < -330 then some 0
  else if 0 ≤ exponent then nearestBits? (digits * Nat.pow 10 exponent.toNat) 1
  else nearestBits? digits (Nat.pow 10 (-exponent).toNat)

/-- The float with the given sign and unsigned bits. -/
def ofUnsignedBits (negative : Bool) (bits : Nat) : Float :=
  Float.ofBits (UInt64.ofNat (if negative then (1 <<< 63) + bits else bits))

/-- The float nearest to a signed decimal number, if it is finite. -/
def toFloat? (negative : Bool) (digits : Nat) (exponent : Int) : Option Float :=
  (nearestDecimal? digits exponent).map (ofUnsignedBits negative)

example : nearestDecimal? 5 (-324) = some 1 := by decide +kernel

example : nearestDecimal? 2 (-324) = some 0 := by decide +kernel

example : nearestDecimal? 17976931348623157 292 = some ((2047 <<< 52) - 1) := by
  decide +kernel

example : nearestDecimal? 17976931348623159 292 = none := by decide +kernel

end Metering.Decimal
