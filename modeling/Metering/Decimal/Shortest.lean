import Metering.Decimal.Binary

/-!
The shortest decimal that reads back as a given float.

For one digit, two digits, and so on, the two neighbours of the float on that decimal grid
are tried; the first grid with a neighbour that reads back gives the answer, and of two the
one nearer to the float. Which of two equally near ones is taken is a choice of the written form.
-/

namespace Metering

/-- A decimal number `digits · 10 ^ exponent`. -/
structure Decimal where
  digits : Nat
  exponent : Int
deriving DecidableEq, Repr

namespace Decimal

/-- The same number without trailing zeros in its digits. -/
def normalize (d : Decimal) : Decimal :=
  if _h : d.digits ≠ 0 ∧ d.digits % 10 = 0 then
    normalize ⟨d.digits / 10, d.exponent + 1⟩
  else d
termination_by d.digits
decreasing_by exact Nat.div_lt_self (by omega) (by omega)

/-- The power of ten of the leading digit of the fraction. -/
def leadingPower (num den : Nat) : Int :=
  let guess : Int := (digitCount num : Int) - digitCount den
  let reached :=
    if 0 ≤ guess then den * Nat.pow 10 guess.toNat ≤ num
    else den ≤ num * Nat.pow 10 (-guess).toNat
  if reached then guess else guess - 1

/-- Which of two equally near decimals is taken. -/
inductive Tie where
  | upper
  /-- The one whose last digit is even. -/
  | even
deriving DecidableEq, Repr

/-- The tie between `below` and the next number goes to `below`. -/
def Tie.isBelow (tie : Tie) (below : Nat) : Bool :=
  tie == .even && below % 2 == 0

/-- The decimal numbers next to the fraction among the multiples of `10 ^ exponent`, the
nearer one first. -/
def neighbours (tie : Tie) (num den : Nat) (exponent : Int) : List Decimal :=
  let scaled : Nat × Nat :=
    if 0 ≤ exponent then (num, den * Nat.pow 10 exponent.toNat)
    else (num * Nat.pow 10 (-exponent).toNat, den)
  let below := scaled.1 / scaled.2
  let twice := 2 * (scaled.1 % scaled.2)
  if twice < scaled.2 || (twice == scaled.2 && tie.isBelow below) then
    [⟨below, exponent⟩, ⟨below + 1, exponent⟩]
  else [⟨below + 1, exponent⟩, ⟨below, exponent⟩]

/-- The fraction that a mantissa and a power of two stand for. -/
def binaryFraction (mantissa : Nat) (exponent : Int) : Nat × Nat :=
  if 0 ≤ exponent then (mantissa <<< exponent.toNat, 1) else (mantissa, 1 <<< (-exponent).toNat)

/-- Every digit of a binary fraction. -/
def exactDecimal (mantissa : Nat) (exponent : Int) : Decimal :=
  if 0 ≤ exponent then ⟨mantissa <<< exponent.toNat, 0⟩
  else ⟨mantissa * Nat.pow 5 (-exponent).toNat, exponent⟩

/-- The decimal number reads back as the float with the given unsigned bits. -/
def readsAs (d : Decimal) (bits : Nat) : Bool :=
  nearestDecimal? d.digits d.exponent == some bits

/-- The shortest decimal that reads back as the given float, whose unsigned bits are
`bits`; every float has one of at most seventeen digits. -/
def shortest (tie : Tie) (bits mantissa : Nat) (exponent : Int) : Decimal :=
  let fraction := binaryFraction mantissa exponent
  let leading := leadingPower fraction.1 fraction.2
  let found := (List.range 17).findSome? fun (fewer : Nat) =>
    (neighbours tie fraction.1 fraction.2 (leading - (fewer : Int))).find? (·.readsAs bits)
  (found.getD (exactDecimal mantissa exponent)).normalize

end Decimal

end Metering
