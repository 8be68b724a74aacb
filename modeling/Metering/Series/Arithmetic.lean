/-!
The arithmetic a series is computed in. Series are computed in floating point, which rounds; the
laws of sums and means hold exactly in an arithmetic that does not. Both run the same
definitions.
-/

namespace Metering.Series

/-- Numbers to compute a series with. -/
class Arithmetic (ν : Type) where
  /-- A recorded number. -/
  ofFloat : Float → ν
  /-- A count. -/
  ofNat : Nat → ν
  add : ν → ν → ν
  sub : ν → ν → ν
  div : ν → ν → ν
  /-- What a sum of no terms is before it is added to. -/
  emptySum : ν
  isZero : ν → Bool
  /-- The result of an undefined operation. -/
  isNaN : ν → Bool
  less : ν → ν → Bool
  /-- An order of all numbers, undefined results included. -/
  totalLe : ν → ν → Bool

namespace Arithmetic

variable {ν : Type} [Arithmetic ν]

def zero : ν := ofNat 0

/-- The terms added up from the left, beginning with the empty sum. -/
def sum (xs : List ν) : ν :=
  xs.foldl add emptySum

/-- The quotient, or zero when the divisor is absent or zero. -/
def ratio (num : ν) (den : Option ν) : ν :=
  match den with
  | some d => if isZero d then zero else div num d
  | none => zero

end Arithmetic

/-- The bits of a float. Undefined results differ in their bits, and one of these is a sign; as a
`Float` they are all the same. -/
structure FloatBits where
  bits : UInt64
deriving DecidableEq, Repr

namespace FloatBits

def ofFloat (x : Float) : FloatBits :=
  ⟨x.toBits⟩

def toFloat (x : FloatBits) : Float :=
  Float.ofBits x.bits

/-- The place in the order of all floats: upwards from zero by the bits, or downwards from below zero
if the sign bit is set. A negative zero comes before the positive one, and undefined results come
before or after all numbers, by their sign. -/
def place (x : FloatBits) : Int :=
  if x.bits.toNat < 0x8000000000000000 then x.bits.toNat else 0x7fffffffffffffff - x.bits.toNat

def totalLe (a b : FloatBits) : Bool :=
  a.place ≤ b.place

example : List.Pairwise (fun a b : FloatBits => a.place < b.place)
    [⟨0xfff8000000000000⟩, .ofFloat (-1 / 0), .ofFloat (-2), .ofFloat (-1), .ofFloat (-0.0),
      .ofFloat 0, .ofFloat 1, .ofFloat (1 / 0), ⟨0x7ff8000000000000⟩] := by decide +kernel

end FloatBits

/-- Floating point. The sum of no terms is the negative zero, which any term replaces. -/
instance : Arithmetic Float where
  ofFloat x := x
  ofNat n := n.toUInt64.toFloat
  add := Float.add
  sub := Float.sub
  div := Float.div
  emptySum := -0.0
  isZero x := x == 0
  isNaN := Float.isNaN
  less a b := a < b
  totalLe a b := (FloatBits.ofFloat a).totalLe (.ofFloat b)

/-- Floating point on bits. Which of the undefined results an operation gives is left open; here it is
the one that a `Float` stands for. -/
instance : Arithmetic FloatBits where
  ofFloat := .ofFloat
  ofNat n := .ofFloat n.toUInt64.toFloat
  add a b := .ofFloat (a.toFloat + b.toFloat)
  sub a b := .ofFloat (a.toFloat - b.toFloat)
  div a b := .ofFloat (a.toFloat / b.toFloat)
  emptySum := .ofFloat (-0.0)
  isZero x := x.toFloat == 0
  isNaN x := x.toFloat.isNaN
  less a b := a.toFloat < b.toFloat
  totalLe := FloatBits.totalLe

end Metering.Series
