import Mathlib.Algebra.BigOperators.Group.List.Basic
import Mathlib.Data.Rat.Cast.Defs
import Metering.Series.Arithmetic

/-!
Arithmetics that do not round.

In an `Exact` arithmetic the operations a series is computed with are those of a commutative group
with a one, so a sum does not depend on how its terms are put together. The rational numbers are such
an arithmetic: every finite floating-point number has its value there.
-/

namespace Metering.Series

/-- Sums, differences and counts are exact. -/
class Exact (ν : Type) [AddCommGroupWithOne ν] [Arithmetic ν] : Prop where
  add_eq (a b : ν) : Arithmetic.add a b = a + b
  sub_eq (a b : ν) : Arithmetic.sub a b = a - b
  ofNat_eq (n : Nat) : (Arithmetic.ofNat n : ν) = n
  emptySum_eq : (Arithmetic.emptySum : ν) = 0

section Exact

variable {ν : Type} [AddCommGroupWithOne ν] [Arithmetic ν] [Exact ν]

theorem zero_eq : (Arithmetic.zero : ν) = 0 :=
  (Exact.ofNat_eq 0).trans Nat.cast_zero

theorem foldl_add_eq (start : ν) (terms : List ν) :
    terms.foldl Arithmetic.add start = start + terms.sum := by
  induction terms generalizing start with
  | nil => rw [List.foldl_nil, List.sum_nil, add_zero]
  | cons term rest ih => rw [List.foldl_cons, ih, Exact.add_eq, List.sum_cons, add_assoc]

theorem sum_eq (terms : List ν) : Arithmetic.sum terms = terms.sum := by
  rw [Arithmetic.sum, foldl_add_eq, Exact.emptySum_eq, zero_add]

end Exact

/-- The value of a finite floating-point number; the other ones have none, and count as zero. -/
def exactValue (x : Float) : ℚ :=
  match x.toModel.unpack with
  | .finite sign mantissa exponent _ =>
    mkRat (sign.apply (mantissa * 2 ^ exponent.toNat : Nat)) (2 ^ (-exponent).toNat)
  | .zero _ | .infinity _ | .notANumber => 0

/-- Rational numbers, where every operation is exact and none is undefined. -/
instance : Arithmetic ℚ where
  ofFloat := exactValue
  ofNat n := n
  add a b := a + b
  sub a b := a - b
  div a b := a / b
  emptySum := 0
  isZero x := x == 0
  isNaN _ := false
  less a b := a < b
  totalLe a b := a ≤ b

instance : Exact ℚ where
  add_eq _ _ := rfl
  sub_eq _ _ := rfl
  ofNat_eq _ := rfl
  emptySum_eq := rfl

end Metering.Series
