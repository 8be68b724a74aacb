import Mathlib.Algebra.Order.Ring.Rat
import Mathlib.Tactic.Positivity
import Mathlib.Tactic.Ring
import Metering.Proofs.Decimal.Order
import Metering.Proofs.Series.Exact

/-!
The value of a float.

A finite float is a whole number of units of the least place, `units` of its bits, with its sign
(`exactValue_eq`). More bits are more units, so values are in the order of the levels
(`exactValue_le_iff`).
-/

namespace Metering.Decimal

open Float.Model Float.Model.UnpackedFloat
open Series (exactValue)

/-! ### Units of the least place -/

/-- What a float with these unsigned bits is worth, in units of the least place. -/
def units (bits : Nat) : Nat :=
  (bits - (bits / 2 ^ 52 - 1) * 2 ^ 52) * 2 ^ (bits / 2 ^ 52 - 1)

/-- The mantissa stands at its place; one that was rounded up to the next power of two has carried
into the exponent. -/
theorem units_eq {mantissa : Nat} (place : Nat) (upper : mantissa ≤ 2 ^ 53)
    (lower : place = 0 ∨ 2 ^ 52 ≤ mantissa) :
    units (place * 2 ^ 52 + mantissa) = mantissa * 2 ^ place := by
  rcases Nat.lt_or_eq_of_le upper with less | rfl
  · have field : (place * 2 ^ 52 + mantissa) / 2 ^ 52 - 1 = place := by omega
    rw [units, field, Nat.add_sub_cancel_left]
  · have field : (place * 2 ^ 52 + 2 ^ 53) / 2 ^ 52 - 1 = place + 1 := by omega
    have rest : place * 2 ^ 52 + 2 ^ 53 - (place + 1) * 2 ^ 52 = 2 ^ 52 := by omega
    rw [units, field, rest, Nat.pow_succ]
    ring

theorem Composed.units_eq {bits mantissa place : Nat} {exponent : Int}
    (composed : Composed bits mantissa exponent place) : units bits = mantissa * 2 ^ place := by
  rw [composed.bits]
  exact Decimal.units_eq _ (Nat.le_of_lt composed.upper) composed.lower

theorem exists_place (bits : Nat) : ∃ place mantissa, bits = place * 2 ^ 52 + mantissa ∧
    mantissa < 2 ^ 53 ∧ (place = 0 ∨ 2 ^ 52 ≤ mantissa) :=
  ⟨bits / 2 ^ 52 - 1, bits - (bits / 2 ^ 52 - 1) * 2 ^ 52, by omega, by omega, by omega⟩

/-- More bits are more units. -/
theorem units_strictMono : StrictMono units := by
  refine strictMono_nat_of_lt_succ fun bits => ?_
  obtain ⟨place, mantissa, rfl, upper, lower⟩ := exists_place bits
  rw [Nat.add_assoc, units_eq _ (Nat.le_of_lt upper) lower, units_eq _ upper (by omega)]
  exact Nat.mul_lt_mul_of_pos_right (Nat.lt_succ_self _) (Nat.two_pow_pos place)

theorem units_zero : units 0 = 0 :=
  rfl

/-! ### Values -/

variable {x y : Float}

theorem apply_mul (s : Sign) (m n : Nat) : s.apply (m * n : Nat) = s.apply m * n := by
  cases s with
  | negative => exact (congrArg Int.neg (Int.natCast_mul m n)).trans (Int.neg_mul ..).symm
  | positive => exact Int.natCast_mul m n

/-- The value of a number that is unpacked into a mantissa and an exponent. -/
theorem exactValue_of_unpack {s : Sign} {m : Nat} {e : Int} {pos : 0 < m}
    (unpacked : x.toModel.unpack = .finite s m e pos) :
    exactValue x = (s.apply m : ℤ) * (2 : ℚ) ^ e := by
  have power : (2 : ℚ) ^ e = 2 ^ e.toNat / 2 ^ (-e).toNat := by
    rw [← zpow_natCast, ← zpow_natCast, ← zpow_sub₀ two_ne_zero]
    exact congrArg _ (by omega)
  rw [exactValue, unpacked]
  simp only [apply_mul, Rat.mkRat_eq_div]
  rw [power, ← mul_div_assoc]
  push_cast
  rfl

/-- The value of a finite float is that of its magnitude with its sign. -/
theorem exists_magnitude (finite : x.isFinite = true) :
    ∃ m e, magnitude x = .finite m e ∧ exactValue x = ((signOf x).apply m : ℤ) * (2 : ℚ) ^ e := by
  have below := isFinite_iff.mp finite
  cases form x with
  | notANumber bits => omega
  | infinite bits => omega
  | zero _ read unpacked =>
      have none : (signOf x).apply (0 : Nat) = 0 := by cases signOf x <;> rfl
      refine ⟨_, _, read, ?_⟩
      rw [exactValue, unpacked, none, Int.cast_zero, zero_mul]
  | finite _ _ _ _ read unpacked => exact ⟨_, _, read, exactValue_of_unpack unpacked⟩

/-- A finite float is a whole number of units of the least place. -/
theorem exactValue_eq (finite : x.isFinite = true) :
    exactValue x = ((signOf x).apply (units (unsignedBits x)) : ℤ) / (2 : ℚ) ^ 1074 := by
  obtain ⟨m, e, read, value⟩ := exists_magnitude finite
  obtain ⟨place, composed⟩ := composed_of_magnitude read
  rw [value, composed.units_eq, composed.exponent, apply_mul, zpow_sub₀ two_ne_zero, zpow_natCast,
    zpow_ofNat, ← mul_div_assoc, Int.cast_mul, Int.cast_natCast, Nat.cast_pow, Nat.cast_ofNat]

/-- A function that keeps the order of magnitudes keeps that of the signed numbers. -/
theorem apply_le_apply_iff {f : Nat → Nat} (zero : f 0 = 0) (increasing : StrictMono f)
    (s s' : Sign) (m n : Nat) :
    s.apply (f m) ≤ s'.apply (f n) ↔ s.apply m ≤ s'.apply n := by
  have none : ∀ {k}, f k = 0 ↔ k = 0 := fun {k} => by
    conv_lhs => rw [← zero]
    exact increasing.injective.eq_iff
  have order : f m ≤ f n ↔ m ≤ n := increasing.le_iff_le
  have order' : f n ≤ f m ↔ n ≤ m := increasing.le_iff_le
  have := @none m
  have := @none n
  cases s <;> cases s' <;> simp only [Sign.apply] <;> omega

/-- Values are in the order of the levels. -/
theorem exactValue_le_iff (finite : x.isFinite = true) (finite' : y.isFinite = true) :
    exactValue x ≤ exactValue y ↔ level x ≤ level y := by
  rw [exactValue_eq finite, exactValue_eq finite', div_le_div_iff_of_pos_right (by positivity),
    Int.cast_le]
  exact apply_le_apply_iff units_zero units_strictMono _ _ _ _

/-- A float above zero and not above one is finite, and so is its value. -/
theorem exactValue_of_proportion {p : Float} (positive : 0 < p) (most : p ≤ 1) :
    isNegative p = false ∧ p.isFinite = true ∧ 0 < exactValue p ∧ exactValue p ≤ 1 := by
  obtain ⟨number₀, number⟩ := isNaN_of_lt positive
  have zero : level 0 = 0 ∧ (0 : Float).isFinite = true ∧ exactValue 0 = 0 := by decide +kernel
  have one : level 1 = 1023 * 2 ^ 52 ∧ (1 : Float).isNaN = false ∧ (1 : Float).isFinite = true ∧
      exactValue 1 = 1 := by decide +kernel
  have above : level 0 < level p := (lt_iff_level number₀ number).mp positive
  have below : level p ≤ level 1 := (le_iff_level number one.2.1).mp most
  have plus : isNegative p = false := by
    refine Bool.eq_false_iff.mpr fun minus => ?_
    rw [zero.1, level, signOf, if_pos minus, Sign.apply] at above
    omega
  have finite : p.isFinite = true := by
    have := level_eq p
    rw [isFinite_iff]
    omega
  have order := exactValue_le_iff finite zero.2.1
  have order' := exactValue_le_iff finite one.2.2.1
  rw [zero.2.2, ← not_iff_not, not_le] at order
  rw [one.2.2.2] at order'
  exact ⟨plus, finite, order.mpr (not_le.mpr above), order'.mpr below⟩

end Metering.Decimal
