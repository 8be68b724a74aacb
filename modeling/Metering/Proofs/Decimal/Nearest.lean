import Metering.Decimal.Binary
import Metering.Proofs.Decimal.Digits

/-!
The float nearest to a fraction.

`nearestBits?` works with a numerator and a denominator, and its answer depends on the fraction
alone (`nearestBits?_congr`): the last bit of the mantissa stands at the one place that leaves 53
bits before it, or at the least place there is (`IsLastBit`), and rounding there depends on the
fraction. So the powers of ten of a decimal number can be taken from its exponent into its digits
(`nearestDecimal?_shift`).
-/

namespace Metering.Decimal

/-! ### Rounding -/

/-- Rounding a fraction does not depend on how it is expanded. -/
theorem roundHalfEven_mul {num den k : Nat} (positive : 0 < k) :
    roundHalfEven (num * k) (den * k) = roundHalfEven num den := by
  have whole : num * k / (den * k) = num / den := Nat.mul_div_mul_right _ _ positive
  have left : 2 * (num * k % (den * k)) = 2 * (num % den) * k := by
    rw [Nat.mul_mod_mul_right, Nat.mul_assoc]
  simp only [roundHalfEven, whole, left, Nat.mul_lt_mul_right positive]

theorem roundHalfEven_congr {num den num' den' : Nat} (positive : 0 < den) (positive' : 0 < den')
    (same : num * den' = num' * den) : roundHalfEven num den = roundHalfEven num' den' := by
  rw [← roundHalfEven_mul positive', same, Nat.mul_comm den den', roundHalfEven_mul positive]

/-- A whole number is not rounded. -/
theorem roundHalfEven_mul_self (n : Nat) {k : Nat} (positive : 0 < k) :
    roundHalfEven (n * k) k = n := by
  have same : roundHalfEven (n * k) (1 * k) = roundHalfEven n 1 := roundHalfEven_mul positive
  rw [Nat.one_mul] at same
  rw [same]
  simp [roundHalfEven, Nat.mod_one]

/-! ### The last bit -/

/-- How many units of the least place make one. -/
def unitsPerOne : Nat := 2 ^ 1074

theorem unitsPerOne_pos : 0 < unitsPerOne := by
  rw [unitsPerOne]
  generalize 1074 = bits
  exact Nat.two_pow_pos bits

theorem unitsPerOne_mul (k : Nat) : unitsPerOne * 2 ^ k = 2 ^ (1074 + k) := by
  rw [unitsPerOne, Nat.pow_add]

/-- With the last bit of the mantissa at `place`, counted from the least one, a fraction has at most
53 bits there, and just as many unless the place is the least one. -/
structure IsLastBit (num den place : Nat) : Prop where
  upper : num * unitsPerOne < den * 2 ^ (53 + place)
  lower : place = 0 ∨ den * 2 ^ (52 + place) ≤ num * unitsPerOne

/-- There is only one such place. -/
theorem IsLastBit.unique {num den place place' : Nat} (last : IsLastBit num den place)
    (last' : IsLastBit num den place') : place = place' := by
  have not_before : ∀ {place place' : Nat}, IsLastBit num den place → IsLastBit num den place' →
      ¬ place < place' := by
    intro place place' last last' before
    have longer : den * 2 ^ (53 + place) ≤ den * 2 ^ (52 + place') :=
      Nat.mul_le_mul_left den (Nat.pow_le_pow_right (by decide) (by omega))
    have reached := last'.lower.resolve_left (by omega)
    exact absurd last.upper (Nat.not_lt.mpr (Nat.le_trans longer reached))
  have least := Nat.not_lt.mp (not_before last' last)
  have greatest := Nat.not_lt.mp (not_before last last')
  exact Nat.le_antisymm least greatest

/-- The place depends on the fraction alone. -/
theorem IsLastBit.congr {num den num' den' place : Nat} (positive : 0 < den) (positive' : 0 < den')
    (same : num * den' = num' * den) (last : IsLastBit num den place) :
    IsLastBit num' den' place := by
  have crossed : num * unitsPerOne * den' = num' * unitsPerOne * den := by
    rw [Nat.mul_right_comm, same, Nat.mul_right_comm]
  constructor
  · refine Nat.lt_of_mul_lt_mul_right (a := den) ?_
    rw [← crossed, Nat.mul_right_comm den']
    have := Nat.mul_lt_mul_of_pos_right last.upper positive'
    rw [Nat.mul_right_comm den, Nat.mul_comm den] at this
    exact this
  · refine last.lower.imp_right fun reached => ?_
    refine Nat.le_of_mul_le_mul_right ?_ positive
    rw [← crossed, Nat.mul_right_comm den']
    have := Nat.mul_le_mul_right den' reached
    rw [Nat.mul_right_comm den, Nat.mul_comm den] at this
    exact this

/-- Scaling down to a place does not change the fraction. -/
theorem scaleDown_cross (num den place : Nat) :
    (scaleDown num den ((place : Int) - 1074)).1 * (den * 2 ^ place) =
      num * unitsPerOne * (scaleDown num den ((place : Int) - 1074)).2 := by
  unfold scaleDown
  by_cases whole : 0 ≤ (place : Int) - 1074
  · have up : place = 1074 + ((place : Int) - 1074).toNat := by omega
    have split : 2 ^ place = unitsPerOne * 2 ^ ((place : Int) - 1074).toNat := by
      rw [unitsPerOne_mul, ← up]
    rw [if_pos whole, Nat.shiftLeft_eq, split]
    ring
  · have down : 1074 = (-((place : Int) - 1074)).toNat + place := by omega
    have split : unitsPerOne = 2 ^ (-((place : Int) - 1074)).toNat * 2 ^ place := by
      rw [← Nat.pow_add, ← down, unitsPerOne]
    rw [if_neg whole, Nat.shiftLeft_eq, split]
    ring

theorem scaleDown_pos (num : Nat) {den : Nat} (positive : 0 < den) (exponent : Int) :
    0 < (scaleDown num den exponent).2 := by
  unfold scaleDown
  split
  · rw [Nat.shiftLeft_eq]
    exact Nat.mul_pos positive (Nat.two_pow_pos _)
  · exact positive

theorem scaleDown_lt_iff {num den place : Nat} (positive : 0 < den) (bits : Nat) :
    (scaleDown num den ((place : Int) - 1074)).1 / (scaleDown num den ((place : Int) - 1074)).2 <
      2 ^ bits ↔ num * unitsPerOne < den * 2 ^ (bits + place) := by
  have scaled := scaleDown_pos num positive ((place : Int) - 1074)
  have cross := scaleDown_cross num den place
  have unit : 0 < den * 2 ^ place := Nat.mul_pos positive (Nat.two_pow_pos _)
  rw [Nat.div_lt_iff_lt_mul scaled, ← Nat.mul_lt_mul_right unit, cross,
    Nat.mul_right_comm (2 ^ bits), Nat.mul_lt_mul_right scaled, Nat.pow_add,
    Nat.mul_left_comm den]

/-- The place that is guessed from the lengths of the numbers is the right one, or one too high. -/
theorem isLastBit_lastBit {num den : Nat} (positive : 0 < num) (positive' : 0 < den) :
    ∃ place : Nat, lastBit num den = (place : Int) - 1074 ∧ IsLastBit num den place := by
  obtain ⟨place, guessed⟩ : ∃ place : Nat,
      max ((num.log2 : Int) - den.log2 - 52) (-1074) = (place : Int) - 1074 :=
    ⟨(max ((num.log2 : Int) - den.log2 - 52) (-1074) + 1074).toNat, by omega⟩
  have num_lower : 2 ^ num.log2 ≤ num := Nat.log2_self_le (Nat.ne_of_gt positive)
  have num_upper : num < 2 ^ (num.log2 + 1) := Nat.lt_log2_self
  have den_lower : 2 ^ den.log2 ≤ den := Nat.log2_self_le (Nat.ne_of_gt positive')
  have den_upper : den < 2 ^ (den.log2 + 1) := Nat.lt_log2_self
  have upper : num * unitsPerOne < den * 2 ^ (53 + place) := calc
    num * unitsPerOne < 2 ^ (num.log2 + 1) * unitsPerOne :=
      Nat.mul_lt_mul_of_pos_right num_upper unitsPerOne_pos
    _ = 2 ^ (1074 + (num.log2 + 1)) := by rw [Nat.mul_comm, unitsPerOne_mul]
    _ ≤ 2 ^ (den.log2 + (53 + place)) := Nat.pow_le_pow_right (by decide) (by omega)
    _ = 2 ^ den.log2 * 2 ^ (53 + place) := Nat.pow_add ..
    _ ≤ den * 2 ^ (53 + place) := Nat.mul_le_mul_right _ den_lower
  simp only [lastBit, guessed, scaleDown_lt_iff positive', Nat.one_shiftLeft]
  by_cases high : num * unitsPerOne < den * 2 ^ (52 + place) ∧ -1074 < (place : Int) - 1074
  · obtain ⟨short, above⟩ := high
    have one_less : 52 + place = 53 + (place - 1) := by omega
    refine ⟨place - 1, by rw [if_pos ⟨short, above⟩]; omega, one_less ▸ short, .inr ?_⟩
    calc den * 2 ^ (52 + (place - 1))
        ≤ 2 ^ (den.log2 + 1) * 2 ^ (52 + (place - 1)) :=
          Nat.mul_le_mul_right _ (Nat.le_of_lt den_upper)
      _ = 2 ^ (den.log2 + 1 + (52 + (place - 1))) := (Nat.pow_add ..).symm
      _ = 2 ^ (1074 + num.log2) := by congr 1; omega
      _ = 2 ^ num.log2 * unitsPerOne := by rw [Nat.mul_comm, unitsPerOne_mul]
      _ ≤ num * unitsPerOne := Nat.mul_le_mul_right _ num_lower
  · refine ⟨place, if_neg high, upper, ?_⟩
    by_cases least : place = 0
    · exact .inl least
    · exact .inr (Nat.not_lt.mp fun short => high ⟨short, by omega⟩)

/-! ### The nearest float -/

theorem nearestBits?_zero (den : Nat) : nearestBits? 0 den = some 0 :=
  if_pos rfl

/-- The bits are those of the place of the last bit and of the mantissa rounded there. -/
theorem nearestBits?_eq {num den place : Nat} (positive : 0 < num) (positive' : 0 < den)
    (last : IsLastBit num den place) :
    nearestBits? num den =
      let bits := place * 2 ^ 52 + roundHalfEven (num * unitsPerOne) (den * 2 ^ place)
      if bits < 2047 * 2 ^ 52 then some bits else none := by
  obtain ⟨place', found, last'⟩ := isLastBit_lastBit positive positive'
  obtain rfl : place' = place := last'.unique last
  have shift : ((place' : Int) - 1074 + 1074).toNat = place' := by omega
  have rounded := roundHalfEven_congr (scaleDown_pos num positive' ((place' : Int) - 1074))
    (Nat.mul_pos positive' (Nat.two_pow_pos place')) (scaleDown_cross num den place')
  rw [nearestBits?, if_neg (Nat.ne_of_gt positive)]
  simp only [found, shift, rounded, Nat.shiftLeft_eq]

/-- **The nearest float depends on the fraction alone.** -/
theorem nearestBits?_congr {num den num' den' : Nat} (positive : 0 < den) (positive' : 0 < den')
    (same : num * den' = num' * den) : nearestBits? num den = nearestBits? num' den' := by
  by_cases zero : num = 0
  · have zero' : num' = 0 := by
      rw [zero, Nat.zero_mul, eq_comm, Nat.mul_eq_zero] at same
      exact same.resolve_right (Nat.ne_of_gt positive)
    rw [zero, zero', nearestBits?_zero, nearestBits?_zero]
  · have num_pos := Nat.pos_of_ne_zero zero
    have num_pos' : 0 < num' := by
      have crossed := Nat.mul_pos num_pos positive'
      rw [same] at crossed
      exact Nat.pos_of_mul_pos_right crossed
    obtain ⟨place, -, last⟩ := isLastBit_lastBit num_pos positive
    have rounded : roundHalfEven (num * unitsPerOne) (den * 2 ^ place) =
        roundHalfEven (num' * unitsPerOne) (den' * 2 ^ place) := by
      refine roundHalfEven_congr (Nat.mul_pos positive (Nat.two_pow_pos _))
        (Nat.mul_pos positive' (Nat.two_pow_pos _)) ?_
      rw [Nat.mul_mul_mul_comm, same, Nat.mul_mul_mul_comm]
    rw [nearestBits?_eq num_pos positive last,
      nearestBits?_eq num_pos' positive' (last.congr positive positive' same), rounded]

/-! ### Decimal numbers -/

/-- A decimal number whose leading digit stands where floats reach is read as a fraction. -/
theorem nearestDecimal?_eq {digits : Nat} {exponent : Int} (positive : 0 < digits)
    (reach : (digitCount digits : Int) + exponent ≤ 310)
    (near : -330 ≤ (digitCount digits : Int) + exponent) :
    nearestDecimal? digits exponent =
      nearestBits? (digits * 10 ^ exponent.toNat) (10 ^ (-exponent).toNat) := by
  rw [nearestDecimal?, if_neg (Nat.ne_of_gt positive), if_neg (Int.not_lt.mpr reach),
    if_neg (Int.not_lt.mpr near)]
  by_cases whole : 0 ≤ exponent
  · have no_fraction : (-exponent).toNat = 0 := by omega
    rw [if_pos whole, no_fraction, Nat.pow_zero]
    rfl
  · have no_zeros : exponent.toNat = 0 := by omega
    rw [if_neg whole, no_zeros, Nat.pow_zero, Nat.mul_one]
    rfl

/-- **Powers of ten may stand in the digits or in the exponent.** -/
theorem nearestDecimal?_shift (digits k : Nat) (exponent : Int) :
    nearestDecimal? (digits * 10 ^ k) exponent = nearestDecimal? digits (exponent + k) := by
  by_cases zero : digits = 0
  · rw [zero, Nat.zero_mul]
    rfl
  have positive := Nat.pos_of_ne_zero zero
  have positive' : 0 < digits * 10 ^ k := Nat.mul_pos positive (Nat.pow_pos (by decide))
  have leading : (digitCount (digits * 10 ^ k) : Int) + exponent =
      digitCount digits + (exponent + k) := by
    rw [digitCount_mul_pow positive]
    omega
  by_cases reach : (digitCount digits : Int) + (exponent + k) ≤ 310
  · by_cases near : -330 ≤ (digitCount digits : Int) + (exponent + k)
    · have powers : k + exponent.toNat + (-(exponent + k)).toNat =
          (exponent + k).toNat + (-exponent).toNat := by omega
      rw [nearestDecimal?_eq positive' (leading ▸ reach) (leading ▸ near),
        nearestDecimal?_eq positive reach near]
      refine nearestBits?_congr (Nat.pow_pos (by decide)) (Nat.pow_pos (by decide)) ?_
      rw [Nat.mul_assoc, Nat.mul_assoc, ← Nat.pow_add, ← Nat.pow_add, Nat.mul_assoc, ← Nat.pow_add,
        ← powers, Nat.add_assoc]
    · rw [nearestDecimal?, nearestDecimal?, leading, if_neg (Nat.ne_of_gt positive'), if_neg zero,
        if_neg (Int.not_lt.mpr reach), if_pos (Int.not_le.mp near), if_neg (Int.not_lt.mpr reach),
        if_pos (Int.not_le.mp near)]
  · rw [nearestDecimal?, nearestDecimal?, leading, if_neg (Nat.ne_of_gt positive'), if_neg zero,
      if_pos (Int.not_le.mp reach), if_pos (Int.not_le.mp reach)]

end Metering.Decimal
