import Mathlib.Algebra.Order.Field.Power
import Mathlib.Tactic.Linarith
import Mathlib.Tactic.NormNum
import Mathlib.Tactic.Positivity
import Mathlib.Tactic.Ring
import Mathlib.Tactic.WLOG
import Metering.Proofs.Decimal.Value

/-!
The float that is found for a fraction is the nearest one.

The bits of a float are counted in units of the least place (`units`). At the place of the last
bit the floats are multiples of one power of two, and rounding finds the nearest multiple
(`roundHalfEven_nearest`); the floats with finer places are all below the fraction. So no other
float is nearer (`NearestBits`, `nearestBits_of_nearestDecimal?`), as long as the fraction is below
`limit`, half way from the greatest float to the next power of two; from there on there is no
answer (`nearestDecimal?_eq_none_iff`). With the signs counted in, the float with the sign of the
number is the only one that is nearest to it (`IsNearest.unique`, `toFloat?_eq_some_iff`).
-/

namespace Metering.Decimal

open Float.Model Float.Model.UnpackedFloat
open Series (exactValue)

/-! ### Rounding to a whole number -/

section

variable {num den n : Nat}

/-- What is rounded off is at most one half, and one half only from an even number. -/
theorem roundHalfEven_spec (num : Nat) (positive : 0 < den) :
    2 * (roundHalfEven num den * den) ≤ 2 * num + den ∧
      2 * num ≤ 2 * (roundHalfEven num den * den) + den ∧
      (2 * (roundHalfEven num den * den) = 2 * num + den ∨
        2 * num = 2 * (roundHalfEven num den * den) + den → roundHalfEven num den % 2 = 0) := by
  have split : num / den * den + num % den = num := by rw [Nat.mul_comm, Nat.div_add_mod]
  have part : num % den < den := Nat.mod_lt _ positive
  simp only [roundHalfEven]
  split_ifs with low high
  · omega
  · rw [Nat.add_mul, Nat.one_mul]
    omega
  · rcases Nat.mod_two_eq_zero_or_one (num / den) with even | odd
    · rw [even, Nat.add_zero]
      omega
    · rw [odd, Nat.add_mul, Nat.one_mul]
      omega

/-- Rounding never goes past a whole number. -/
theorem roundHalfEven_le (positive : 0 < den) (below : num ≤ n * den) :
    roundHalfEven num den ≤ n := by
  obtain ⟨up, -, -⟩ := roundHalfEven_spec num positive
  refine Nat.not_lt.mp fun past => ?_
  have := Nat.mul_le_mul_right den past
  rw [Nat.succ_mul] at this
  omega

theorem le_roundHalfEven (positive : 0 < den) (above : n * den ≤ num) :
    n ≤ roundHalfEven num den := by
  obtain ⟨-, down, -⟩ := roundHalfEven_spec num positive
  refine Nat.not_lt.mp fun past => ?_
  have := Nat.mul_le_mul_right den past
  rw [Nat.succ_mul] at this
  omega

/-- An even number is reached from its lower half on. -/
theorem roundHalfEven_lt_iff (num : Nat) (positive : 0 < den) (even : n % 2 = 0) :
    roundHalfEven num den < n ↔ 2 * num + den < 2 * (n * den) := by
  obtain ⟨up, down, half⟩ := roundHalfEven_spec num positive
  constructor
  · intro less
    have step := Nat.mul_le_mul_right den less
    rw [Nat.succ_mul] at step
    refine Nat.lt_of_le_of_ne (by omega) fun tie => ?_
    -- At the half way the number below would have been odd.
    have next : roundHalfEven num den + 1 = n :=
      Nat.eq_of_mul_eq_mul_right positive (by rw [Nat.succ_mul]; omega)
    have := half (by omega)
    omega
  · intro short
    refine Nat.not_le.mp fun reached => ?_
    have := Nat.mul_le_mul_right den reached
    omega

/-- **No whole number is nearer to a fraction than the rounded one**, which is even where another
one is as near. -/
theorem roundHalfEven_nearest (num : Nat) (positive : 0 < den) (n : Nat) :
    (roundHalfEven num den * den - num : Int).natAbs ≤ (n * den - num : Int).natAbs ∧
      ((n * den - num : Int).natAbs = (roundHalfEven num den * den - num : Int).natAbs →
        n ≠ roundHalfEven num den → roundHalfEven num den % 2 = 0) := by
  obtain ⟨up, down, half⟩ := roundHalfEven_spec num positive
  generalize roundHalfEven num den = r at *
  have cast {k : Nat} : (k : Int) * den = (k * den : Nat) := (Int.natCast_mul k den).symm
  rw [cast, cast]
  rcases Nat.lt_trichotomy n r with less | rfl | greater
  · have step := Nat.mul_le_mul_right den less
    rw [Nat.succ_mul] at step
    exact ⟨by omega, fun _ _ => half (by omega)⟩
  · exact ⟨Nat.le_refl _, fun _ different => absurd rfl different⟩
  · have step := Nat.mul_le_mul_right den greater
    rw [Nat.succ_mul] at step
    exact ⟨by omega, fun _ _ => half (by omega)⟩

end

/-! ### Units of the least place -/

/-- Floats are multiples of the units of a place, or below the leading bit at that place. -/
theorem units_multiple_or_lt (bits place : Nat) :
    (∃ n, units bits = n * 2 ^ place) ∨ 0 < place ∧ units bits < 2 ^ 52 * 2 ^ place := by
  obtain ⟨place', mantissa, rfl, upper, lower⟩ := exists_place bits
  rw [units_eq _ (Nat.le_of_lt upper) lower]
  rcases Nat.lt_or_ge place' place with finer | coarser
  · refine .inr ⟨Nat.zero_lt_of_lt finer, ?_⟩
    calc mantissa * 2 ^ place' < 2 ^ 53 * 2 ^ place' :=
          Nat.mul_lt_mul_of_pos_right upper (Nat.two_pow_pos place')
      _ = 2 ^ (53 + place') := (Nat.pow_add ..).symm
      _ ≤ 2 ^ (52 + place) := Nat.pow_le_pow_right two_pos (by omega)
      _ = 2 ^ 52 * 2 ^ place := Nat.pow_add ..
  · refine .inl ⟨mantissa * 2 ^ (place' - place), ?_⟩
    rw [Nat.mul_assoc, ← Nat.pow_add, Nat.sub_add_cancel coarser]

/-- No float is nearer to this number of units than the one with these bits, which has an even
mantissa where another one is as near. -/
structure NearestBits (q : ℚ) (bits : Nat) : Prop where
  least : ∀ b, |(units bits : ℚ) - q| ≤ |(units b : ℚ) - q|
  even : ∀ b, |(units b : ℚ) - q| = |(units bits : ℚ) - q| → units b ≠ units bits → bits % 2 = 0

theorem abs_sub_div_eq {num den : Nat} (positive : 0 < den) (n : Nat) :
    |(n : ℚ) - (num : ℚ) / den| = ((n * den - num : Int).natAbs : ℚ) / den := by
  have positive' : (0 : ℚ) < den := Nat.cast_pos.mpr positive
  rw [← mul_div_cancel_right₀ (n : ℚ) positive'.ne', ← sub_div, abs_div, abs_of_pos positive',
    Nat.cast_natAbs]
  push_cast
  rfl

section

variable {num den place : Nat}

/-- The mantissa that is rounded at the place of the last bit. -/
def mantissaAt (num den place : Nat) : Nat :=
  roundHalfEven (num * unitsPerOne) (den * 2 ^ place)

/-- A fraction at the place of its last bit: the places are a power of two. -/
theorem IsLastBit.exists_unit (positive : 0 < den) (last : IsLastBit num den place) :
    ∃ unit, unit = den * 2 ^ place ∧ 0 < unit ∧ num * unitsPerOne < 2 ^ 53 * unit ∧
      (place = 0 ∨ 2 ^ 52 * unit ≤ num * unitsPerOne) := by
  have powers (bits : Nat) : den * 2 ^ (bits + place) = 2 ^ bits * (den * 2 ^ place) := by
    rw [Nat.pow_add, Nat.mul_left_comm]
  have upper := last.upper
  have lower := last.lower
  rw [powers] at upper lower
  exact ⟨_, rfl, Nat.mul_pos positive (Nat.two_pow_pos place), upper, lower⟩

/-- **The mantissa rounded at the place of the last bit is that of the nearest float.** -/
theorem IsLastBit.nearestBits (positive : 0 < den) (last : IsLastBit num den place) :
    NearestBits ((num * unitsPerOne : Nat) / den) (place * 2 ^ 52 + mantissaAt num den place) := by
  obtain ⟨unit, size, unit_pos, upper, lower⟩ := last.exists_unit positive
  have scaled (n : Nat) : n * 2 ^ place * den = n * unit := by
    rw [size, Nat.mul_assoc, Nat.mul_comm den]
  rw [mantissaAt, ← size]
  generalize num * unitsPerOne = amount at *
  have nearest := roundHalfEven_nearest amount unit_pos
  have found := units_eq place
    (roundHalfEven_le unit_pos (Nat.le_of_lt upper)) (lower.imp_right (le_roundHalfEven unit_pos))
  generalize roundHalfEven amount unit = r at *
  have distance (n : Nat) : |((n * 2 ^ place : Nat) : ℚ) - (amount : ℚ) / den| =
      ((n * unit - amount : Int).natAbs : ℚ) / den := by
    rw [abs_sub_div_eq positive, ← Int.natCast_mul, scaled, Int.natCast_mul]
  have den_pos : (0 : ℚ) < den := Nat.cast_pos.mpr positive
  -- With finer places there are only numbers below the leading bit, which are farther off.
  have farther {b : Nat} (above : 0 < place) (less : units b < 2 ^ 52 * 2 ^ place) :
      |((r * 2 ^ place : Nat) : ℚ) - (amount : ℚ) / den| <
        |(units b : ℚ) - (amount : ℚ) / den| := by
    have reached := lower.resolve_left (Nat.ne_of_gt above)
    have below := scaled _ ▸ Nat.mul_lt_mul_of_pos_right less positive
    have order := (nearest (2 ^ 52)).1
    rw [distance, abs_sub_div_eq positive, div_lt_div_iff_of_pos_right den_pos, Nat.cast_lt]
    omega
  constructor
  · intro b
    rw [found]
    rcases units_multiple_or_lt b place with ⟨n, multiple⟩ | ⟨above, less⟩
    · rw [multiple, distance, distance, div_le_div_iff_of_pos_right den_pos, Nat.cast_le]
      exact (nearest n).1
    · exact (farther above less).le
  · intro b tie different
    rw [found] at tie
    rcases units_multiple_or_lt b place with ⟨n, multiple⟩ | ⟨above, less⟩
    · rw [multiple, distance, distance, div_left_inj' den_pos.ne', Nat.cast_inj] at tie
      have even := (nearest n).2 tie fun same => different (by rw [found, multiple, same])
      omega
    · exact absurd tie (farther above less).ne'

/-- Half way from the greatest float to the next power of two. -/
def limit : Nat := (2 ^ 54 - 1) * 2 ^ 970

example : 2 * (limit : ℚ) = exactValue (ofUnsignedBits false (2047 * 2 ^ 52 - 1)) + 2 ^ 1024 := by
  decide +kernel

/-- The bits are those of a float as long as the fraction is below the limit. -/
theorem IsLastBit.lt_iff (positive : 0 < den) (last : IsLastBit num den place) :
    place * 2 ^ 52 + mantissaAt num den place < 2047 * 2 ^ 52 ↔ num < limit * den := by
  obtain ⟨unit, size, unit_pos, upper, lower⟩ := last.exists_unit positive
  obtain ⟨top, highest⟩ : ∃ top, top = den * 2 ^ (1074 + 970) := ⟨_, rfl⟩
  have bound : limit * den * unitsPerOne = (2 ^ 54 - 1) * top := by
    rw [highest, ← unitsPerOne_mul, limit]
    generalize 2 ^ 970 = power
    ring
  rw [← Nat.mul_lt_mul_right (b := num) unitsPerOne_pos, bound, mantissaAt, ← size]
  generalize num * unitsPerOne = amount at *
  clear bound
  have few : roundHalfEven amount unit ≤ 2 ^ 53 := roundHalfEven_le unit_pos (Nat.le_of_lt upper)
  rcases Nat.lt_trichotomy place (1074 + 970 + 1) with less | same | greater
  · have : unit ≤ top := by
      rw [size, highest]
      exact Nat.mul_le_mul_left den (pow_le_pow_right₀ one_le_two (Nat.le_of_lt_succ less))
    clear highest
    exact iff_of_true (by omega) (by omega)
  · have double : unit = top * 2 := by
      rw [size, highest, same, pow_succ, Nat.mul_assoc]
    have := roundHalfEven_lt_iff amount (n := 2 ^ 53) unit_pos (by decide)
    clear highest
    omega
  · have reached := lower.resolve_left (Nat.ne_of_gt (Nat.zero_lt_of_lt greater))
    have full := le_roundHalfEven unit_pos reached
    have : top * 2 ^ 2 ≤ unit := by
      rw [size, highest, Nat.mul_assoc, ← pow_add]
      exact Nat.mul_le_mul_left den (pow_le_pow_right₀ one_le_two greater)
    clear highest
    exact iff_of_false (by omega) (by omega)

end

/-! ### The bits that are found -/

theorem nearestBits_zero {q : ℚ} (nonneg : 0 ≤ q) (small : q ≤ 1 / 2) : NearestBits q 0 where
  least b := by
    rw [units_zero, Nat.cast_zero, zero_sub, abs_neg, abs_of_nonneg nonneg]
    rcases Nat.eq_zero_or_pos (units b) with zero | positive
    · rw [zero, Nat.cast_zero, zero_sub, abs_neg, abs_of_nonneg nonneg]
    · have one : (1 : ℚ) ≤ units b := Nat.one_le_cast.mpr positive
      exact le_abs.mpr (.inl (by linarith))
  even _ _ _ := rfl

section

variable {num den bits : Nat}

/-- There is an answer just below the limit. -/
theorem nearestBits?_eq_none_iff (positive : 0 < den) :
    nearestBits? num den = none ↔ (limit : ℚ) ≤ (num : ℚ) / den := by
  rw [le_div_iff₀ (Nat.cast_pos.mpr positive), ← Nat.cast_mul, Nat.cast_le]
  rcases Nat.eq_zero_or_pos num with rfl | some
  · rw [nearestBits?_zero]
    have above : 0 < limit * den := Nat.mul_pos (by decide +kernel) positive
    exact iff_of_false (Option.some_ne_none _) (Nat.not_le.mpr above)
  · obtain ⟨place, -, last⟩ := isLastBit_lastBit some positive
    rw [nearestBits?_eq some positive last, ← Nat.not_lt, ← last.lt_iff positive]
    simp only [mantissaAt, ite_eq_right_iff, reduceCtorEq, imp_false]

/-- **The bits found are the nearest ones.** -/
theorem nearestBits_of_nearestBits? (positive : 0 < den)
    (found : nearestBits? num den = some bits) :
    bits < 2047 * 2 ^ 52 ∧ NearestBits ((num : ℚ) / den * unitsPerOne) bits := by
  rcases Nat.eq_zero_or_pos num with rfl | some
  · rw [nearestBits?_zero, Option.some.injEq] at found
    rw [← found, Nat.cast_zero, zero_div, zero_mul]
    exact ⟨by decide, nearestBits_zero le_rfl (by norm_num)⟩
  · obtain ⟨place, -, last⟩ := isLastBit_lastBit some positive
    rw [nearestBits?_eq some positive last] at found
    simp only [Option.ite_none_right_eq_some, Option.some.injEq] at found
    obtain ⟨below, rfl⟩ := found
    have nearest := last.nearestBits positive
    rw [Nat.cast_mul, mul_div_right_comm] at nearest
    exact ⟨below, nearest⟩

end

section

variable {digits bits : Nat} {exponent : Int}

/-- A decimal number is a fraction. -/
theorem decimal_eq_div (digits : Nat) (exponent : Int) :
    (digits : ℚ) * 10 ^ exponent =
      ((digits * 10 ^ exponent.toNat : Nat) : ℚ) / (10 ^ (-exponent).toNat : Nat) := by
  have power : (10 : ℚ) ^ exponent = 10 ^ exponent.toNat / 10 ^ (-exponent).toNat := by
    rw [← zpow_natCast, ← zpow_natCast, ← zpow_sub₀ (by norm_num)]
    exact congrArg _ (by omega)
  rw [power, ← mul_div_assoc]
  push_cast
  rfl

/-- A decimal number lies by the power of ten of its leading digit. -/
theorem decimal_bounds (positive : 0 < digits) :
    (10 : ℚ) ^ ((digitCount digits : Int) + exponent - 1) ≤ digits * 10 ^ exponent ∧
      (digits : ℚ) * 10 ^ exponent < 10 ^ ((digitCount digits : Int) + exponent) := by
  have some_digit := digitCount_pos positive
  have lower := pow_le_of_lt_digitCount positive (Nat.sub_lt some_digit one_pos)
  have upper := lt_pow_digitCount positive
  have power : (0 : ℚ) < 10 ^ exponent := by positivity
  constructor
  · have split : (digitCount digits : Int) + exponent - 1 =
        (digitCount digits - 1 : Nat) + exponent := by
      omega
    rw [split, zpow_add₀ (by norm_num), zpow_natCast]
    exact mul_le_mul_of_nonneg_right (by exact_mod_cast lower) power.le
  · rw [zpow_add₀ (by norm_num), zpow_natCast]
    exact mul_lt_mul_of_pos_right (by exact_mod_cast upper) power

/-- Below this the nearest float is zero. -/
theorem decimal_small (far : (digitCount digits : Int) + exponent < -330) (positive : 0 < digits) :
    (digits : ℚ) * 10 ^ exponent * unitsPerOne ≤ 1 / 2 := by
  have power : (0 : ℚ) < 10 ^ 331 := by positivity
  have units : (unitsPerOne : ℚ) * 2 ≤ 10 ^ 331 := by
    have : unitsPerOne * 2 ≤ 10 ^ 331 := by decide +kernel
    exact_mod_cast this
  have upper : (digits : ℚ) * 10 ^ exponent ≤ 10 ^ (-331 : Int) :=
    (decimal_bounds positive).2.le.trans (zpow_le_zpow_right₀ (by norm_num) (by omega))
  rw [zpow_neg, zpow_ofNat, ← one_div, le_div_iff₀ power] at upper
  rw [le_div_iff₀ two_pos, mul_assoc]
  have nonneg : (0 : ℚ) ≤ digits * 10 ^ exponent := by positivity
  exact (mul_le_mul_of_nonneg_left units nonneg).trans upper

/-- There is an answer just below the limit. -/
theorem nearestDecimal?_eq_none_iff :
    nearestDecimal? digits exponent = none ↔ (limit : ℚ) ≤ digits * 10 ^ exponent := by
  have above : (1 : ℚ) ≤ limit := Nat.one_le_cast.mpr (by decide +kernel)
  rcases Nat.eq_zero_or_pos digits with rfl | positive
  · rw [Nat.cast_zero, zero_mul]
    exact iff_of_false (Option.some_ne_none _) (not_le.mpr (by linarith))
  rcases Int.lt_or_le 310 ((digitCount digits : Int) + exponent) with beyond | reach
  · rw [nearestDecimal?, if_neg (Nat.ne_of_gt positive), if_pos beyond]
    have lower : (10 : ℚ) ^ (310 : Int) ≤ digits * 10 ^ exponent :=
      (zpow_le_zpow_right₀ (by norm_num) (by omega)).trans (decimal_bounds positive).1
    have power : limit ≤ 10 ^ 310 := by decide +kernel
    rw [zpow_ofNat] at lower
    exact iff_of_true rfl (le_trans (by exact_mod_cast power) lower)
  rcases Int.lt_or_le ((digitCount digits : Int) + exponent) (-330) with far | near
  · rw [nearestDecimal?, if_neg (Nat.ne_of_gt positive), if_neg (Int.not_lt.mpr reach), if_pos far]
    have small := decimal_small far positive
    have unit : (1 : ℚ) ≤ unitsPerOne := Nat.one_le_cast.mpr unitsPerOne_pos
    have nonneg : (0 : ℚ) ≤ digits * 10 ^ exponent := by positivity
    have less := (le_mul_of_one_le_right nonneg unit).trans small
    exact iff_of_false (Option.some_ne_none _) (not_le.mpr (by linarith))
  · rw [nearestDecimal?_eq positive reach near, decimal_eq_div,
      nearestBits?_eq_none_iff (Nat.pow_pos (by decide))]

/-- **The bits found for a decimal number are the nearest ones.** -/
theorem nearestBits_of_nearestDecimal? (found : nearestDecimal? digits exponent = some bits) :
    bits < 2047 * 2 ^ 52 ∧ NearestBits ((digits : ℚ) * 10 ^ exponent * unitsPerOne) bits := by
  rcases Nat.eq_zero_or_pos digits with rfl | positive
  · rw [nearestDecimal?, if_pos rfl, Option.some.injEq] at found
    rw [← found, Nat.cast_zero, zero_mul, zero_mul]
    exact ⟨by decide, nearestBits_zero le_rfl (by norm_num)⟩
  rcases Int.lt_or_le 310 ((digitCount digits : Int) + exponent) with beyond | reach
  · rw [nearestDecimal?, if_neg (Nat.ne_of_gt positive), if_pos beyond] at found
    cases found
  rcases Int.lt_or_le ((digitCount digits : Int) + exponent) (-330) with far | near
  · rw [nearestDecimal?, if_neg (Nat.ne_of_gt positive), if_neg (Int.not_lt.mpr reach), if_pos far,
      Option.some.injEq] at found
    have nonneg : (0 : ℚ) ≤ digits * 10 ^ exponent := by positivity
    rw [← found]
    exact ⟨by decide, nearestBits_zero (mul_nonneg nonneg (Nat.cast_nonneg unitsPerOne))
      (decimal_small far positive)⟩
  · rw [nearestDecimal?_eq positive reach near] at found
    rw [decimal_eq_div]
    exact nearestBits_of_nearestBits? (Nat.pow_pos (by decide)) found

end

/-! ### Signs -/

/-- The number with this sign. -/
def signed (negative : Bool) (q : ℚ) : ℚ :=
  if negative then -q else q

theorem signed_involutive (negative : Bool) : Function.Involutive (signed negative) := by
  intro q
  cases negative with
  | true => exact neg_neg q
  | false => rfl

theorem abs_signed_sub (negative : Bool) (a b : ℚ) :
    |signed negative a - signed negative b| = |a - b| := by
  cases negative with
  | true => rw [signed, signed, if_pos rfl, if_pos rfl, ← neg_sub', abs_neg]
  | false => rfl

theorem abs_signed_not_sub (negative : Bool) (a b : ℚ) :
    |signed (!negative) a - signed negative b| = |a + b| := by
  cases negative with
  | true =>
      change |a - -b| = _
      rw [sub_neg_eq_add]
  | false =>
      change |-a - b| = _
      rw [← neg_add', abs_neg]

/-- A word that does not stand for an undefined result is kept as it is. -/
theorem toBits_ofBits {word : UInt64} (number : word.toNat % 2 ^ 63 ≤ 2047 * 2 ^ 52) :
    (Float.ofBits word).toBits = word := by
  refine UInt64.toBitVec_inj.mp ?_
  change (UnpackedFloat.unpack .binary64 word.toBitVec).pack .binary64 = word.toBitVec
  rw [pack_unpack, if_neg]
  rw [isNaNBits, decide_eq_true_eq]
  rintro ⟨full, some_bit⟩
  have field := toNat_unpackExponent (b := word.toBitVec)
  have fraction := toNat_unpackMantissa (b := word.toBitVec)
  rw [full] at field
  change 2047 = word.toNat / 2 ^ 52 % 2 ^ 11 at field
  change _ = word.toNat % 2 ^ 52 at fraction
  have some_bit : (@unpackMantissa .binary64 word.toBitVec).toNat ≠ 0 :=
    fun zero => some_bit (BitVec.toNat_inj.mp zero)
  omega

/-- A finite float has the sign and the other bits that it is made of. -/
theorem bits_ofUnsignedBits (negative : Bool) {bits : Nat} (below : bits < 2047 * 2 ^ 52) :
    (ofUnsignedBits negative bits).isFinite = true ∧
      isNegative (ofUnsignedBits negative bits) = negative ∧
      unsignedBits (ofUnsignedBits negative bits) = bits := by
  obtain ⟨word, joined⟩ :
      ∃ word, word = (if negative then (1 <<< 63) + bits else bits : Nat) := ⟨_, rfl⟩
  have range : word < 2 ^ 64 ∧ word % 2 ^ 63 = bits ∧ (2 ^ 63 ≤ word ↔ negative = true) := by
    rw [joined, Nat.one_shiftLeft]
    cases negative with
    | true =>
        rw [if_pos rfl]
        exact ⟨by omega, by omega, iff_of_true (by omega) rfl⟩
    | false =>
        rw [if_neg Bool.false_ne_true]
        exact ⟨by omega, by omega, iff_of_false (by omega) Bool.false_ne_true⟩
  have kept : (UInt64.ofNat word).toNat = word := UInt64.toNat_ofNat_of_lt' range.1
  have bits_eq : (ofUnsignedBits negative bits).toBits.toNat = word := by
    rw [ofUnsignedBits, ← joined, toBits_ofBits (by rw [kept]; omega), kept]
  have unsigned : unsignedBits (ofUnsignedBits negative bits) = bits := by
    rw [unsignedBits, bits_eq, Nat.one_shiftLeft, range.2.1]
  refine ⟨isFinite_iff.mpr (unsigned.symm ▸ below), ?_, unsigned⟩
  rw [isNegative, bits_eq, Nat.one_shiftLeft, Bool.eq_iff_iff, decide_eq_true_eq]
  exact range.2.2

/-! ### The nearest float -/

variable {x y : Float} {q : ℚ}

theorem unitsPerOne_cast : (unitsPerOne : ℚ) = 2 ^ 1074 := by
  rw [unitsPerOne, Nat.cast_pow, Nat.cast_ofNat]

theorem exactValue_eq_signed (finite : x.isFinite = true) :
    exactValue x = signed (isNegative x) (units (unsignedBits x) / unitsPerOne) := by
  rw [exactValue_eq finite, unitsPerOne_cast, signOf, signed]
  cases isNegative x with
  | true =>
      simp only [if_true, Sign.apply]
      rw [Int.cast_neg, Int.cast_natCast, neg_div]
  | false =>
      simp only [Bool.false_eq_true, if_false, Sign.apply]
      rw [Int.cast_natCast]

/-- How far a float is from a number, in units of the least place. -/
theorem abs_exactValue_sub (finite : x.isFinite = true) (q : ℚ) :
    |exactValue x - signed (isNegative x) q| =
      |(units (unsignedBits x) : ℚ) - q * unitsPerOne| / unitsPerOne := by
  have unit : (0 : ℚ) < unitsPerOne := Nat.cast_pos.mpr unitsPerOne_pos
  rw [exactValue_eq_signed finite, abs_signed_sub, ← mul_div_cancel_right₀ q unit.ne', ← sub_div,
    abs_div, abs_of_pos unit, mul_div_cancel_right₀ q unit.ne']

/-- A float with the other sign is on the other side of zero. -/
theorem abs_exactValue_sub_of_ne (finite : x.isFinite = true) {negative : Bool} (nonneg : 0 ≤ q)
    (other : isNegative x ≠ negative) : |exactValue x - signed negative q| =
      ((units (unsignedBits x) : ℚ) + q * unitsPerOne) / unitsPerOne := by
  have unit : (0 : ℚ) < unitsPerOne := Nat.cast_pos.mpr unitsPerOne_pos
  rw [exactValue_eq_signed finite, Bool.eq_not.mpr other, abs_signed_not_sub,
    abs_of_nonneg (add_nonneg (div_nonneg (Nat.cast_nonneg _) unit.le) nonneg), add_div,
    mul_div_cancel_right₀ q unit.ne']

/-- A finite float that no other one is nearer to the number than, with an even mantissa where
another one is as near. -/
structure IsNearest (q : ℚ) (x : Float) : Prop where
  finite : x.isFinite = true
  least : ∀ {y : Float}, y.isFinite = true → |exactValue x - q| ≤ |exactValue y - q|
  even : ∀ {y : Float}, y.isFinite = true → |exactValue y - q| = |exactValue x - q| →
    exactValue y ≠ exactValue x → unsignedBits x % 2 = 0

/-- The nearest bits with the sign of a number make the nearest float. -/
theorem NearestBits.isNearest (finite : x.isFinite = true) (nonneg : 0 ≤ q)
    (nearest : NearestBits (q * unitsPerOne) (unsignedBits x)) :
    IsNearest (signed (isNegative x) q) x := by
  have unit : (0 : ℚ) < unitsPerOne := Nat.cast_pos.mpr unitsPerOne_pos
  have scaled : 0 ≤ q * unitsPerOne := mul_nonneg nonneg unit.le
  have zero := nearest.least 0
  have even_zero := nearest.even 0
  rw [units_zero, Nat.cast_zero, zero_sub, abs_neg, abs_of_nonneg scaled] at zero even_zero
  refine ⟨finite, fun {y} finite' => ?_, fun {y} finite' tie different => ?_⟩
  · rw [abs_exactValue_sub finite]
    by_cases same : isNegative y = isNegative x
    · rw [← same, abs_exactValue_sub finite', div_le_div_iff_of_pos_right unit]
      exact nearest.least _
    · rw [abs_exactValue_sub_of_ne finite' nonneg same, div_le_div_iff_of_pos_right unit]
      exact zero.trans (le_add_of_nonneg_left (Nat.cast_nonneg _))
  · rw [abs_exactValue_sub finite] at tie
    by_cases same : isNegative y = isNegative x
    · rw [← same, abs_exactValue_sub finite', div_left_inj' unit.ne'] at tie
      refine nearest.even _ tie fun equal => different ?_
      rw [exactValue_eq_signed finite, exactValue_eq_signed finite', same, equal]
    · -- Both are as near as zero, and the other float is zero.
      rw [abs_exactValue_sub_of_ne finite' nonneg same, div_left_inj' unit.ne'] at tie
      have none : (units (unsignedBits y) : ℚ) = 0 :=
        le_antisymm (by linarith) (Nat.cast_nonneg _)
      rw [none, zero_add] at tie
      refine even_zero tie fun equal => different ?_
      rw [exactValue_eq_signed finite, exactValue_eq_signed finite', none, ← equal, Nat.cast_zero,
        zero_div]
      cases isNegative x <;> cases isNegative y <;> simp [signed]

/-- Between two numbers that are equally far from a third one, each is nearer to it. -/
theorem abs_sub_lt_of_between {a b c q : ℚ} (above : a < c) (below : c < b)
    (same : |a - q| = |b - q|) : |c - q| < |a - q| := by
  rcases abs_eq_abs.mp same with equal | opposite
  · linarith
  · rw [abs_lt, abs_of_neg (by linarith)]
    exact ⟨by linarith, by linarith⟩

/-- **There is only one nearest float with a sign.** -/
theorem IsNearest.unique (first : IsNearest q x) (second : IsNearest q y)
    (sign : isNegative x = isNegative y) : x = y := by
  wlog order : unsignedBits x ≤ unsignedBits y generalizing x y
  · exact (this second first sign.symm (Nat.le_of_not_le order)).symm
  obtain ⟨p, rfl⟩ : ∃ p, q = signed (isNegative x) p :=
    ⟨signed (isNegative x) q, (signed_involutive _ q).symm⟩
  have unit : (0 : ℚ) < unitsPerOne := Nat.cast_pos.mpr unitsPerOne_pos
  rcases Nat.lt_or_eq_of_le order with less | equal
  · exfalso
    have same : |exactValue x - signed (isNegative x) p| =
        |exactValue y - signed (isNegative x) p| :=
      le_antisymm (first.least second.finite) (second.least first.finite)
    have different : exactValue x ≠ exactValue y := by
      rw [exactValue_eq_signed first.finite, exactValue_eq_signed second.finite, ← sign,
        (signed_involutive _).injective.ne_iff, ne_eq, div_left_inj' unit.ne', Nat.cast_inj]
      exact (units_strictMono less).ne
    have even := first.even second.finite same.symm different.symm
    have even' := second.even first.finite same different
    -- Both are even, so there is a float between them.
    have between : unsignedBits x + 1 < 2047 * 2 ^ 52 := by
      have := isFinite_iff.mp second.finite
      omega
    obtain ⟨finite, negative, bits⟩ := bits_ofUnsignedBits (isNegative x) between
    have nearer := first.least finite
    have distance := negative ▸ abs_exactValue_sub finite p
    have distance_y := sign ▸ abs_exactValue_sub second.finite p
    rw [distance_y, abs_exactValue_sub first.finite, div_left_inj' unit.ne'] at same
    rw [distance, abs_exactValue_sub first.finite, div_le_div_iff_of_pos_right unit, bits] at nearer
    refine absurd nearer
      (not_le.mpr (abs_sub_lt_of_between (b := units (unsignedBits y)) ?_ ?_ same))
    · exact Nat.cast_lt.mpr (units_strictMono (Nat.lt_succ_self _))
    · exact Nat.cast_lt.mpr (units_strictMono (by omega))
  · exact eq_of_unsignedBits sign equal

/-- **A decimal number is read as the nearest float**, if it is below the limit. -/
theorem toFloat?_eq_some_iff {negative : Bool} {digits : Nat} {exponent : Int} :
    toFloat? negative digits exponent = some x ↔ (digits : ℚ) * 10 ^ exponent < limit ∧
      IsNearest (signed negative (digits * 10 ^ exponent)) x ∧ isNegative x = negative := by
  have nonneg : (0 : ℚ) ≤ digits * 10 ^ exponent := by positivity
  rw [toFloat?]
  cases found : nearestDecimal? digits exponent with
  | none =>
      have beyond := nearestDecimal?_eq_none_iff.mp found
      exact iff_of_false (Option.some_ne_none x).symm fun below => absurd below.1 (not_lt.mpr beyond)
  | some bits =>
      have below : (digits : ℚ) * 10 ^ exponent < limit := by
        rw [← not_le, ← nearestDecimal?_eq_none_iff, found]
        exact Option.some_ne_none bits
      obtain ⟨range, nearest⟩ := nearestBits_of_nearestDecimal? found
      obtain ⟨finite, sign, unsigned⟩ := bits_ofUnsignedBits negative range
      have made := NearestBits.isNearest finite nonneg (unsigned.symm ▸ nearest)
      rw [sign] at made
      rw [Option.map_some, Option.some.injEq]
      constructor
      · rintro rfl
        exact ⟨below, made, sign⟩
      · rintro ⟨-, other, sign'⟩
        exact made.unique other (sign.trans sign'.symm)

end Metering.Decimal
