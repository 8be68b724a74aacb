import Mathlib
import Metering.Series.Arithmetic

/-!
The sign of a rounded difference.

A finite number is a whole mantissa with at most 53 bits times a power of two, and its mantissa is
full unless its exponent is the least one (`Proper`). So the exponents order such numbers before the
mantissas do (`compare_then_eq`), and rounding, which never drops the leading bit of a mantissa
(`shiftToTargetExponent_bounds`), never turns a difference into zero. Together this gives
`zero_le_sub_iff`: a difference of finite numbers is not negative just if the first one is at
least the second, even where it overflows.

Packed floats are read by lemmas of Batteries that only the whole of Mathlib imports.
-/

namespace Metering.Series.Binary64

open Float.Model Float.Model.UnpackedFloat

/-! ### Mantissas and exponents -/

/-- What holds of the mantissa and the exponent of a finite number. -/
structure Proper (m : Nat) (e : Int) : Prop where
  upper : m < 2 ^ 53
  floor : -1074 ≤ e
  lower : 2 ^ 52 ≤ m ∨ e = -1074

/-- The mantissa of a normal number has its leading bit in front. -/
theorem toNat_implicit_append (m : BitVec 52) : (1#1 ++ m).toNat = 2 ^ 52 + m.toNat := by
  rw [BitVec.toNat_append, ← Nat.shiftLeft_add_eq_or_of_lt m.isLt, Nat.shiftLeft_eq]
  rfl

theorem proper_of_unpack {b : BitVec Format.binary64.numBits} {s : Sign} {m : Nat} {e : Int}
    {pos : 0 < m} (unpacked : UnpackedFloat.unpack .binary64 b = .finite s m e pos) :
    Proper m e := by
  have bound : (unpackMantissa b).toNat < 2 ^ 52 := (unpackMantissa b).isLt
  have bias : ((Format.binary64.exponentBias : Nat) : Int) = 1023 := rfl
  simp only [UnpackedFloat.unpack] at unpacked
  split at unpacked
  · split at unpacked <;> cases unpacked
  · split at unpacked
    · split at unpacked
      · cases unpacked
      · rename_i exponent_zero _
        simp only [finite.injEq] at unpacked
        obtain ⟨-, rfl, rfl⟩ := unpacked
        have zero : (unpackExponent b).toNat = 0 := by rw [exponent_zero]; rfl
        refine ⟨by omega, ?_, .inr ?_⟩ <;> rw [zero, bias] <;> decide
    · rename_i exponent_ne
      simp only [finite.injEq] at unpacked
      obtain ⟨-, rfl, rfl⟩ := unpacked
      have mantissa := toNat_implicit_append (unpackMantissa b)
      have one : 1 ≤ (unpackExponent b).toNat := by
        refine Nat.one_le_iff_ne_zero.mpr fun zero => exponent_ne (BitVec.toNat_inj.mp zero)
      refine ⟨by omega, ?_, .inl (by omega)⟩
      rw [bias]
      omega

/-! ### Rounding -/

theorem mantissa_shiftRight (em : ExtendedMantissa) (n : Nat) :
    (em >>> n).mantissa = em.mantissa / 2 ^ n := by
  change (n.repeat ExtendedMantissa.shiftRightOne em).mantissa = _
  induction n with
  | zero => exact (Nat.div_one _).symm
  | succ n ih =>
      change (n.repeat ExtendedMantissa.shiftRightOne em).mantissa / 2 = _
      rw [ih, Nat.div_div_eq_div_mul, ← Nat.pow_succ]

theorem mantissa_ofMantissaAndAccuracy (m : Nat) (accuracy : Accuracy) :
    (ExtendedMantissa.ofMantissaAndAccuracy m accuracy).mantissa = m := by
  rcases accuracy with _ | _ | _ | _ <;> rfl

theorem le_roundedMantissa (em : ExtendedMantissa) : em.mantissa ≤ em.roundedMantissa := by
  rcases em with ⟨m, _ | _, _ | _⟩
  · exact Nat.le_refl m
  · exact Nat.le_refl m
  · exact Nat.le_add_right m _
  · exact Nat.le_add_right m _

/-- Shifting a number above the least exponent leaves at most 53 bits, and never drops all of
them. -/
theorem shiftToTargetExponent_bounds {m : Nat} {e : Int} (pos : 0 < m) (floor : -1074 ≤ e)
    (accuracy : Accuracy) :
    0 < (shiftToTargetExponent .binary64 m e accuracy).1.mantissa ∧
      (shiftToTargetExponent .binary64 m e accuracy).1.mantissa < 2 ^ 53 ∧
      -1074 ≤ (shiftToTargetExponent .binary64 m e accuracy).2 := by
  have amount : (Format.binary64.targetExponent (totalExponent m e) - e).toNat =
      m.log2 - 52 := by
    change (max ((m.log2 : Int) + 1 + e - (53 : Nat)) (-1074) - e).toNat = _
    omega
  have mantissa : (shiftToTargetExponent .binary64 m e accuracy).1.mantissa =
      m / 2 ^ (m.log2 - 52) := by
    simp only [shiftToTargetExponent, shiftToExponent, mantissa_shiftRight, amount,
      mantissa_ofMantissaAndAccuracy]
  have lower : 2 ^ m.log2 ≤ m := Nat.log2_self_le (Nat.ne_of_gt pos)
  have upper : m < 2 ^ (m.log2 + 1) := Nat.lt_log2_self
  rw [mantissa]
  refine ⟨?_, ?_, ?_⟩
  · refine Nat.div_pos (Nat.le_trans ?_ lower) (Nat.two_pow_pos _)
    exact Nat.pow_le_pow_right (by decide) (Nat.sub_le _ _)
  · rw [Nat.div_lt_iff_lt_mul (Nat.two_pow_pos _), ← Nat.pow_add]
    refine Nat.lt_of_lt_of_le upper (Nat.pow_le_pow_right (by decide) ?_)
    omega
  · change -1074 ≤ e + ((Format.binary64.targetExponent (totalExponent m e) - e).toNat : Int)
    omega

theorem roundWithAccuracy_eq_finite (s : Sign) {m : Nat} {e : Int} (pos : 0 < m)
    (floor : -1074 ≤ e) (accuracy : Accuracy) :
    ∃ m' e' pos', roundWithAccuracy .binary64 s m e accuracy = .finite s m' e' pos' ∧
      m' < 2 ^ 53 ∧ -1074 ≤ e' := by
  obtain ⟨pos₁, -, floor₁⟩ := shiftToTargetExponent_bounds pos floor accuracy
  have rounded := Nat.lt_of_lt_of_le pos₁ (le_roundedMantissa _)
  obtain ⟨pos₂, upper₂, floor₂⟩ := shiftToTargetExponent_bounds rounded floor₁ .exact
  refine ⟨_, _, pos₂, ?_, upper₂, floor₂⟩
  simp only [roundWithAccuracy]
  rw [dif_neg (Nat.ne_of_gt pos₂)]

/-- A number that is not zero is not rounded to zero, and keeps its sign. -/
theorem round_eq_finite (s : Sign) {m : Nat} {e : Int} (pos : 0 < m) (floor : -1074 ≤ e) :
    ∃ m' e' pos', UnpackedFloat.round .binary64 s m e = .finite s m' e' pos' ∧
      m' < 2 ^ 53 ∧ -1074 ≤ e' := by
  have target : -1074 ≤ Format.binary64.targetExponent (totalExponent m e) :=
    Int.le_max_right _ _
  have pos' : 0 < m <<< (e - Format.binary64.targetExponent (totalExponent m e)).toNat := by
    rw [Nat.shiftLeft_eq]
    exact Nat.mul_pos pos (Nat.two_pow_pos _)
  exact roundWithAccuracy_eq_finite s pos' (by omega) .exact

/-! ### Packing -/

/-- A field holds a number that fits in it as it is. -/
theorem ofNat_ne {bits n : Nat} {field : BitVec bits} (fits : n < 2 ^ bits)
    (different : n ≠ field.toNat) : BitVec.ofNat bits n ≠ field := by
  rintro rfl
  rw [BitVec.toNat_ofNat, Nat.mod_eq_of_lt fits] at different
  exact different rfl

/-- Packing a finite number keeps its sign and does not make it zero; the number may become
infinite. -/
theorem unpack_pack_finite (s : Sign) {m : Nat} {e : Int} (pos : 0 < m) (upper : m < 2 ^ 53)
    (floor : -1074 ≤ e) :
    UnpackedFloat.unpack .binary64 (UnpackedFloat.pack .binary64 (.finite s m e pos)) =
        .infinity s ∨
      ∃ m' e' pos', UnpackedFloat.unpack .binary64
        (UnpackedFloat.pack .binary64 (.finite s m e pos)) = .finite s m' e' pos' := by
  have biased : (e + Format.binary64.exponentBias +
      Format.binary64.mantissaBitsWithoutImplicit).toNat = (e + 1075).toNat := by
    change (e + (1023 : Nat) + (52 : Nat)).toNat = _
    omega
  simp only [UnpackedFloat.pack, biased]
  by_cases large : 2 ^ 11 ≤ (e + 1075).toNat + 1
  · left
    rw [if_pos large]
    cases s <;> rfl
  · right
    rw [if_neg large]
    have not_special : BitVec.ofNat 11 (e + 1075).toNat ≠ -1#11 := by
      refine ofNat_ne (by omega) ?_
      change _ ≠ 2047
      omega
    have not_zero : BitVec.ofNat 11 (e + 1075).toNat ≠ 0#11 := by
      refine ofNat_ne (by omega) ?_
      change _ ≠ 0
      omega
    by_cases normal : m.log2 + 1 = Format.binary64.mantissaBits
    · rw [if_pos normal]
      simp only [UnpackedFloat.unpack, unpackMantissa_packComponents,
        unpackExponent_packComponents, unpackSign_packComponents, Sign.ofBitVec_toBitVec]
      rw [if_neg not_special, if_neg not_zero]
      exact ⟨_, _, by rw [toNat_implicit_append]; omega, rfl⟩
    · rw [if_neg normal]
      have bits : m.log2 < 53 := (Nat.log2_lt (Nat.ne_of_gt pos)).mpr upper
      have below : m < 2 ^ 52 := by
        change ¬ m.log2 + 1 = 53 at normal
        exact (Nat.log2_lt (Nat.ne_of_gt pos)).mp (by omega)
      have mantissa : BitVec.ofNat 52 m ≠ 0#52 := ofNat_ne below (Nat.ne_of_gt pos)
      simp only [UnpackedFloat.unpack, unpackMantissa_packComponents,
        unpackExponent_packComponents, unpackSign_packComponents, Sign.ofBitVec_toBitVec]
      rw [if_neg (by decide), if_pos trivial, dif_neg mantissa]
      exact ⟨_, _, BitVec.toNat_pos_of_ne_zero mantissa, rfl⟩

/-! ### Comparing -/

/-- Finite mantissas are compared at the lesser of their exponents, as a difference does it. -/
theorem compare_then_eq {m₁ m₂ : Nat} {e₁ e₂ : Int} (first : Proper m₁ e₁) (second : Proper m₂ e₂) :
    (compare e₁ e₂).then (compare m₁ m₂) =
      compare (m₁ <<< (e₁ - min e₁ e₂).toNat) (m₂ <<< (e₂ - min e₁ e₂).toNat) := by
  -- The mantissa with the larger exponent is full, so shifting it puts it above the other one.
  have shorter : ∀ {m m' k : Nat}, m < 2 ^ 53 → 2 ^ 52 ≤ m' → 0 < k → m < m' <<< k := by
    intro m m' k upper lower some_bits
    have two : 2 ^ 1 ≤ 2 ^ k := Nat.pow_le_pow_right (by decide) some_bits
    rw [Nat.shiftLeft_eq]
    calc m < 2 ^ 52 * 2 ^ 1 := upper
      _ ≤ m' * 2 ^ k := Nat.mul_le_mul lower two
  rcases Int.lt_trichotomy e₁ e₂ with less | rfl | greater
  · have lower : 2 ^ 52 ≤ m₂ := second.lower.resolve_right (by have := first.floor; omega)
    have shifted : m₁ < m₂ <<< (e₂ - e₁).toNat := shorter first.upper lower (by omega)
    rw [Int.min_eq_left (Int.le_of_lt less), Int.sub_self, Int.compare_eq_lt.mpr less]
    exact (Nat.compare_eq_lt.mpr shifted).symm
  · rw [Int.min_self, Int.sub_self, Int.compare_eq_eq.mpr rfl]
    rfl
  · have lower : 2 ^ 52 ≤ m₁ := first.lower.resolve_right (by have := second.floor; omega)
    have shifted : m₂ < m₁ <<< (e₁ - e₂).toNat := shorter second.upper lower (by omega)
    rw [Int.min_eq_right (Int.le_of_lt greater), Int.sub_self, Int.compare_eq_gt.mpr greater]
    exact (Nat.compare_eq_gt.mpr shifted).symm

/-- Two finite numbers stand as the mantissas that a difference subtracts. -/
theorem le_finite_iff {s₁ s₂ : Sign} {m₁ m₂ : Nat} {e₁ e₂ : Int} (pos₁ : 0 < m₁) (pos₂ : 0 < m₂)
    (first : Proper m₁ e₁) (second : Proper m₂ e₂) :
    UnpackedFloat.le (.finite s₁ m₁ e₁ pos₁) (.finite s₂ m₂ e₂ pos₂) = true ↔
      0 ≤ s₂.apply (m₂ <<< (e₂ - min e₁ e₂).toNat : Nat) -
        s₁.apply (m₁ <<< (e₁ - min e₁ e₂).toNat : Nat) := by
  have compared := compare_then_eq first second
  have shifted : ∀ {m : Nat}, 0 < m → ∀ k, 0 < m <<< k := by
    intro m pos k
    rw [Nat.shiftLeft_eq]
    exact Nat.mul_pos pos (Nat.two_pow_pos k)
  have pos₁ := shifted pos₁ (e₁ - min e₁ e₂).toNat
  have pos₂ := shifted pos₂ (e₂ - min e₁ e₂).toNat
  generalize m₁ <<< (e₁ - min e₁ e₂).toNat = n₁ at *
  generalize m₂ <<< (e₂ - min e₁ e₂).toNat = n₂ at *
  rcases s₁ with _ | _ <;> rcases s₂ with _ | _
  · simp only [UnpackedFloat.le, UnpackedFloat.compare, compared, Option.any_some, Sign.apply]
    rw [Nat.compare_swap, Nat.isLE_compare]
    omega
  · simp only [UnpackedFloat.le, UnpackedFloat.compare, Option.any_some, Sign.apply]
    constructor
    · omega
    · intro; rfl
  · simp only [UnpackedFloat.le, UnpackedFloat.compare, Option.any_some, Sign.apply]
    constructor
    · intro h; cases h
    · omega
  · simp only [UnpackedFloat.le, UnpackedFloat.compare, compared, Option.any_some, Sign.apply]
    rw [Nat.isLE_compare]
    omega

/-! ### Differences -/

/-- A packed finite number is not negative just if its sign is positive. -/
theorem zero_le_pack_finite (s : Sign) {m : Nat} {e : Int} (pos : 0 < m) (upper : m < 2 ^ 53)
    (floor : -1074 ≤ e) :
    UnpackedFloat.le (.zero .positive)
      (UnpackedFloat.unpack .binary64 (UnpackedFloat.pack .binary64 (.finite s m e pos))) = true ↔
      s = .positive := by
  rcases unpack_pack_finite s pos upper floor with infinite | ⟨m', e', pos', stays⟩
  · rw [infinite]
    cases s <;> simp [UnpackedFloat.le, UnpackedFloat.compare]
  · rw [stays]
    cases s <;> simp [UnpackedFloat.le, UnpackedFloat.compare]

/-- The rounded and packed value of a mantissa is not negative just if the mantissa is not. -/
theorem zero_le_pack_normalize (m : Int) {e : Int} (floor : -1074 ≤ e) :
    UnpackedFloat.le (.zero .positive) (UnpackedFloat.unpack .binary64
      (UnpackedFloat.pack .binary64 (UnpackedFloat.normalize .binary64 m e .positive))) = true ↔
      0 ≤ m := by
  rcases Int.lt_trichotomy m 0 with negative | rfl | positive
  · obtain ⟨m', e', pos, rounded, upper, floor'⟩ :=
      round_eq_finite .negative (m := (-m).toNat) (by omega) floor
    rw [UnpackedFloat.normalize, Int.compare_eq_lt.mpr negative]
    simp only [rounded]
    rw [zero_le_pack_finite _ pos upper floor']
    constructor
    · intro h; cases h
    · omega
  · have zero : UnpackedFloat.le (.zero .positive) (UnpackedFloat.unpack .binary64
        (UnpackedFloat.pack .binary64 (.zero .positive))) = true := by decide
    rw [UnpackedFloat.normalize, Int.compare_eq_eq.mpr rfl]
    exact ⟨fun _ => Int.le_refl 0, fun _ => zero⟩
  · obtain ⟨m', e', pos, rounded, upper, floor'⟩ :=
      round_eq_finite .positive (m := m.toNat) (by omega) floor
    rw [UnpackedFloat.normalize, Int.compare_eq_gt.mpr positive]
    simp only [rounded]
    rw [zero_le_pack_finite _ pos upper floor']
    constructor
    · omega
    · intro; rfl

theorem float_le_iff {a b : Float} :
    a ≤ b ↔ UnpackedFloat.le a.toModel.unpack b.toModel.unpack = true := by
  change decide (a.toModel ≤ b.toModel) = true ↔ _
  rw [decide_eq_true_iff]
  rfl

theorem unpack_of_isFinite {a : Float} (finite : a.isFinite = true) :
    (∃ s, a.toModel.unpack = .zero s) ∨
      ∃ s m e pos, a.toModel.unpack = .finite s m e pos ∧ Proper m e := by
  change UnpackedFloat.isFinite a.toModel.unpack = true at finite
  cases unpacked : a.toModel.unpack with
  | infinity s => rw [unpacked] at finite; cases finite
  | notANumber => rw [unpacked] at finite; cases finite
  | zero s => exact .inl ⟨s, rfl⟩
  | finite s m e pos => exact .inr ⟨s, m, e, pos, rfl, proper_of_unpack unpacked⟩

theorem le_refl_of_isFinite {a : Float} (finite : a.isFinite = true) : a ≤ a := by
  rw [float_le_iff]
  rcases unpack_of_isFinite finite with ⟨s, zero⟩ | ⟨s, m, e, pos, unpacked, proper⟩
  · rw [zero]
    rfl
  · rw [unpacked, le_finite_iff pos pos proper proper]
    omega

theorem float_lt_iff {a b : Float} :
    a < b ↔ UnpackedFloat.compare a.toModel.unpack b.toModel.unpack = some .lt := by
  change decide (a.toModel < b.toModel) = true ↔ _
  rw [decide_eq_true_iff]
  change (UnpackedFloat.compare a.toModel.unpack b.toModel.unpack == some .lt) = true ↔ _
  rw [beq_iff_eq]

/-- Finite numbers can be compared, and the other way round the answer is the opposite. -/
theorem compare_of_isFinite {a b : Float} (finite_a : a.isFinite = true)
    (finite_b : b.isFinite = true) :
    ∃ order, UnpackedFloat.compare a.toModel.unpack b.toModel.unpack = some order ∧
      UnpackedFloat.compare b.toModel.unpack a.toModel.unpack = some order.swap := by
  rcases unpack_of_isFinite finite_a with ⟨s₁, zero_a⟩ | ⟨s₁, m₁, e₁, pos₁, unpack_a, -⟩ <;>
    rcases unpack_of_isFinite finite_b with ⟨s₂, zero_b⟩ | ⟨s₂, m₂, e₂, pos₂, unpack_b, -⟩
  · rw [zero_a, zero_b]
    exact ⟨.eq, rfl, rfl⟩
  · rw [zero_a, unpack_b]
    cases s₂ <;> exact ⟨_, rfl, rfl⟩
  · rw [unpack_a, zero_b]
    cases s₁ <;> exact ⟨_, rfl, rfl⟩
  · rw [unpack_a, unpack_b]
    have swapped : (compare e₂ e₁).then (compare m₂ m₁) =
        ((compare e₁ e₂).then (compare m₁ m₂)).swap := by
      rw [Ordering.swap_then, Int.compare_swap, Nat.compare_swap]
    cases s₁ <;> cases s₂ <;> refine ⟨_, rfl, ?_⟩ <;>
      first | rfl | simp only [UnpackedFloat.compare, swapped]

theorem not_le_iff_lt {a b : Float} (finite_a : a.isFinite = true) (finite_b : b.isFinite = true) :
    ¬ a ≤ b ↔ b < a := by
  obtain ⟨order, there, back⟩ := compare_of_isFinite finite_a finite_b
  rw [float_le_iff, float_lt_iff, UnpackedFloat.le, there, back]
  cases order <;> decide

/-- **The sign of a difference.** Rounding never hides which of two finite numbers is the
greater one. -/
theorem zero_le_sub_iff {a b : Float} (finite_a : a.isFinite = true) (finite_b : b.isFinite = true) :
    0 ≤ b - a ↔ a ≤ b := by
  have difference : (b - a).toModel.unpack = UnpackedFloat.unpack .binary64
      (UnpackedFloat.pack .binary64 (UnpackedFloat.sub .binary64 b.toModel.unpack a.toModel.unpack)) :=
    rfl
  have zero : (0 : Float).toModel.unpack = .zero .positive := rfl
  rw [float_le_iff, float_le_iff, difference, zero]
  rcases unpack_of_isFinite finite_a with ⟨s₁, zero_a⟩ | ⟨s₁, m₁, e₁, pos₁, unpack_a, first⟩ <;>
    rcases unpack_of_isFinite finite_b with ⟨s₂, zero_b⟩ | ⟨s₂, m₂, e₂, pos₂, unpack_b, second⟩
  · rw [zero_a, zero_b]
    cases s₁ <;> cases s₂ <;> exact ⟨fun _ => rfl, fun _ => rfl⟩
  · have same : UnpackedFloat.sub .binary64 (.finite s₂ m₂ e₂ pos₂) (.zero s₁) =
        .finite s₂ m₂ e₂ pos₂ := rfl
    rw [zero_a, unpack_b, same, zero_le_pack_finite s₂ pos₂ second.upper second.floor]
    cases s₂ <;> simp [UnpackedFloat.le, UnpackedFloat.compare]
  · have opposite : UnpackedFloat.sub .binary64 (.zero s₂) (.finite s₁ m₁ e₁ pos₁) =
        .finite (-s₁) m₁ e₁ pos₁ := rfl
    rw [unpack_a, zero_b, opposite, zero_le_pack_finite (-s₁) pos₁ first.upper first.floor]
    cases s₁ with
    | negative => exact ⟨fun _ => rfl, fun _ => rfl⟩
    | positive => exact ⟨fun h => (nomatch h), fun h => (nomatch h)⟩
  · rw [unpack_a, unpack_b, le_finite_iff pos₁ pos₂ first second, UnpackedFloat.sub]
    simp only [decreaseExponent]
    rw [zero_le_pack_normalize _ (by have := first.floor; have := second.floor; omega), Int.min_comm]

end Metering.Series.Binary64
