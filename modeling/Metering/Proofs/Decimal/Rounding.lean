import Mathlib.Algebra.Order.Field.Power
import Mathlib.Data.Rat.Floor
import Mathlib.Tactic.NormNum
import Mathlib.Tactic.Positivity
import Mathlib.Tactic.Ring
import Metering.Proofs.Decimal.Value

/-!
Rounded results.

An operation on floats is carried out exactly, and its result is rounded to a mantissa of at most 53
bits. Rounding never takes a result past a number with such a mantissa (`RoundedTo`,
`roundWithAccuracy_roundedTo`), so the product with a factor of at most one is at most the other
factor (`mul_bounds`), and a count is rounded to itself as long as it has at most 53 bits
(`toFloat_bounds`).
-/

namespace Metering.Decimal

open Float.Model Float.Model.UnpackedFloat
open Series (exactValue)
open Series.Binary64

/-! ### Mantissas at two exponents -/

section

variable {m n k : Nat} {e f : Int}

theorem mul_zpow_le_iff (apart : f = e + k) : (m : ℚ) * 2 ^ e ≤ n * 2 ^ f ↔ m ≤ n * 2 ^ k := by
  rw [apart, zpow_add₀ two_ne_zero, zpow_natCast, mul_comm ((2 : ℚ) ^ e), ← mul_assoc,
    mul_le_mul_iff_left₀ (by positivity)]
  exact_mod_cast Iff.rfl

theorem mul_zpow_le_iff' (apart : e = f + k) : (m : ℚ) * 2 ^ e ≤ n * 2 ^ f ↔ m * 2 ^ k ≤ n := by
  rw [apart, zpow_add₀ two_ne_zero, zpow_natCast, mul_comm ((2 : ℚ) ^ f), ← mul_assoc,
    mul_le_mul_iff_left₀ (by positivity)]
  exact_mod_cast Iff.rfl

theorem least_le (pos : 0 < m) (floor : -1074 ≤ e) :
    (1 : Nat) * (2 : ℚ) ^ (-1074 : Int) ≤ m * 2 ^ e :=
  (mul_zpow_le_iff (k := (e + 1074).toNat) (by omega)).mpr
    (Nat.mul_pos pos (Nat.two_pow_pos _))

end

/-! ### Rounding -/

/-- Shifting out zeros leaves nothing to round. -/
theorem shiftRight_mul_two_pow (m k : Nat) :
    (⟨m * 2 ^ k, false, false⟩ : ExtendedMantissa) >>> k = ⟨m, false, false⟩ := by
  change k.repeat ExtendedMantissa.shiftRightOne ⟨m * 2 ^ k, false, false⟩ = _
  induction k generalizing m with
  | zero => rw [Nat.pow_zero, Nat.mul_one]; rfl
  | succ k ih =>
      change ExtendedMantissa.shiftRightOne (k.repeat ExtendedMantissa.shiftRightOne _) = _
      have double : m * 2 ^ (k + 1) = (m * 2) * 2 ^ k := by ring
      rw [double, ih (m * 2)]
      simp only [ExtendedMantissa.shiftRightOne, Nat.mul_div_left m two_pos, Nat.mul_mod_left]
      rfl

theorem roundedMantissa_le (em : ExtendedMantissa) : em.roundedMantissa ≤ em.mantissa + 1 := by
  rcases em with ⟨m, _ | _, _ | _⟩
  · exact Nat.le_succ m
  · exact Nat.le_succ m
  · exact Nat.add_le_add_left (Nat.le_of_lt_succ (Nat.mod_lt m two_pos)) m
  · exact Nat.le_refl (m + 1)

/-- Rounding a shifted mantissa never takes it past a whole number. -/
theorem roundedMantissa_shiftRight {m n k : Nat} (below : m ≤ n * 2 ^ k) :
    ((⟨m, false, false⟩ : ExtendedMantissa) >>> k).roundedMantissa ≤ n := by
  rcases Nat.lt_or_eq_of_le below with less | rfl
  · have quotient : m / 2 ^ k < n := Nat.div_lt_of_lt_mul (by rwa [Nat.mul_comm])
    have step := roundedMantissa_le ((⟨m, false, false⟩ : ExtendedMantissa) >>> k)
    rw [mantissa_shiftRight] at step
    exact Nat.le_trans step quotient
  · rw [shiftRight_mul_two_pow]
    exact Nat.le_refl n

/-- The exponent at which a mantissa has 53 bits, or the least exponent. -/
theorem targetExponent_eq (m : Nat) (e : Int) :
    Format.binary64.targetExponent (totalExponent m e) = max (m.log2 + e - 52) (-1074) := by
  change max ((m.log2 : Int) + 1 + e - (53 : Nat)) (-1074) = _
  omega

/-- A mantissa that was rounded up to the next power of two is shifted once more, and keeps its
value. -/
theorem shiftToTargetExponent_rounded {r : Nat} {e : Int} (upper : r ≤ 2 ^ 53) (floor : -1074 ≤ e)
    (lower : 2 ^ 52 ≤ r ∨ e = -1074) :
    ∃ m' e', (shiftToTargetExponent .binary64 r e .exact).1.mantissa = m' ∧
      (shiftToTargetExponent .binary64 r e .exact).2 = e' ∧ Proper m' e' ∧
      (m' : ℚ) * 2 ^ e' = r * 2 ^ e := by
  simp only [shiftToTargetExponent, shiftToExponent, mantissa_shiftRight,
    mantissa_ofMantissaAndAccuracy, targetExponent_eq]
  refine ⟨_, _, rfl, rfl, ?_⟩
  rcases Nat.lt_or_eq_of_le upper with less | rfl
  · have bits : r.log2 ≤ 52 := by
      rcases Nat.eq_zero_or_pos r with rfl | positive
      · exact Nat.zero_le _
      · exact Nat.le_of_lt_succ ((Nat.log2_lt (Nat.ne_of_gt positive)).mpr less)
    have none : (max ((r.log2 : Int) + e - 52) (-1074) - e).toNat = 0 := by omega
    rw [none, Nat.pow_zero, Nat.div_one, Int.natCast_zero, Int.add_zero]
    exact ⟨⟨less, floor, lower⟩, rfl⟩
  · have one : (max (((2 ^ 53).log2 : Int) + e - 52) (-1074) - e).toNat = 1 := by
      rw [Nat.log2_two_pow]
      omega
    rw [one]
    refine ⟨⟨by decide, by omega, .inl (by decide)⟩, ?_⟩
    rw [zpow_add₀ two_ne_zero]
    norm_num
    ring

/-- A result `m · 2 ^ e` is rounded to `r · 2 ^ t` by dropping `k` of its bits. -/
structure RoundedAt (m : Nat) (e : Int) (r : Nat) (t : Int) (k : Nat) : Prop where
  place : t = e + k
  floor : -1074 ≤ t
  upper : m ≤ 2 ^ 53 * 2 ^ k
  /-- Above the least exponent 53 bits are left. -/
  full : -1074 < t → 2 ^ 52 * 2 ^ k ≤ m
  above : ∀ {n}, m ≤ n * 2 ^ k → r ≤ n
  below : ∀ {n}, n * 2 ^ k ≤ m → n ≤ r

/-- The first shift of a result, whose mantissa has enough bits for it. -/
theorem shiftToTargetExponent_roundedAt {m : Nat} {e : Int} (pos : 0 < m)
    (aligned : 52 ≤ m.log2 ∨ e ≤ -1074) :
    ∃ k, RoundedAt m e (shiftToTargetExponent .binary64 m e .exact).1.roundedMantissa
      (shiftToTargetExponent .binary64 m e .exact).2 k := by
  obtain ⟨t, target⟩ : ∃ t, t = max ((m.log2 : Int) + e - 52) (-1074) := ⟨_, rfl⟩
  have leading : 2 ^ m.log2 ≤ m := Nat.log2_self_le (Nat.ne_of_gt pos)
  have bits : m < 2 ^ (m.log2 + 1) := Nat.lt_log2_self
  refine ⟨(t - e).toNat, ?_⟩
  simp only [shiftToTargetExponent, shiftToExponent, targetExponent_eq, ← target,
    ExtendedMantissa.ofMantissaAndAccuracy]
  refine ⟨rfl, by omega, ?_, fun normal => ?_, roundedMantissa_shiftRight, fun {n} above => ?_⟩
  · refine Nat.le_of_lt (Nat.lt_of_lt_of_le bits ?_)
    rw [← Nat.pow_add]
    exact Nat.pow_le_pow_right two_pos (by omega)
  · rw [← Nat.pow_add]
    exact Nat.le_trans (Nat.pow_le_pow_right two_pos (by omega)) leading
  · refine Nat.le_trans ?_ (le_roundedMantissa _)
    rw [mantissa_shiftRight]
    exact (Nat.le_div_iff_mul_le (Nat.two_pow_pos _)).mpr above

/-- Rounding takes `q` to `r`, and past no number with a mantissa of at most 53 bits. -/
structure RoundedTo (q r : ℚ) : Prop where
  above : ∀ {n : Nat} {f : Int}, n < 2 ^ 53 → -1074 ≤ f → q ≤ n * 2 ^ f → r ≤ n * 2 ^ f
  below : ∀ {n : Nat} {f : Int}, n < 2 ^ 53 → -1074 ≤ f → n * 2 ^ f ≤ q → n * 2 ^ f ≤ r

/-- A number with such a mantissa is rounded to itself. -/
theorem RoundedTo.eq_self {q r : ℚ} {n : Nat} {f : Int} (rounded : RoundedTo q r)
    (fits : n < 2 ^ 53) (floor : -1074 ≤ f) (same : q = n * 2 ^ f) : r = q :=
  same ▸ le_antisymm (rounded.above fits floor same.le) (rounded.below fits floor same.ge)

/-- A result with some bits dropped is on the same side of such numbers. -/
theorem RoundedAt.between {m r k n : Nat} {e t f : Int} (rounded : RoundedAt m e r t k)
    (fits : n < 2 ^ 53) (floor : -1074 ≤ f) :
    ((m : ℚ) * 2 ^ e ≤ n * 2 ^ f → (r : ℚ) * 2 ^ t ≤ n * 2 ^ f) ∧
      ((n : ℚ) * 2 ^ f ≤ m * 2 ^ e → (n : ℚ) * 2 ^ f ≤ r * 2 ^ t) := by
  have place := rounded.place
  rcases Int.lt_or_le f t with finer | coarser
  · -- A number with finer places is below the leading bit of the result.
    obtain ⟨j, apart⟩ : ∃ j : Nat, t = f + (j + 1 : Nat) := ⟨(t - f - 1).toNat, by omega⟩
    have leading := rounded.full (Int.lt_of_le_of_lt floor finer)
    have under : (n : ℚ) * 2 ^ f < (2 ^ 52 : Nat) * 2 ^ t := by
      have small : n < 2 ^ 52 * 2 ^ (j + 1) := by
        refine Nat.lt_of_lt_of_le fits ?_
        rw [← Nat.pow_add]
        exact Nat.pow_le_pow_right two_pos (by omega)
      rw [← not_le, mul_zpow_le_iff' apart]
      exact Nat.not_le.mpr small
    have reached : ((2 ^ 52 : Nat) : ℚ) * 2 ^ t ≤ m * 2 ^ e :=
      (mul_zpow_le_iff' place).mpr leading
    have kept : ((2 ^ 52 : Nat) : ℚ) * 2 ^ t ≤ r * 2 ^ t :=
      mul_le_mul_of_nonneg_right (Nat.cast_le.mpr (rounded.below leading)) (by positivity)
    exact ⟨fun past => absurd (reached.trans past) (not_le.mpr under), fun _ => under.le.trans kept⟩
  · obtain ⟨j, apart⟩ : ∃ j : Nat, f = t + j := ⟨(f - t).toNat, by omega⟩
    rw [mul_zpow_le_iff apart, mul_zpow_le_iff' apart,
      mul_zpow_le_iff (e := e) (k := k + j) (by omega),
      mul_zpow_le_iff' (f := e) (k := k + j) (by omega), Nat.pow_add, Nat.mul_comm (2 ^ k),
      ← Nat.mul_assoc]
    exact ⟨rounded.above, rounded.below⟩

theorem RoundedAt.roundedTo {m r k : Nat} {e t : Int} (rounded : RoundedAt m e r t k) :
    RoundedTo (m * 2 ^ e) (r * 2 ^ t) :=
  ⟨fun fits floor => (rounded.between fits floor).1,
    fun fits floor => (rounded.between fits floor).2⟩

/-- **Rounding keeps the order.** A result that is not too small for a float is rounded to a
proper mantissa. -/
theorem roundWithAccuracy_roundedTo (s : Sign) {m : Nat} {e : Int} (pos : 0 < m)
    (aligned : 52 ≤ m.log2 ∨ e ≤ -1074) (enough : (1 : Nat) * (2 : ℚ) ^ (-1074 : Int) ≤ m * 2 ^ e) :
    ∃ m' e' pos', roundWithAccuracy .binary64 s m e .exact = .finite s m' e' pos' ∧ Proper m' e' ∧
      RoundedTo (m * 2 ^ e) (m' * 2 ^ e') := by
  obtain ⟨k, rounded⟩ := shiftToTargetExponent_roundedAt pos aligned
  obtain ⟨m', e', mantissa, exponent, proper, same⟩ := shiftToTargetExponent_rounded
    (rounded.above rounded.upper) rounded.floor <| by
      rcases Int.lt_or_eq_of_le rounded.floor with normal | least
      · exact .inl (rounded.below (rounded.full normal))
      · exact .inr least.symm
  have between : RoundedTo (m * 2 ^ e) (m' * 2 ^ e') := same ▸ rounded.roundedTo
  have pos' : 0 < m' := by
    have least := between.below (by decide) (Int.le_refl _) enough
    refine Nat.pos_of_ne_zero fun zero => ?_
    rw [zero, Nat.cast_zero, zero_mul, Nat.cast_one, one_mul] at least
    exact absurd least (not_le.mpr (by positivity))
  refine ⟨m', e', pos', ?_, proper, between⟩
  simp only [roundWithAccuracy, mantissa, exponent]
  rw [dif_neg (Nat.ne_of_gt pos')]

/-! ### Packing -/

/-- A proper mantissa within the range of floats is packed as it is. -/
theorem unpack_pack_of_proper (s : Sign) {m : Nat} {e : Int} (pos : 0 < m) (proper : Proper m e)
    (range : e ≤ 971) :
    UnpackedFloat.unpack .binary64 (UnpackedFloat.pack .binary64 (.finite s m e pos)) =
      .finite s m e pos := by
  have upper := proper.upper
  have floor := proper.floor
  have lower := proper.lower
  have bias : ((Format.binary64.exponentBias : Nat) : Int) = 1023 := rfl
  have biased : (e + Format.binary64.exponentBias +
      Format.binary64.mantissaBitsWithoutImplicit).toNat = (e + 1075).toNat := by
    change (e + (1023 : Nat) + (52 : Nat)).toNat = _
    omega
  simp only [UnpackedFloat.pack, biased]
  rw [if_neg (by omega)]
  by_cases normal : m.log2 + 1 = Format.binary64.mantissaBits
  · have leading : 2 ^ 52 ≤ m := by
      change m.log2 + 1 = 53 at normal
      have := Nat.log2_self_le (Nat.ne_of_gt pos)
      rwa [Nat.succ.inj normal] at this
    have not_special : BitVec.ofNat 11 (e + 1075).toNat ≠ -1#11 := by
      refine ofNat_ne (by omega) ?_
      change _ ≠ 2047
      omega
    have not_zero : BitVec.ofNat 11 (e + 1075).toNat ≠ 0#11 := by
      refine ofNat_ne (by omega) ?_
      change _ ≠ 0
      omega
    rw [if_pos normal]
    simp only [UnpackedFloat.unpack, unpackMantissa_packComponents,
      unpackExponent_packComponents, unpackSign_packComponents, Sign.ofBitVec_toBitVec]
    rw [if_neg not_special, if_neg not_zero]
    simp only [toNat_implicit_append, BitVec.toNat_ofNat, bias, finite.injEq, true_and]
    omega
  · have below : m < 2 ^ 52 := by
      change ¬ m.log2 + 1 = 53 at normal
      have bits : m.log2 < 53 := (Nat.log2_lt (Nat.ne_of_gt pos)).mpr upper
      exact (Nat.log2_lt (Nat.ne_of_gt pos)).mp (by omega)
    have mantissa : BitVec.ofNat 52 m ≠ 0#52 := ofNat_ne below (Nat.ne_of_gt pos)
    rw [if_neg normal]
    simp only [UnpackedFloat.unpack, unpackMantissa_packComponents,
      unpackExponent_packComponents, unpackSign_packComponents, Sign.ofBitVec_toBitVec]
    rw [if_neg (by decide), if_pos trivial, dif_neg mantissa]
    simp only [BitVec.toNat_ofNat, bias, finite.injEq, true_and]
    omega

/-- Proper mantissas have the least exponent that they can have. -/
theorem exponent_le_of_proper {m n : Nat} {e f : Int} (proper : Proper m e) (fits : n < 2 ^ 53)
    (floor : -1074 ≤ f) (below : (m : ℚ) * 2 ^ e ≤ n * 2 ^ f) : e ≤ f := by
  refine Int.not_lt.mp fun less => ?_
  obtain ⟨j, apart⟩ : ∃ j : Nat, e = f + (j + 1 : Nat) := ⟨(e - f - 1).toNat, by omega⟩
  have leading : 2 ^ 52 ≤ m := proper.lower.resolve_right (by omega)
  rw [mul_zpow_le_iff' apart] at below
  have := calc 2 ^ 53 = 2 ^ 52 * 2 ^ 1 := rfl
    _ ≤ m * 2 ^ (j + 1) := Nat.mul_le_mul leading (Nat.pow_le_pow_right two_pos (by omega))
    _ ≤ n := below
  omega

/-! ### Products and counts -/

variable {x y : Float}

/-- A positive finite float has a proper mantissa. -/
theorem exists_proper_of_pos (finite : x.isFinite = true) (pos : 0 < exactValue x) :
    ∃ m e mantissa_pos, x.toModel.unpack = .finite .positive m e mantissa_pos ∧ Proper m e ∧
      e ≤ 971 ∧ exactValue x = m * 2 ^ e := by
  have below := isFinite_iff.mp finite
  cases form x with
  | notANumber bits => omega
  | infinite bits => omega
  | zero bits _ unpacked =>
      rw [exactValue, unpacked] at pos
      exact absurd pos (lt_irrefl 0)
  | finite mantissa place positive composed _ unpacked =>
      have lower := composed.lower
      have upper := composed.upper
      have range := composed.finite
      have value := exactValue_of_unpack unpacked
      cases sign : signOf x with
      | negative =>
          rw [value, sign, Sign.apply, Int.cast_neg, neg_mul, neg_pos] at pos
          exact absurd pos (not_lt.mpr (by positivity))
      | positive =>
          rw [sign] at unpacked value
          exact ⟨_, _, _, unpacked, ⟨upper, by omega, by omega⟩, by omega, value⟩

/-- What a packed proper mantissa is worth. -/
theorem exactValue_of_pack {m : Nat} {e : Int} {pos : 0 < m} (proper : Proper m e) (range : e ≤ 971)
    (packed : x.toModel.unpack =
      UnpackedFloat.unpack .binary64 (UnpackedFloat.pack .binary64 (.finite .positive m e pos))) :
    x.isFinite = true ∧ exactValue x = m * 2 ^ e := by
  rw [unpack_pack_of_proper .positive pos proper range] at packed
  refine ⟨?_, exactValue_of_unpack packed⟩
  change UnpackedFloat.isFinite x.toModel.unpack = true
  rw [packed]
  rfl

/-- A part of a number that is at least one is positive, and is at most the number. -/
theorem mul_bounds (finite : x.isFinite = true) (finite' : y.isFinite = true)
    (pos : 0 < exactValue x) (most : exactValue x ≤ 1) (one : 1 ≤ exactValue y) :
    (x * y).isFinite = true ∧ 0 < exactValue (x * y) ∧ exactValue (x * y) ≤ exactValue y := by
  obtain ⟨m₁, e₁, pos₁, unpacked₁, proper₁, -, value₁⟩ := exists_proper_of_pos finite pos
  obtain ⟨m₂, e₂, pos₂, unpacked₂, proper₂, range₂, value₂⟩ :=
    exists_proper_of_pos finite' (one_pos.trans_le one)
  have product : ((m₁ * m₂ : Nat) : ℚ) * 2 ^ (e₁ + e₂) = exactValue x * exactValue y := by
    rw [value₁, value₂, zpow_add₀ two_ne_zero, Nat.cast_mul]
    ring
  have aligned : 52 ≤ (m₁ * m₂).log2 ∨ e₁ + e₂ ≤ -1074 := by
    rw [Nat.le_log2 (Nat.mul_ne_zero (Nat.ne_of_gt pos₁) (Nat.ne_of_gt pos₂))]
    rcases proper₁.lower with full | least
    · exact .inl (Nat.le_trans full (Nat.le_mul_of_pos_right m₁ pos₂))
    · rcases proper₂.lower with full | least'
      · exact .inl (Nat.le_trans full (Nat.le_mul_of_pos_left m₂ pos₁))
      · exact .inr (by omega)
  have factor : exactValue x ≤ exactValue x * exactValue y := le_mul_of_one_le_right pos.le one
  have least : (1 : Nat) * (2 : ℚ) ^ (-1074 : Int) ≤ exactValue x :=
    value₁ ▸ least_le pos₁ proper₁.floor
  obtain ⟨m, e, pos', rounded, proper, between⟩ := roundWithAccuracy_roundedTo (.positive * .positive)
    (Nat.mul_pos pos₁ pos₂) aligned (product ▸ least.trans factor)
  have under := between.above proper₂.upper proper₂.floor
    (product ▸ value₂ ▸ mul_le_of_le_one_left (zero_le_one.trans one) most)
  have range : e ≤ 971 :=
    (exponent_le_of_proper proper proper₂.upper proper₂.floor under).trans range₂
  have packed : (x * y).toModel.unpack = UnpackedFloat.unpack .binary64
      (UnpackedFloat.pack .binary64 (.finite .positive m e pos')) := by
    change UnpackedFloat.unpack .binary64 (UnpackedFloat.pack .binary64
      (UnpackedFloat.mul .binary64 x.toModel.unpack y.toModel.unpack)) = _
    rw [unpacked₁, unpacked₂, UnpackedFloat.mul, rounded]
    rfl
  obtain ⟨whole, value⟩ := exactValue_of_pack proper range packed
  rw [value, value₂]
  exact ⟨whole, by positivity, under⟩

/-- A count is shifted until its mantissa is full, and rounded then. -/
theorem normalize_roundedTo {count : Nat} (pos : 0 < count) :
    ∃ m e mantissa_pos, UnpackedFloat.normalize .binary64 (count : Int) 0 .positive =
        .finite .positive m e mantissa_pos ∧ Proper m e ∧ RoundedTo count (m * 2 ^ e) := by
  obtain ⟨a, amount⟩ :
      ∃ a, a = ((0 : Int) - Format.binary64.targetExponent (totalExponent count 0)).toNat :=
    ⟨_, rfl⟩
  have shifted : 52 ≤ count.log2 + a := by
    rw [amount, targetExponent_eq]
    omega
  have full : 2 ^ 52 ≤ count * 2 ^ a := by
    calc 2 ^ 52 ≤ 2 ^ (count.log2 + a) := Nat.pow_le_pow_right two_pos shifted
      _ = 2 ^ count.log2 * 2 ^ a := Nat.pow_add ..
      _ ≤ count * 2 ^ a := Nat.mul_le_mul_right _ (Nat.log2_self_le (Nat.ne_of_gt pos))
  have pos' : 0 < count * 2 ^ a := Nat.mul_pos pos (Nat.two_pow_pos a)
  have worth : ((count * 2 ^ a : Nat) : ℚ) * 2 ^ ((0 : Int) - a) = count := by
    rw [Nat.cast_mul, Nat.cast_pow, Nat.cast_ofNat, zero_sub, zpow_neg, zpow_natCast,
      mul_assoc, mul_inv_cancel₀ (by positivity), mul_one]
  have enough : (1 : Nat) * (2 : ℚ) ^ (-1074 : Int) ≤ count :=
    (least_le (e := 0) pos (by decide)).trans_eq (by rw [zpow_zero, mul_one])
  obtain ⟨m, e, mantissa_pos, rounded, proper, between⟩ := roundWithAccuracy_roundedTo .positive pos'
    (.inl ((Nat.le_log2 (Nat.ne_of_gt pos')).mpr full)) (worth ▸ enough)
  rw [worth] at between
  refine ⟨m, e, mantissa_pos, ?_, proper, between⟩
  rw [UnpackedFloat.normalize, Int.compare_eq_gt.mpr (by omega)]
  simp only [Int.toNat_natCast, UnpackedFloat.round, decreaseExponent, ← amount,
    Nat.shiftLeft_eq, rounded]

/-- A count that is not zero is rounded to a number that is at least one, and to itself as long as
it has at most 53 bits. -/
theorem toFloat_bounds {count : UInt64} (pos : 0 < count.toNat) :
    count.toFloat.isFinite = true ∧ 1 ≤ exactValue count.toFloat ∧
      (count.toNat ≤ 2 ^ 53 → exactValue count.toFloat = count.toNat) := by
  obtain ⟨m, e, mantissa_pos, rounded, proper, between⟩ := normalize_roundedTo pos
  have bound : (count.toNat : ℚ) ≤ (2 ^ 52 : Nat) * 2 ^ (12 : Int) := by
    have less : count.toNat ≤ 2 ^ 52 * 2 ^ 12 := Nat.le_of_lt count.toNat_lt
    exact_mod_cast less
  have under := between.above (by decide) (by decide) bound
  have range : e ≤ 12 := exponent_le_of_proper proper (by decide) (by decide) under
  have packed : count.toFloat.toModel.unpack = UnpackedFloat.unpack .binary64
      (UnpackedFloat.pack .binary64 (.finite .positive m e mantissa_pos)) := by
    change UnpackedFloat.unpack .binary64 (UnpackedFloat.pack .binary64
      (UnpackedFloat.normalize .binary64 (count.toNat : Int) 0 .positive)) = _
    rw [rounded]
  obtain ⟨whole, value⟩ := exactValue_of_pack proper (by omega) packed
  rw [value]
  refine ⟨whole, ?_, fun few => ?_⟩
  · have one : ((1 : Nat) : ℚ) * 2 ^ (0 : Int) ≤ count.toNat := by
      rw [zpow_zero, mul_one]
      exact Nat.cast_le.mpr pos
    have least := between.below (by decide) (by decide) one
    rwa [zpow_zero, mul_one, Nat.cast_one] at least
  · obtain ⟨c, f, fits, floor, again⟩ :
        ∃ (c : Nat) (f : Int), c < 2 ^ 53 ∧ -1074 ≤ f ∧ (count.toNat : ℚ) = c * 2 ^ f := by
      rcases Nat.lt_or_eq_of_le few with less | full
      · exact ⟨count.toNat, 0, less, by decide, by rw [zpow_zero, mul_one]⟩
      · exact ⟨2 ^ 52, 1, by decide, by decide, by rw [full]; norm_num⟩
    exact between.eq_self fits floor again

/-! ### Rounding up -/

/-- Scaling down is a division by a power of two. -/
theorem scaleDown_div (num den : Nat) (e : Int) :
    ((scaleDown num den e).1 : ℚ) / (scaleDown num den e).2 = num / den * 2 ^ (-e) := by
  rw [scaleDown, zpow_neg]
  split
  · rename_i whole
    obtain ⟨k, rfl⟩ := Int.eq_ofNat_of_zero_le whole
    rw [Nat.shiftLeft_eq, Nat.cast_mul, Nat.cast_pow, Int.toNat_natCast, zpow_natCast,
      ← div_div, Nat.cast_ofNat, div_eq_mul_inv]
  · rename_i part
    obtain ⟨k, rfl⟩ : ∃ k : Nat, e = -k := ⟨(-e).toNat, by omega⟩
    rw [Nat.shiftLeft_eq, Nat.cast_mul, Nat.cast_pow, neg_neg, Int.toNat_natCast, zpow_neg, inv_inv,
      zpow_natCast, Nat.cast_ofNat, mul_div_right_comm]

/-- A fraction is rounded up by adding one less than the denominator. -/
theorem ceil_div_eq {num den : Nat} (pos : 0 < den) :
    ⌈(num : ℚ) / den⌉₊ = (num + den - 1) / den := by
  have pos' : (0 : ℚ) < den := Nat.cast_pos.mpr pos
  refine eq_of_forall_ge_iff fun n => ?_
  rw [Nat.ceil_le, div_le_iff₀ pos', ← Nat.lt_succ_iff, Nat.div_lt_iff_lt_mul pos, Nat.succ_mul]
  norm_cast
  omega

/-- The ceiling of a finite float is that of its value, in the range of 64-bit words. -/
theorem ceiling_eq (finite : x.isFinite = true) :
    ceiling x = min ⌈exactValue x⌉₊ (UInt64.size - 1) := by
  obtain ⟨m, e, read, value⟩ := exists_magnitude finite
  rw [ceiling, read, value]
  cases negative : isNegative x with
  | true =>
      have sign : signOf x = .negative := if_pos negative
      rw [if_pos rfl, sign, Nat.ceil_eq_zero.mpr, Nat.zero_min]
      rw [Sign.apply, Int.cast_neg, neg_mul, neg_nonpos]
      positivity
  | false =>
      have sign : signOf x = .positive := if_neg (by rw [negative]; exact Bool.false_ne_true)
      have scaled := scaleDown_div m 1 (-e)
      rw [neg_neg, Nat.cast_one, div_one] at scaled
      rw [if_neg Bool.false_ne_true, sign, Sign.apply, Int.cast_natCast, ← scaled,
        ceil_div_eq (scaleDown_pos m one_pos (-e))]

end Metering.Decimal
