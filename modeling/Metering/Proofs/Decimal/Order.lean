import Metering.Proofs.Decimal.Shortest
import Metering.Proofs.Series.Difference

/-!
The order of floats, read off their bits.

The bits of a float are its sign, an exponent and a fraction, and unpacking it finds these (`form`).
The exponents order floats before the mantissas do, just as their bits are ordered
(`compare_then_composed`). So two numbers compare as their bits with the signs counted in
(`lt_iff_level`, `le_iff_level`).
-/

namespace Metering.Decimal

open Float.Model Float.Model.UnpackedFloat

/-! ### The fields of a float -/

/-- The sign that a float is read with. -/
def signOf (x : Float) : Sign :=
  if isNegative x then .negative else .positive

section

variable {b : BitVec Format.binary64.numBits}

theorem toNat_unpackMantissa : (unpackMantissa b).toNat = b.toNat % 2 ^ 52 := by
  rw [unpackMantissa, BitVec.toNat_cast, BitVec.extractLsb_toNat, Nat.shiftRight_eq_div_pow]
  change b.toNat / 2 ^ 0 % 2 ^ 52 = _
  rw [Nat.pow_zero, Nat.div_one]

theorem toNat_unpackExponent : (unpackExponent b).toNat = b.toNat / 2 ^ 52 % 2 ^ 11 := by
  rw [unpackExponent, BitVec.toNat_cast, BitVec.extractLsb_toNat, Nat.shiftRight_eq_div_pow]
  rfl

theorem toNat_unpackSign : (unpackSign b).toNat = b.toNat / 2 ^ 63 % 2 := by
  rw [unpackSign, BitVec.toNat_cast, BitVec.extractLsb_toNat, Nat.shiftRight_eq_div_pow]
  rfl

end

variable {x y : Float}

theorem toNat_unpackMantissa_toModel :
    (@unpackMantissa .binary64 x.toModel.toBits.toBitVec).toNat =
      unsignedBits x % 2 ^ 52 := by
  have same : x.toModel.toBits.toBitVec.toNat = x.toBits.toNat := rfl
  rw [toNat_unpackMantissa, same, unsignedBits, Nat.one_shiftLeft]
  omega

theorem toNat_unpackExponent_toModel :
    (@unpackExponent .binary64 x.toModel.toBits.toBitVec).toNat =
      unsignedBits x / 2 ^ 52 := by
  have same : x.toModel.toBits.toBitVec.toNat = x.toBits.toNat := rfl
  rw [toNat_unpackExponent, same, unsignedBits, Nat.one_shiftLeft]
  omega

theorem ofBitVec_unpackSign_toModel :
    Sign.ofBitVec (@unpackSign .binary64 x.toModel.toBits.toBitVec) = signOf x := by
  have same : x.toModel.toBits.toBitVec.toNat = x.toBits.toNat := rfl
  have bit := toNat_unpackSign (b := x.toModel.toBits.toBitVec)
  have bound : x.toBits.toNat < 2 ^ 64 := x.toBits.toNat_lt
  rw [same] at bit
  rw [Sign.ofBitVec, signOf, isNegative, Nat.one_shiftLeft]
  by_cases high : 2 ^ 63 ≤ x.toBits.toNat
  · rw [if_neg, if_pos (decide_eq_true high)]
    intro zero
    rw [zero] at bit
    change 0 = _ at bit
    omega
  · rw [if_pos, if_neg (fun h => high (of_decide_eq_true h))]
    refine BitVec.eq_of_toNat_eq ?_
    change _ = 0
    omega

/-- The fields that a float is unpacked by. -/
theorem fields_toModel :
    (@unpackExponent .binary64 x.toModel.toBits.toBitVec = -1#11 ↔
      unsignedBits x / 2 ^ 52 = 2047) ∧
    (@unpackExponent .binary64 x.toModel.toBits.toBitVec = 0#11 ↔
      unsignedBits x / 2 ^ 52 = 0) ∧
    (@unpackMantissa .binary64 x.toModel.toBits.toBitVec = 0#52 ↔
      unsignedBits x % 2 ^ 52 = 0) := by
  rw [← toNat_unpackExponent_toModel, ← toNat_unpackMantissa_toModel, ← BitVec.toNat_inj,
    ← BitVec.toNat_inj, ← BitVec.toNat_inj]
  exact ⟨Iff.rfl, Iff.rfl, Iff.rfl⟩

/-- What the bits of a float stand for. -/
inductive Form (x : Float) : Prop where
  | notANumber (bits : 2047 * 2 ^ 52 < unsignedBits x) (read : magnitude x = .notANumber)
      (unpacked : x.toModel.unpack = .notANumber)
  | infinite (bits : unsignedBits x = 2047 * 2 ^ 52) (read : magnitude x = .infinite)
      (unpacked : x.toModel.unpack = .infinity (signOf x))
  | zero (bits : unsignedBits x = 0) (read : magnitude x = .finite 0 (-1074))
      (unpacked : x.toModel.unpack = .zero (signOf x))
  | finite (mantissa place : Nat) (positive : 0 < mantissa)
      (composed : Composed (unsignedBits x) mantissa (place - 1074) place)
      (read : magnitude x = .finite mantissa (place - 1074))
      (unpacked : x.toModel.unpack = .finite (signOf x) mantissa (place - 1074) positive)

theorem form (x : Float) : Form x := by
  obtain ⟨full, empty, blank⟩ := @fields_toModel x
  have fraction := @toNat_unpackMantissa_toModel x
  have field := @toNat_unpackExponent_toModel x
  have bias : ((Format.binary64.exponentBias : Nat) : Int) = 1023 := rfl
  have bound : unsignedBits x < 2 ^ 63 := Nat.mod_lt _ (by decide)
  by_cases all_ones : unsignedBits x / 2 ^ 52 = 2047
  · by_cases no_bit : unsignedBits x % 2 ^ 52 = 0
    · refine .infinite (by omega) ?_ ?_
      · simp only [magnitude, Nat.one_shiftLeft, if_pos all_ones, if_pos no_bit]
      · simp only [Float.Model.unpack, UnpackedFloat.unpack]
        rw [if_pos (full.mpr all_ones), if_pos (blank.mpr no_bit), ofBitVec_unpackSign_toModel]
    · refine .notANumber (by omega) ?_ ?_
      · simp only [magnitude, Nat.one_shiftLeft, if_pos all_ones, if_neg no_bit]
      · simp only [Float.Model.unpack, UnpackedFloat.unpack]
        rw [if_pos (full.mpr all_ones), if_neg (mt blank.mp no_bit)]
  · by_cases subnormal : unsignedBits x / 2 ^ 52 = 0
    · by_cases no_bit : unsignedBits x % 2 ^ 52 = 0
      · refine .zero (by omega) ?_ ?_
        · simp only [magnitude, Nat.one_shiftLeft, if_neg all_ones, if_pos subnormal, no_bit]
        · simp only [Float.Model.unpack, UnpackedFloat.unpack]
          rw [if_neg (mt full.mp all_ones), if_pos (empty.mpr subnormal),
            dif_pos (blank.mpr no_bit), ofBitVec_unpackSign_toModel]
      · refine .finite (unsignedBits x % 2 ^ 52) 0 (Nat.pos_of_ne_zero no_bit)
          ⟨rfl, by omega, by omega, .inl rfl, by omega⟩ ?_ ?_
        · simp only [magnitude, Nat.one_shiftLeft, if_neg all_ones, if_pos subnormal]
          rfl
        · simp only [Float.Model.unpack, UnpackedFloat.unpack]
          rw [if_neg (mt full.mp all_ones), if_pos (empty.mpr subnormal),
            dif_neg (mt blank.mp no_bit), ofBitVec_unpackSign_toModel]
          simp only [fraction, field, subnormal, bias]
          rfl
    · refine .finite (2 ^ 52 + unsignedBits x % 2 ^ 52) (unsignedBits x / 2 ^ 52 - 1) (by omega)
        ⟨rfl, by omega, by omega, .inr (by omega), by omega⟩ ?_ ?_
      · simp only [magnitude, Nat.one_shiftLeft, if_neg all_ones, if_neg subnormal,
          Magnitude.finite.injEq, true_and]
        omega
      · have mantissa := Series.Binary64.toNat_implicit_append
          (@unpackMantissa .binary64 x.toModel.toBits.toBitVec)
        simp only [Float.Model.unpack, UnpackedFloat.unpack]
        rw [if_neg (mt full.mp all_ones), if_neg (mt empty.mp subnormal),
          ofBitVec_unpackSign_toModel]
        simp only [mantissa, fraction, field, bias, UnpackedFloat.finite.injEq, true_and]
        omega

/-- A float is finite just if its exponent field is not full. -/
theorem isFinite_iff : x.isFinite = true ↔ unsignedBits x < 2047 * 2 ^ 52 := by
  change UnpackedFloat.isFinite x.toModel.unpack = true ↔ _
  cases form x with
  | notANumber bits _ unpacked =>
      rw [unpacked]
      exact iff_of_false Bool.false_ne_true (by omega)
  | infinite bits _ unpacked =>
      rw [unpacked]
      exact iff_of_false Bool.false_ne_true (by omega)
  | zero bits _ unpacked =>
      rw [unpacked]
      exact iff_of_true rfl (by omega)
  | finite mantissa place _ composed _ unpacked =>
      rw [unpacked, composed.bits]
      have upper := composed.upper
      have highest := composed.finite
      exact iff_of_true rfl (by omega)

theorem isNaN_iff : x.isNaN = true ↔ 2047 * 2 ^ 52 < unsignedBits x := by
  change UnpackedFloat.isNaN x.toModel.unpack = true ↔ _
  cases form x with
  | notANumber bits _ unpacked =>
      rw [unpacked]
      exact iff_of_true rfl bits
  | infinite bits _ unpacked =>
      rw [unpacked]
      exact iff_of_false Bool.false_ne_true (by omega)
  | zero bits _ unpacked =>
      rw [unpacked]
      exact iff_of_false Bool.false_ne_true (by omega)
  | finite mantissa place _ composed _ unpacked =>
      rw [unpacked, composed.bits]
      have upper := composed.upper
      have highest := composed.finite
      exact iff_of_false Bool.false_ne_true (by omega)

/-! ### The order of floats -/

/-- The unsigned bits of a float with its sign: both zeros are on one level. -/
def level (x : Float) : Int :=
  (signOf x).apply (unsignedBits x)

/-- The exponents order floats before the mantissas do, as their bits do. -/
theorem compare_then_composed {bits bits' m m' place place' : Nat} {e e' : Int}
    (first : Composed bits m e place) (second : Composed bits' m' e' place') :
    (compare e e').then (compare m m') = compare bits bits' := by
  have := first.upper
  have := second.upper
  have := first.lower
  have := second.lower
  obtain rfl := first.exponent
  obtain rfl := second.exponent
  rw [first.bits, second.bits]
  rcases Nat.lt_trichotomy place place' with less | rfl | greater
  · rw [Int.compare_eq_lt.mpr (by omega)]
    exact (Nat.compare_eq_lt.mpr (by omega)).symm
  · rw [Int.compare_eq_eq.mpr rfl]
    rcases Nat.lt_trichotomy m m' with less | rfl | greater
    · rw [Nat.compare_eq_lt.mpr less]
      exact (Nat.compare_eq_lt.mpr (by omega)).symm
    · rw [Nat.compare_eq_eq.mpr rfl]
      exact (Nat.compare_eq_eq.mpr rfl).symm
    · rw [Nat.compare_eq_gt.mpr greater]
      exact (Nat.compare_eq_gt.mpr (by omega)).symm
  · rw [Int.compare_eq_gt.mpr (by omega)]
    exact (Nat.compare_eq_gt.mpr (by omega)).symm

theorem compare_natCast (m n : Nat) : compare (m : Int) n = compare m n := by
  rcases Nat.lt_trichotomy m n with less | rfl | greater
  · rw [Int.compare_eq_lt.mpr (by omega), Nat.compare_eq_lt.mpr less]
  · rw [Int.compare_eq_eq.mpr rfl, Nat.compare_eq_eq.mpr rfl]
  · rw [Int.compare_eq_gt.mpr (by omega), Nat.compare_eq_gt.mpr greater]

theorem compare_neg (m n : Int) : compare (-m) (-n) = (compare m n).swap := by
  rw [Int.compare_swap]
  rcases Int.lt_trichotomy m n with less | rfl | greater
  · rw [Int.compare_eq_gt.mpr less, Int.compare_eq_gt.mpr (by omega)]
  · rw [Int.compare_eq_eq.mpr rfl, Int.compare_eq_eq.mpr rfl]
  · rw [Int.compare_eq_lt.mpr greater, Int.compare_eq_lt.mpr (by omega)]

/-- The order of two numbers of which one has the greater magnitude is that of their signs. -/
theorem compare_apply_of_lt {m n : Nat} (s s' : Sign) (less : m < n) :
    compare (s.apply m) (s'.apply n) = match s' with | .positive => .lt | .negative => .gt := by
  cases s <;> cases s' <;> simp only [Sign.apply]
  · exact Int.compare_eq_gt.mpr (by omega)
  · exact Int.compare_eq_lt.mpr (by omega)
  · exact Int.compare_eq_gt.mpr (by omega)
  · exact Int.compare_eq_lt.mpr (by omega)

theorem compare_apply_of_gt {m n : Nat} (s s' : Sign) (less : n < m) :
    compare (s.apply m) (s'.apply n) = match s with | .positive => .gt | .negative => .lt := by
  rw [← Int.compare_swap, compare_apply_of_lt s' s less]
  cases s <;> rfl

/-- The bits of a number are at most those of infinity. -/
theorem unsignedBits_le_of_number {z : Float} (number : z.isNaN = false) :
    unsignedBits z ≤ 2047 * 2 ^ 52 := by
  refine Nat.not_lt.mp fun above => ?_
  rw [isNaN_iff.mpr above] at number
  cases number

/-- **Floats compare as their levels do**, as long as both are numbers. -/
theorem compare_unpack (number : x.isNaN = false) (number' : y.isNaN = false) :
    UnpackedFloat.compare x.toModel.unpack y.toModel.unpack =
      some (compare (level x) (level y)) := by
  have not_full := Nat.not_lt.mpr (unsignedBits_le_of_number number)
  have not_full' := Nat.not_lt.mpr (unsignedBits_le_of_number number')
  unfold level
  cases form x with
  | notANumber bits => exact absurd bits not_full
  | infinite bits _ unpacked =>
      cases form y with
      | notANumber bits' => exact absurd bits' not_full'
      | infinite bits' _ unpacked' =>
          rw [unpacked, unpacked', bits, bits']
          cases signOf x <;> cases signOf y <;> rfl
      | zero bits' _ unpacked' =>
          rw [unpacked, unpacked', compare_apply_of_gt _ _ (by omega)]
          cases signOf x <;> rfl
      | finite mantissa' place' _ composed' _ unpacked' =>
          have := composed'.bits
          have := composed'.upper
          have := composed'.finite
          rw [unpacked, unpacked', compare_apply_of_gt _ _ (by omega)]
          cases signOf x <;> cases signOf y <;> rfl
  | zero bits _ unpacked =>
      cases form y with
      | notANumber bits' => exact absurd bits' not_full'
      | infinite bits' _ unpacked' =>
          rw [unpacked, unpacked', compare_apply_of_lt _ _ (by omega)]
          cases signOf y <;> rfl
      | zero bits' _ unpacked' =>
          rw [unpacked, unpacked', bits, bits']
          cases signOf x <;> cases signOf y <;> rfl
      | finite mantissa' place' positive' composed' _ unpacked' =>
          have := composed'.bits
          rw [unpacked, unpacked', compare_apply_of_lt _ _ (by omega)]
          cases signOf y <;> rfl
  | finite mantissa place positive composed _ unpacked =>
      have := composed.bits
      have := composed.upper
      have := composed.finite
      cases form y with
      | notANumber bits' => exact absurd bits' not_full'
      | infinite bits' _ unpacked' =>
          rw [unpacked, unpacked', compare_apply_of_lt _ _ (by omega)]
          cases signOf x <;> cases signOf y <;> rfl
      | zero bits' _ unpacked' =>
          rw [unpacked, unpacked', compare_apply_of_gt _ _ (by omega)]
          cases signOf x <;> rfl
      | finite mantissa' place' positive' composed' _ unpacked' =>
          have := composed'.bits
          have same := compare_then_composed composed composed'
          rw [unpacked, unpacked']
          cases signOf x <;> cases signOf y
          · simp only [UnpackedFloat.compare, same, Sign.apply, compare_neg, compare_natCast]
          · simp only [UnpackedFloat.compare, Sign.apply]
            exact congrArg some (Int.compare_eq_lt.mpr (by omega)).symm
          · simp only [UnpackedFloat.compare, Sign.apply]
            exact congrArg some (Int.compare_eq_gt.mpr (by omega)).symm
          · simp only [UnpackedFloat.compare, same, Sign.apply, compare_natCast]

theorem lt_iff_level (number : x.isNaN = false) (number' : y.isNaN = false) :
    x < y ↔ level x < level y := by
  rw [Series.Binary64.float_lt_iff, compare_unpack number number', Option.some.injEq,
    Int.compare_eq_lt]

theorem le_iff_level (number : x.isNaN = false) (number' : y.isNaN = false) :
    x ≤ y ↔ level x ≤ level y := by
  rw [Series.Binary64.float_le_iff, UnpackedFloat.le, compare_unpack number number',
    Option.any_some, Int.isLE_compare]

/-- Only numbers are compared. -/
theorem isNaN_of_lt (less : x < y) : x.isNaN = false ∧ y.isNaN = false := by
  rw [Series.Binary64.float_lt_iff] at less
  change UnpackedFloat.isNaN _ = false ∧ UnpackedFloat.isNaN _ = false
  constructor
  · cases unpacked : x.toModel.unpack with
    | notANumber => rw [unpacked] at less; cases less
    | infinity | zero | finite => rfl
  · cases unpacked : y.toModel.unpack with
    | notANumber =>
        rw [unpacked] at less
        revert less
        cases x.toModel.unpack <;> exact fun less => nomatch less
    | infinity | zero | finite => rfl

theorem level_eq (x : Float) : level x = unsignedBits x ∨ level x = -unsignedBits x := by
  unfold level
  cases signOf x with
  | positive => exact .inl rfl
  | negative => exact .inr rfl

/-! ### Sign and magnitude -/

/-- A float is made of its sign and its other bits. -/
theorem ofUnsignedBits_unsignedBits (x : Float) :
    ofUnsignedBits (isNegative x) (unsignedBits x) = x := by
  have bound : x.toBits.toNat < 2 ^ 64 := x.toBits.toNat_lt
  have joined : (if isNegative x then (1 <<< 63) + unsignedBits x else unsignedBits x) =
      x.toBits.toNat := by
    simp only [isNegative, unsignedBits, Nat.one_shiftLeft, decide_eq_true_eq]
    split <;> omega
  rw [ofUnsignedBits, joined, UInt64.ofNat_toNat, Float.ofBits_toBits]

/-- A float is known by its sign and its other bits. -/
theorem eq_of_unsignedBits (sign : isNegative x = isNegative y)
    (bits : unsignedBits x = unsignedBits y) : x = y := by
  rw [← ofUnsignedBits_unsignedBits x, sign, bits, ofUnsignedBits_unsignedBits]

end Metering.Decimal
