import Metering.Decimal.Shortest
import Metering.Proofs.Decimal.Nearest

/-!
The shortest decimal of a float reads back as that float.

A finite float is the one nearest to its own value (`Composed.nearestBits?`), and so to every
digit of that value (`Composed.nearestDecimal?`). The shortest decimal is one that was tried and
reads back, or has every digit; dropping trailing zeros changes nothing.
-/

namespace Metering.Decimal

/-! ### The parts of a float -/

/-- The unsigned bits of a finite float are its mantissa and the place of its last bit, counted from
the least one. -/
structure Composed (bits mantissa : Nat) (exponent : Int) (place : Nat) : Prop where
  exponent : exponent = (place : Int) - 1074
  bits : bits = place * 2 ^ 52 + mantissa
  upper : mantissa < 2 ^ 53
  lower : place = 0 ∨ 2 ^ 52 ≤ mantissa
  finite : place ≤ 2045

theorem composed_of_magnitude {x : Float} {mantissa : Nat} {exponent : Int}
    (finite : magnitude x = .finite mantissa exponent) :
    ∃ place, Composed (unsignedBits x) mantissa exponent place := by
  have bound : unsignedBits x < 2 ^ 63 := Nat.mod_lt _ (by decide)
  have split := Nat.div_add_mod (unsignedBits x) (2 ^ 52)
  have fraction : unsignedBits x % 2 ^ 52 < 2 ^ 52 := Nat.mod_lt _ (by decide)
  have field : unsignedBits x / 2 ^ 52 < 2 ^ 11 := Nat.div_lt_of_lt_mul bound
  simp only [magnitude, Nat.one_shiftLeft] at finite
  generalize unsignedBits x = bits at *
  split at finite
  · split at finite <;> cases finite
  · split at finite
    · simp only [Magnitude.finite.injEq] at finite
      obtain ⟨rfl, rfl⟩ := finite
      exact ⟨0, by omega, by omega, by omega, .inl rfl, by omega⟩
    · simp only [Magnitude.finite.injEq] at finite
      obtain ⟨rfl, rfl⟩ := finite
      exact ⟨bits / 2 ^ 52 - 1, by omega, by omega, by omega, .inr (by omega), by omega⟩

section Composed

variable {bits mantissa place : Nat} {exponent : Int}

/-- The value of a float in units of the least place. -/
theorem Composed.cross (composed : Composed bits mantissa exponent place) :
    (binaryFraction mantissa exponent).1 * unitsPerOne =
      mantissa * ((binaryFraction mantissa exponent).2 * 2 ^ place) := by
  obtain rfl := composed.exponent
  unfold binaryFraction
  by_cases whole : 0 ≤ (place : Int) - 1074
  · have up : 1074 + ((place : Int) - 1074).toNat = place := by omega
    simp only [if_pos whole, Nat.shiftLeft_eq, Nat.one_mul]
    rw [Nat.mul_assoc, Nat.mul_comm (2 ^ _), unitsPerOne_mul, up]
  · have down : (-((place : Int) - 1074)).toNat + place = 1074 := by omega
    simp only [if_neg whole, Nat.one_shiftLeft]
    rw [← Nat.pow_add, down, unitsPerOne]

theorem binaryFraction_pos (mantissa : Nat) (exponent : Int) :
    0 < (binaryFraction mantissa exponent).2 := by
  unfold binaryFraction
  split
  · exact Nat.one_pos
  · rw [Nat.one_shiftLeft]
    exact Nat.two_pow_pos _

theorem Composed.isLastBit (composed : Composed bits mantissa exponent place) :
    IsLastBit (binaryFraction mantissa exponent).1 (binaryFraction mantissa exponent).2 place := by
  have positive := binaryFraction_pos mantissa exponent
  have unit := Nat.mul_pos positive (Nat.two_pow_pos place)
  have shift : ∀ k, (binaryFraction mantissa exponent).2 * 2 ^ (k + place) =
      2 ^ k * ((binaryFraction mantissa exponent).2 * 2 ^ place) := by
    intro k
    rw [Nat.pow_add, Nat.mul_left_comm]
  constructor
  · rw [composed.cross, shift]
    exact Nat.mul_lt_mul_of_pos_right composed.upper unit
  · refine composed.lower.imp_right fun full => ?_
    rw [composed.cross, shift]
    exact Nat.mul_le_mul_right _ full

/-- **A float is the one nearest to its own value.** -/
theorem Composed.nearestBits? (composed : Composed bits mantissa exponent place) :
    nearestBits? (binaryFraction mantissa exponent).1 (binaryFraction mantissa exponent).2 =
      some bits := by
  by_cases zero : mantissa = 0
  · have least : place = 0 := composed.lower.resolve_right (by omega)
    have no_value : (binaryFraction mantissa exponent).1 = 0 := by
      refine (Nat.mul_eq_zero.mp ?_).resolve_right (Nat.ne_of_gt unitsPerOne_pos)
      rw [composed.cross, zero, Nat.zero_mul]
    rw [no_value, nearestBits?_zero, composed.bits, zero, least, Nat.zero_mul]
  · have positive := binaryFraction_pos mantissa exponent
    have unit := Nat.mul_pos positive (Nat.two_pow_pos place)
    have some_value : 0 < (binaryFraction mantissa exponent).1 := by
      refine Nat.pos_of_mul_pos_right (b := unitsPerOne) ?_
      rw [composed.cross]
      exact Nat.mul_pos (Nat.pos_of_ne_zero zero) unit
    have fits : place * 2 ^ 52 + mantissa < 2047 * 2 ^ 52 := by
      have := composed.upper
      have := composed.finite
      omega
    rw [nearestBits?_eq some_value positive composed.isLastBit, composed.cross,
      roundHalfEven_mul_self _ unit, composed.bits]
    exact if_pos fits

/-! ### Every digit -/

/-- The value of a float lies where floats reach. -/
theorem Composed.reach (composed : Composed bits mantissa exponent place)
    (positive : 0 < mantissa) :
    0 < (exactDecimal mantissa exponent).digits ∧
      (digitCount (exactDecimal mantissa exponent).digits : Int) +
        (exactDecimal mantissa exponent).exponent ≤ 310 ∧
      -330 ≤ (digitCount (exactDecimal mantissa exponent).digits : Int) +
        (exactDecimal mantissa exponent).exponent := by
  have upper := composed.upper
  have highest := composed.finite
  have shifted := composed.exponent
  unfold exactDecimal
  by_cases whole : 0 ≤ exponent
  · have digits_pos : 0 < mantissa <<< exponent.toNat := by
      rw [Nat.shiftLeft_eq]
      exact Nat.mul_pos positive (Nat.two_pow_pos _)
    have few : digitCount (mantissa <<< exponent.toNat) ≤ 310 := by
      rw [digitCount_le_iff digits_pos, Nat.shiftLeft_eq]
      calc mantissa * 2 ^ exponent.toNat < 2 ^ 53 * 2 ^ exponent.toNat :=
            Nat.mul_lt_mul_of_pos_right upper (Nat.two_pow_pos _)
        _ ≤ 2 ^ 53 * 2 ^ 971 :=
            Nat.mul_le_mul_left _ (Nat.pow_le_pow_right (by decide) (by omega))
        _ ≤ 10 ^ 310 := by decide +kernel
    simp only [if_pos whole]
    omega
  · obtain ⟨n, rfl⟩ : ∃ n : Nat, exponent = -(n : Int) := ⟨(-exponent).toNat, by omega⟩
    have power : (-(-(n : Int))).toNat = n := by omega
    have bounded : n ≤ 1074 := by omega
    simp only [if_neg whole, power]
    have digits_pos : 0 < mantissa * Nat.pow 5 n := Nat.mul_pos positive (Nat.pow_pos (by decide))
    refine ⟨digits_pos, ?_, ?_⟩
    · have few : digitCount (mantissa * Nat.pow 5 n) ≤ n + 310 := by
        rw [digitCount_le_iff digits_pos]
        calc mantissa * 5 ^ n ≤ 2 ^ 53 * 10 ^ n :=
              Nat.mul_le_mul (Nat.le_of_lt upper) (Nat.pow_le_pow_left (by decide) n)
          _ < 10 ^ 310 * 10 ^ n :=
            Nat.mul_lt_mul_of_pos_right (by decide +kernel) (Nat.pow_pos (by decide))
          _ = 10 ^ (n + 310) := by rw [Nat.mul_comm, Nat.pow_add]
      omega
    · by_contra far
      obtain ⟨k, rfl⟩ : ∃ k, n = k + 331 := ⟨n - 331, by omega⟩
      have short : mantissa * Nat.pow 5 (k + 331) < 10 ^ k := by
        rw [← digitCount_le_iff digits_pos]
        omega
      have long : 10 ^ k ≤ mantissa * 5 ^ (k + 331) := calc
        10 ^ k = 5 ^ k * 2 ^ k := by rw [← Nat.mul_pow]
        _ ≤ 5 ^ k * 2 ^ 743 := Nat.mul_le_mul_left _ (Nat.pow_le_pow_right (by decide) (by omega))
        _ ≤ 5 ^ k * 5 ^ 331 := Nat.mul_le_mul_left _ (by decide +kernel)
        _ = 5 ^ (k + 331) := by rw [Nat.pow_add]
        _ ≤ mantissa * 5 ^ (k + 331) := Nat.le_mul_of_pos_left _ positive
      exact absurd short (Nat.not_lt.mpr long)

/-- Every digit of the value of a float, as a fraction. -/
theorem exactDecimal_cross (mantissa : Nat) (exponent : Int) :
    (exactDecimal mantissa exponent).digits *
        10 ^ (exactDecimal mantissa exponent).exponent.toNat *
        (binaryFraction mantissa exponent).2 =
      (binaryFraction mantissa exponent).1 *
        10 ^ (-(exactDecimal mantissa exponent).exponent).toNat := by
  unfold exactDecimal binaryFraction
  by_cases whole : 0 ≤ exponent
  · simp only [if_pos whole, Int.toNat_zero, Int.neg_zero, Nat.pow_zero, Nat.mul_one]
  · have no_zeros : exponent.toNat = 0 := by omega
    simp only [if_neg whole, no_zeros, Nat.one_shiftLeft]
    rw [Nat.pow_zero, Nat.mul_one, Nat.mul_assoc]
    congr 1
    exact (Nat.mul_pow 5 2 _).symm

theorem Composed.nearestDecimal? (composed : Composed bits mantissa exponent place) :
    nearestDecimal? (exactDecimal mantissa exponent).digits
      (exactDecimal mantissa exponent).exponent = some bits := by
  by_cases zero : mantissa = 0
  · have no_digits : (exactDecimal mantissa exponent).digits = 0 := by
      rw [zero, exactDecimal]
      split
      · exact Nat.zero_shiftLeft _
      · exact Nat.zero_mul _
    have least : place = 0 := composed.lower.resolve_right (by omega)
    rw [no_digits, composed.bits, zero, least, Nat.zero_mul]
    rfl
  · obtain ⟨positive, reach, near⟩ := composed.reach (Nat.pos_of_ne_zero zero)
    rw [nearestDecimal?_eq positive reach near, ← composed.nearestBits?]
    exact nearestBits?_congr (Nat.pow_pos (by decide)) (binaryFraction_pos ..)
      (exactDecimal_cross ..)

end Composed

/-! ### The shortest decimal -/

/-- Dropping trailing zeros changes nothing. -/
theorem nearestDecimal?_normalize (d : Decimal) :
    nearestDecimal? d.normalize.digits d.normalize.exponent =
      nearestDecimal? d.digits d.exponent := by
  fun_induction normalize d with
  | case1 d trailing ih =>
      have split : d.digits / 10 * 10 ^ 1 = d.digits := by omega
      rw [ih, ← split, nearestDecimal?_shift, split]
      rfl
  | case2 d done => rfl

/-- **The shortest decimal of a float reads back as that float.** -/
theorem nearestDecimal?_shortest {x : Float} {mantissa : Nat} {exponent : Int} (tie : Tie)
    (finite : magnitude x = .finite mantissa exponent) :
    nearestDecimal? (shortest tie (unsignedBits x) mantissa exponent).digits
      (shortest tie (unsignedBits x) mantissa exponent).exponent = some (unsignedBits x) := by
  obtain ⟨place, composed⟩ := composed_of_magnitude finite
  unfold shortest
  simp only
  rw [nearestDecimal?_normalize]
  cases found : (List.range 17).findSome? fun (fewer : Nat) =>
      (neighbours tie (binaryFraction mantissa exponent).1 (binaryFraction mantissa exponent).2
        (leadingPower (binaryFraction mantissa exponent).1 (binaryFraction mantissa exponent).2 -
          (fewer : Int))).find? (·.readsAs (unsignedBits x)) with
  | none => exact composed.nearestDecimal?
  | some d =>
      obtain ⟨fewer, -, tried⟩ := List.exists_of_findSome?_eq_some found
      have reads := List.find?_some tried
      exact eq_of_beq reads

end Metering.Decimal
