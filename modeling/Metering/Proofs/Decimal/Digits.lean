import Mathlib.Tactic.Ring
import Metering.Decimal.Digits

/-!
The digits of a number and the number that digits denote.
-/

namespace Metering.Decimal

/-! ### The number that digits denote -/

theorem natOfDigits_eq (cs : List Char) : natOfDigits cs = Nat.ofDigitChars 10 cs 0 :=
  (Nat.ofDigitChars_eq_foldl).symm

theorem natOfDigits_toDigits (n : Nat) : natOfDigits (Nat.toDigits 10 n) = n := by
  rw [natOfDigits_eq, Nat.ofDigitChars_ten_toDigits]

theorem natOfDigits_append (first second : List Char) :
    natOfDigits (first ++ second) =
      natOfDigits first * 10 ^ second.length + natOfDigits second := by
  rw [natOfDigits_eq, Nat.ofDigitChars_append, Nat.ofDigitChars_eq_ofDigitChars_zero,
    ← natOfDigits_eq, ← natOfDigits_eq, Nat.mul_comm]

theorem natOfDigits_zeros (k : Nat) : natOfDigits (List.replicate k '0') = 0 := by
  rw [natOfDigits_eq, Nat.ofDigitChars_replicate_zero, Nat.mul_zero]

/-- Zeros at the end multiply by powers of ten. -/
theorem natOfDigits_append_zeros (cs : List Char) (k : Nat) :
    natOfDigits (cs ++ List.replicate k '0') = natOfDigits cs * 10 ^ k := by
  rw [natOfDigits_append, natOfDigits_zeros, List.length_replicate, Nat.add_zero]

/-- Zeros at the front do not count. -/
theorem natOfDigits_zeros_append (k : Nat) (cs : List Char) :
    natOfDigits (List.replicate k '0' ++ cs) = natOfDigits cs := by
  rw [natOfDigits_append, natOfDigits_zeros, Nat.zero_mul, Nat.zero_add]

/-! ### Runs of digits -/

theorem isDigits_append (first second : List Char) :
    isDigits (first ++ second) = (isDigits first && isDigits second) :=
  List.all_append

theorem isDigits_zeros (k : Nat) : isDigits (List.replicate k '0') = true :=
  List.all_eq_true.mpr fun _ member => List.eq_of_mem_replicate member ▸ rfl

theorem isDigits_toDigits (n : Nat) : isDigits (Nat.toDigits 10 n) = true :=
  List.all_eq_true.mpr fun _ member => Nat.isDigit_of_mem_toDigits (by decide) (by decide) member

theorem mem_isDigit {cs : List Char} (digits : isDigits cs = true) {c : Char} (member : c ∈ cs) :
    c.isDigit = true :=
  List.all_eq_true.mp digits c member

/-! ### How many digits there are -/

theorem digitCount_of_pos {n : Nat} (positive : 0 < n) :
    digitCount n = (Nat.toDigits 10 n).length :=
  if_neg (Nat.ne_of_gt positive)

theorem digitCount_pos {n : Nat} (positive : 0 < n) : 0 < digitCount n := by
  rw [digitCount_of_pos positive]
  exact Nat.length_toDigits_pos

theorem digitCount_le_iff {n k : Nat} (positive : 0 < n) : digitCount n ≤ k ↔ n < 10 ^ k := by
  rw [digitCount_of_pos positive]
  cases k with
  | zero =>
      have some_digit := Nat.length_toDigits_pos (b := 10) (n := n)
      omega
  | succ k => exact Nat.length_toDigits_le_iff (by decide) (Nat.succ_pos k)

theorem lt_pow_digitCount {n : Nat} (positive : 0 < n) : n < 10 ^ digitCount n :=
  (digitCount_le_iff positive).mp (Nat.le_refl _)

theorem pow_le_of_lt_digitCount {n k : Nat} (positive : 0 < n) (fewer : k < digitCount n) :
    10 ^ k ≤ n := by
  rw [← Nat.not_lt, ← digitCount_le_iff positive]
  exact Nat.not_le.mpr fewer

/-- Multiplying by a power of ten adds as many digits. -/
theorem digitCount_mul_pow {n : Nat} (positive : 0 < n) (k : Nat) :
    digitCount (n * 10 ^ k) = digitCount n + k := by
  have positive' : 0 < n * 10 ^ k := Nat.mul_pos positive (Nat.pow_pos (by decide))
  refine Nat.le_antisymm ?_ ?_
  · rw [digitCount_le_iff positive', Nat.pow_add]
    exact Nat.mul_lt_mul_of_pos_right (lt_pow_digitCount positive) (Nat.pow_pos (by decide))
  · have one_less : digitCount n - 1 < digitCount n :=
      Nat.sub_lt (digitCount_pos positive) Nat.one_pos
    have reached := Nat.mul_le_mul_right (10 ^ k) (pow_le_of_lt_digitCount positive one_less)
    rw [← Nat.pow_add, ← Nat.not_lt, ← digitCount_le_iff positive'] at reached
    omega

/-- The leading digit is not a zero. -/
theorem head?_toDigits_ne_zero {n : Nat} (positive : 0 < n) :
    (Nat.toDigits 10 n).head? ≠ some '0' := by
  induction n using Nat.strong_induction_on with
  | _ n ih =>
      by_cases small : n < 10
      · rw [Nat.toDigits_of_lt_base small, List.head?_cons, ne_eq, Option.some.injEq,
          Nat.digitChar_eq_zero]
        exact Nat.ne_of_gt positive
      · have shorter := ih (n / 10) (by omega) (by omega)
        obtain ⟨c, cs, split⟩ := List.exists_cons_of_ne_nil (@Nat.toDigits_ne_nil (n / 10) 10)
        rw [split] at shorter
        rw [Nat.toDigits_of_base_le (by decide) (Nat.not_lt.mp small), split]
        exact shorter

end Metering.Decimal
