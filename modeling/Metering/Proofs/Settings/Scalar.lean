import Metering.Proofs.Decimal.FloatText
import Metering.Proofs.Decimal.Value
import Metering.Settings.Text

/-!
Numbers in a settings document read back.

A finite float is written as the parts of a numeral, none of which is taken for a word or for a group
of digits (`number?_write`); percentiles are such floats (`finite_of_isPercentile`). A whole number is
written without leading zeros, so it is not taken for another base (`natural?_toString`).
-/

namespace Metering.Settings

open Metering.Decimal
open Metering.Text (ne_of_kind toNat_of_isDigit)

/-! ### Signs -/

theorem dropPlus?_of_ne {c : Char} (other : c ≠ '+') (rest : List Char) :
    dropPlus? (c :: rest) = some (c :: rest) := by
  unfold dropPlus?
  split
  case h_4 => rfl
  all_goals
    rename_i same
    exact absurd (List.cons.inj same).1 other

/-! ### Whole numbers -/

theorem hexValue?_of_isDigit {c : Char} (digit : c.isDigit = true) :
    Document.hexValue? c = some (c.toNat - '0'.toNat) :=
  if_pos digit

theorem mapM_hexValue? {cs : List Char} (digits : isDigits cs = true) :
    cs.mapM Document.hexValue? = some (cs.map fun c => c.toNat - '0'.toNat) := by
  induction cs with
  | nil => rfl
  | cons c cs ih =>
      rw [isDigits, List.all_cons, Bool.and_eq_true] at digits
      rw [List.mapM_cons, hexValue?_of_isDigit digits.1, ih digits.2]
      rfl

/-- Decimal digits are read as the number they denote. -/
theorem natOfBase?_digits {cs : List Char} (digits : isDigits cs = true) (some_digit : cs ≠ []) :
    natOfBase? 10 cs = some (natOfDigits cs) := by
  have in_base : (cs.map fun c => c.toNat - '0'.toNat).any (10 ≤ ·) = false := by
    rw [← Bool.not_eq_true, List.any_eq_true]
    rintro ⟨value, member, large⟩
    obtain ⟨c, listed, rfl⟩ := List.mem_map.mp member
    have zero : '0'.toNat = 48 := rfl
    have bounds := toNat_of_isDigit (mem_isDigit digits listed)
    rw [decide_eq_true_eq] at large
    omega
  have not_empty : cs.isEmpty = false := List.isEmpty_eq_false_iff.mpr some_digit
  simp only [natOfBase?, mapM_hexValue? digits, Option.bind_eq_bind, Option.bind_some, in_base,
    not_empty, Bool.or_self, Bool.false_eq_true, if_false, List.foldl_map]
  rfl

/-- A whole number is written without leading zeros, which would mark another base. -/
theorem natural?_toString (n : Nat) : natural? (toString n) = some n := by
  have written : (toString n).toList = Nat.toDigits 10 n := Nat.toList_repr
  have digits := isDigits_toDigits n
  have some_digit : Nat.toDigits 10 n ≠ [] := Nat.toDigits_ne_nil
  have read := natOfBase?_digits digits some_digit
  rw [natOfDigits_toDigits] at read
  by_cases zero : n = 0
  · rw [zero]
    rfl
  · have leading := head?_toDigits_ne_zero (Nat.pos_of_ne_zero zero)
    rw [natural?, written]
    generalize Nat.toDigits 10 n = cs at *
    obtain ⟨c, cs, rfl⟩ := List.exists_cons_of_ne_nil some_digit
    have digit : c.isDigit = true := mem_isDigit digits List.mem_cons_self
    rw [dropPlus?_of_ne (ne_of_kind digit rfl), Option.bind_eq_bind, Option.bind_some]
    have other : c ≠ '0' := fun zero => leading (congrArg some zero)
    split
    case h_6 => exact read
    all_goals
      rename_i same
      exact absurd (List.cons.inj same).1 other

/-! ### Floats -/

/-- None of some words without digits is a text with one. -/
theorem not_contains_of_isDigit (words : List String) {text : String}
    (words_only : words.all (fun word => !word.toList.any Char.isDigit) = true)
    (digit : text.toList.any Char.isDigit = true) : words.contains text = false := by
  rw [← Bool.not_eq_true, List.contains_iff_mem]
  intro member
  have no_digit := List.all_eq_true.mp words_only text member
  rw [digit] at no_digit
  cases no_digit

/-- A numeral in parts is read as their number. -/
theorem number?_parts {text : String} {p : Parts} (written : text.toList = p.text)
    (proper : p.Proper) : number? text = p.numeral.toFloat? := by
  have digit : text.toList.any Char.isDigit = true := by
    rw [written, List.any_eq_true]
    exact Parts.exists_digit proper
  have no_plus : dropPlus? text.toList = some text.toList := by
    obtain ⟨c, rest, split, ⟨-, rfl⟩ | ⟨-, first⟩⟩ := Parts.text_eq_cons proper
    · rw [written, split, dropPlus?_of_ne (by decide)]
    · rw [written, split, dropPlus?_of_ne (ne_of_kind first rfl)]
  have no_comma : text.toList.contains ',' = false := by
    rw [← Bool.not_eq_true, List.contains_iff_mem, written]
    intro member
    rcases Parts.mem_text proper member with digit | other | other | other
    · cases digit
    · cases other
    · cases other
    · cases other
  have no_infinity := not_contains_of_isDigit [".inf", ".Inf", ".INF"] (by decide) digit
  have no_infinity' := not_contains_of_isDigit ["-.inf", "-.Inf", "-.INF"] (by decide) digit
  have a_number := not_contains_of_isDigit [".nan", ".NaN", ".NAN"] (by decide) digit
  rw [number?, no_plus]
  simp only [Option.bind_eq_bind, Option.bind_some, String.ofList_toList, no_infinity,
    no_infinity', a_number, no_comma, Bool.false_eq_true, if_false]
  rw [written, Parts.read?_text proper]
  rfl

/-- **A finite float is read as it was written.** -/
theorem number?_write {x : Float} {mantissa : Nat} {exponent : Int}
    (finite : magnitude x = .finite mantissa exponent) :
    number? (Layout.document.write x) = some x := by
  obtain ⟨p, written, proper, -, value⟩ := Layout.document.write_parts finite
  rw [number?_parts written proper, value]

/-! ### Percentiles -/

/-- A percentile is above zero and not above one, so it is a positive finite number. -/
theorem finite_of_isPercentile {p : Float} (percentile : isPercentile p = true) :
    isNegative p = false ∧ ∃ mantissa exponent, magnitude p = .finite mantissa exponent := by
  simp only [isPercentile, Bool.and_eq_true, decide_eq_true_eq] at percentile
  obtain ⟨plus, finite, -⟩ := exactValue_of_proportion percentile.1 percentile.2
  obtain ⟨mantissa, exponent, read, -⟩ := exists_magnitude finite
  exact ⟨plus, mantissa, exponent, read⟩

end Metering.Settings
