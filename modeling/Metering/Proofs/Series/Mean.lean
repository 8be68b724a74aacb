import Mathlib.Algebra.Order.BigOperators.Group.List
import Mathlib.Algebra.Order.Ring.Rat
import Mathlib.Tactic.Ring
import Metering.Proofs.Series.Exact
import Metering.Proofs.Series.Extremes

/-!
The mean of a set of values.

The mean is never computed from the sum: every addition moves it by the distance of the new value,
divided by the number of values with the new one among them. Where nothing is rounded that comes to the
same, because mean times number grows by the value (`meanOf_concat`). So the mean is the sum over
the number, lies between the least and the greatest value, and does not depend on the order of the
additions (`run_mean`).
-/

namespace Metering.Series

open Metering.Time

/-- Rational numbers are ranked by their order, all of them. -/
theorem ranks_less_rat : Ranks (Arithmetic.less (ν := ℚ)) where
  numbers _ := ⟨rfl, rfl⟩
  asymm ahead := decide_eq_false (lt_asymm (of_decide_eq_true ahead))
  split {a b c} _ ahead := by
    rcases lt_or_ge a b with before | after
    · exact .inl (decide_eq_true before)
    · exact .inr (decide_eq_true (lt_of_le_of_lt after (of_decide_eq_true ahead)))

/-- Where there are entries one is held, and none is ahead of it, as every rational number is a
number. -/
theorem Held.exists_foremost_rat {better : ℚ → ℚ → Bool} {entries : List (Entry ℚ)}
    {held : Option (Entry ℚ)} (holds : Held better entries held) (some_entry : entries ≠ []) :
    ∃ e, held = some e ∧ ∀ x ∈ entries.map (·.value), better x e.value = false := by
  cases held with
  | none => exact absurd holds some_entry
  | some e =>
      refine ⟨e, rfl, List.forall_mem_map.mpr fun x member => ?_⟩
      cases holds with
      | first _ _ _ _ foremost => exact Bool.eq_false_of_not_eq_true (foremost x member rfl)
      | last undefined _ => cases undefined x member

/-- The sum of some values over their number; of no values it is zero. -/
def meanOf (values : List ℚ) : ℚ :=
  if values = [] then 0 else values.sum / values.length

theorem meanOf_mul_length (values : List ℚ) : meanOf values * values.length = values.sum := by
  unfold meanOf
  split
  · rename_i none_given
    rw [none_given, List.sum_nil, zero_mul]
  · rename_i some_given
    exact div_mul_cancel₀ _ (Nat.cast_ne_zero.mpr (mt List.length_eq_zero_iff.mp some_given))

theorem meanOf_perm {values values' : List ℚ} (same : values.Perm values') :
    meanOf values = meanOf values' := by
  have both : values = [] ↔ values' = [] := by
    rw [← List.length_eq_zero_iff, same.length_eq, List.length_eq_zero_iff]
  unfold meanOf
  simp only [both, same.sum_eq, same.length_eq]

/-- Values that are all at least `low` and at most `high` have their mean there too. -/
theorem meanOf_bounds {values : List ℚ} {low high : ℚ} (some_given : values ≠ [])
    (above : ∀ x ∈ values, low ≤ x) (below : ∀ x ∈ values, x ≤ high) :
    low ≤ meanOf values ∧ meanOf values ≤ high := by
  have positive : (0 : ℚ) < values.length := Nat.cast_pos.mpr (List.length_pos_iff.mpr some_given)
  have least : values.length • low ≤ values.sum := List.card_nsmul_le_sum _ _ above
  have most : values.sum ≤ values.length • high := List.sum_le_card_nsmul _ _ below
  rw [nsmul_eq_mul, ← meanOf_mul_length, mul_comm] at least
  rw [nsmul_eq_mul, ← meanOf_mul_length, mul_comm _ high] at most
  exact ⟨le_of_mul_le_mul_right least positive, le_of_mul_le_mul_right most positive⟩

/-- A mean that is moved by the distance of a further value, over the number with that value among
them, is the mean with that value. -/
theorem meanOf_concat (values : List ℚ) (value : ℚ) :
    meanOf values + (value - meanOf values) / (values.length + 1 : Nat) = meanOf (values ++ [value]) := by
  have positive : ((values.length + 1 : Nat) : ℚ) ≠ 0 := Nat.cast_ne_zero.mpr (Nat.succ_ne_zero _)
  have total := meanOf_mul_length (values ++ [value])
  rw [List.length_append, List.length_singleton, List.sum_append, List.sum_singleton,
    ← meanOf_mul_length values] at total
  apply mul_right_cancel₀ positive
  rw [total, add_mul, div_mul_cancel₀ _ positive, Nat.cast_succ]
  ring

/-- After every course of additions and readings the mean is that of the values added. -/
theorem mean_run (percentile : Float) (uses : List (Use ℚ)) :
    let s := (ValueSet.empty percentile : ValueSet ℚ).run uses
    s.mean = meanOf ((added uses).map (·.2)) ∧ s.entries.size = (added uses).length := by
  refine ValueSet.run_rule (fun values (s : ValueSet ℚ) =>
    s.mean = meanOf (values.map (·.2)) ∧ s.entries.size = values.length) ⟨rfl, rfl⟩ ?add ?ask uses
  case add =>
    rintro values s timestamp value ⟨mean, counted⟩
    have moved : (s.add timestamp value).mean =
        s.mean + (value - s.mean) / (s.entries.size + 1 : Nat) := rfl
    have grown : (s.add timestamp value).entries.size = s.entries.size + 1 := Array.size_push ..
    refine ⟨?_, ?_⟩
    · rw [moved, mean, counted, ← List.length_map, meanOf_concat, List.map_append, List.map_singleton]
    · rw [grown, counted, List.length_append, List.length_singleton]
  case ask =>
    intro values s holds
    rw [ValueSet.reported_snd]
    exact holds

/-- **The mean that is kept is the mean.** In exact arithmetic, after every course of additions and
readings, the mean is the sum of the values added over their number, and zero if there are none. It
lies between the least and the greatest value, and any other course that adds the same values in any
order comes to the same mean. -/
theorem run_mean (percentile : Float) (uses : List (Use ℚ)) :
    let s := (ValueSet.empty percentile : ValueSet ℚ).run uses
    let values : List ℚ := (added uses).map (·.2)
    s.mean = (if values = [] then 0 else values.sum / values.length) ∧
    (values ≠ [] → ∃ least greatest, s.least = some least ∧ s.greatest = some greatest ∧
      least.value ≤ s.mean ∧ s.mean ≤ greatest.value) ∧
    ∀ (percentile' : Float) (uses' : List (Use ℚ)), List.Perm ((added uses').map (·.2)) values →
      ((ValueSet.empty percentile').run uses').mean = s.mean := by
  intro s values
  have mean : s.mean = meanOf values := (mean_run percentile uses).1
  have numbers : s.entries.toList.map (·.value) = values := ValueSet.numbers_run percentile uses
  refine ⟨mean, fun some_added => ?bounds, fun percentile' uses' same => ?order⟩
  case bounds =>
    have some_entry : s.entries.toList ≠ [] := by
      rw [← numbers] at some_added
      exact mt List.map_eq_nil_iff.mpr some_added
    obtain ⟨lowest, highest⟩ := held_run ranks_less_rat percentile uses
    obtain ⟨least, held, above⟩ := Held.exists_foremost_rat lowest some_entry
    obtain ⟨greatest, held', below⟩ := Held.exists_foremost_rat highest some_entry
    rw [numbers] at above below
    rw [mean]
    exact ⟨least, greatest, held, held', meanOf_bounds some_added
      (fun x member => not_lt.mp (of_decide_eq_false (above x member)))
      (fun x member => not_lt.mp (of_decide_eq_false (below x member)))⟩
  case order => rw [mean, (mean_run percentile' uses').1, meanOf_perm same]

/-- Three values with the percentile asked for between them, and the same values backwards. -/
theorem run_mean_threeValues :
    let uses : List (Use ℚ) := [.add .latest 3, .ask, .add .earliest (1 / 2), .add .latest 4]
    let backwards : List (Use ℚ) := [.add .latest 4, .add .latest (1 / 2), .ask, .add .earliest 3]
    let s := (ValueSet.empty 0.5 : ValueSet ℚ).run uses
    (added uses).map (·.2) ≠ [] ∧ s.mean = 5 / 2 ∧
    (∃ least greatest, s.least = some least ∧ s.greatest = some greatest ∧
      least.value ≤ s.mean ∧ s.mean ≤ greatest.value) ∧
    List.Perm ((added backwards).map (·.2)) ((added uses).map (·.2)) ∧
    ((ValueSet.empty 0.95 : ValueSet ℚ).run backwards).mean = 5 / 2 := by
  intro uses backwards s
  have some_added : (added uses).map (·.2) ≠ [] := List.cons_ne_nil _ _
  have same : List.Perm ((added backwards).map (·.2)) ((added uses).map (·.2)) :=
    List.reverse_perm [3, 1 / 2, 4]
  obtain ⟨mean, bounds, order⟩ := run_mean 0.5 uses
  have value : s.mean = 5 / 2 := mean.trans (by decide +kernel)
  exact ⟨some_added, value, bounds some_added, same, (order 0.95 backwards same).trans value⟩

end Metering.Series
