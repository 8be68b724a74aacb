import Metering.Granularity

/-!
Windows end after they start.

A window of at least one unit ends at a later instant, also where its unit is the month: the count of
days grows with the month, whatever becomes of the day (`Date.toDays_lt`). So a window is refused for
one reason alone, that its end lies past the last instant (`advance?_eq_none_iff`).
-/

namespace Metering

open Metering.Time

/-- A date in a later month lies later. -/
theorem Time.Date.toDays_lt {a b : Date} (first : a.Valid) (second : b.Valid)
    (later : a.monthIndex < b.monthIndex) : a.toDays < b.toDays := by
  obtain ⟨a_first, a_last⟩ := first.marchDay_bounds
  obtain ⟨b_first, b_last⟩ := second.marchDay_bounds
  have a_month := first.marchMonth_eq
  have b_month := second.marchMonth_eq
  obtain ⟨a_lower, a_upper, -, -⟩ := first
  obtain ⟨b_lower, b_upper, -, -⟩ := second
  have a_index : a.monthIndex = 12 * a.marchYear + a.marchMonth + 2 := by
    unfold monthIndex marchYear marchMonth
    split <;> omega
  have b_index : b.monthIndex = 12 * b.marchYear + b.marchMonth + 2 := by
    unfold monthIndex marchYear marchMonth
    split <;> omega
  have a_months : 0 ≤ a.marchMonth ∧ a.marchMonth ≤ 11 := by
    unfold marchMonth
    split <;> omega
  have b_months : 0 ≤ b.marchMonth ∧ b.marchMonth ≤ 11 := by
    unfold marchMonth
    split <;> omega
  unfold toDays
  -- Either the year that begins in March is a later one, or the month in it is.
  by_cases year : a.marchYear < b.marchYear
  · have years := daysBeforeYear_add_le (a := a.marchYear + 1) (b := b.marchYear) year
    omega
  · have same : a.marchYear = b.marchYear := by omega
    rw [same]
    omega

namespace Granularity

variable {unit : IntervalUnit} {count : Nat} {t next : Timestamp}

/-- The end of a window that starts at the given instant, also where no instant lies that far. -/
def endNanos (unit : IntervalUnit) (count : Nat) (t : Timestamp) : Int :=
  match unit.nanos? with
  | some width => t.nanos + count * width
  | none => (t.date.addMonths count).toDays * nanosPerDay + t.timeOfDay

theorem advance?_interval (unit : IntervalUnit) (count : Nat) (t : Timestamp) :
    (interval unit count).advance? t = Timestamp.ofNanos? (endNanos unit count t) := by
  simp only [advance?, endNanos]
  cases unit.nanos? with
  | some width => rfl
  | none => rfl

theorem lt_endNanos (positive : 0 < count) (t : Timestamp) : t.nanos < endNanos unit count t := by
  unfold endNanos
  cases fixed : unit.nanos? with
  | some width =>
      have wide : 0 < width := by
        cases unit <;> cases fixed <;> decide
      have := Nat.mul_pos positive wide
      simp only
      omega
  | none =>
      have valid := Date.valid_ofDays (t.nanos / nanosPerDay)
      have later : t.date.toDays < (t.date.addMonths count).toDays := by
        refine Date.toDays_lt valid (valid.addMonths count) ?_
        rw [Date.monthIndex_addMonths]
        omega
      have today : t.date.toDays = t.nanos / nanosPerDay := Date.toDays_ofDays _
      simp only [Timestamp.timeOfDay, nanosPerDay, secondsPerDay, nanosPerSecond] at today ⊢
      omega

/-- A window of at least one unit has no end just if that would lie past the last instant. -/
theorem advance?_eq_none_iff (positive : 0 < count) :
    (interval unit count).advance? t = none ↔
      Timestamp.latest.nanos < endNanos unit count t := by
  have later := @lt_endNanos unit _ positive t
  have inRange := t.inRange
  rw [advance?_interval, Timestamp.ofNanos?]
  split
  · simp only [reduceCtorEq, false_iff, Timestamp.latest]
    omega
  · simp only [true_iff, Timestamp.latest]
    omega

theorem lt_of_advance? (positive : 0 < count)
    (ends : (interval unit count).advance? t = some next) : t < next := by
  rw [advance?_interval] at ends
  rw [Timestamp.lt_def, Timestamp.nanos_of_ofNanos? ends]
  exact lt_endNanos positive t

end Granularity

end Metering
