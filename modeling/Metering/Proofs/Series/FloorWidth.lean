import Metering.Proofs.Series.Additive
import Metering.Proofs.Series.WindowEnds

/-!
The width of windows that are given in milliseconds.

All windows of a range are equally wide, but for the last one, which is cut off at the end of the
range (`tile_dropLast_width`). Windows in milliseconds are raised to the floor of the settings before
they are cut, but only to its whole milliseconds: a floor of one and a half allows windows of one.
`compute_floored_iff` says which floors are reached, and that the others are missed by less than a
millisecond.
-/

namespace Metering

open Metering.Time

/-! ### Raising a count of milliseconds -/

namespace Granularity

/-- How many milliseconds a window of the given number of them is made wide. -/
def flooredCount (floor : Duration) (count : Nat) : Nat :=
  max count (max 1 (min floor.millis maxCount))

theorem withFloor_millisecond (floor : Duration) (count : Nat) :
    (Granularity.interval .millisecond count).withFloor floor =
      .interval .millisecond (flooredCount floor count) :=
  rfl

/-- The floor is reached if it is no wider than what was asked for or than one millisecond, or if it
is some number of whole milliseconds that a window can have. -/
theorem le_flooredCount_iff (floor : Duration) (count : Nat) :
    floor.nanos ≤ flooredCount floor count * 1000000 ↔
      floor.nanos ≤ count * 1000000 ∨ floor.nanos ≤ 1000000 ∨
        (1000000 ∣ floor.nanos ∧ floor.nanos ≤ maxCount * 1000000) := by
  unfold flooredCount Duration.millis
  have cap : maxCount = 4294967295 := rfl
  omega

/-- Of a floor that a window can have, less than a millisecond is missing. -/
theorem lt_flooredCount_add_one {floor : Duration} (fits : floor.nanos ≤ maxCount * 1000000)
    (count : Nat) : floor.nanos < (flooredCount floor count + 1) * 1000000 := by
  unfold flooredCount Duration.millis
  omega

end Granularity

namespace Series

/-- How wide a window is, in nanoseconds. -/
def Window.width (w : Window) : Int :=
  w.stop.nanos - w.start.nanos

/-! ### Windows of a fixed width -/

section Fixed

variable {unit : IntervalUnit} {count size : Nat} {start stop : Timestamp}

theorem tile_of_not_lt {g : Granularity} (after : ¬ start < stop) :
    tile g start stop = ⟨[], none⟩ := by
  rw [tile, dif_neg after]

/-- Of windows with a fixed width only the last one can be cut off. -/
theorem tile_dropLast_width (fixed : unit.nanos? = some size) (start stop : Timestamp) :
    ∀ w ∈ (tile (.interval unit count) start stop).windows.dropLast,
      w.width = (count * size : Nat) := by
  fun_induction tile (.interval unit count) start stop with
  | case1 => exact fun w listed => by cases listed
  | case2 start before next ends later rest ih =>
      intro w listed
      have others : rest.windows ≠ [] := by
        rintro none_left
        simp [none_left] at listed
      rw [List.dropLast_cons_of_ne_nil others] at listed
      cases listed with
      | tail _ listed => exact ih w listed
      | head =>
          -- As more windows follow, this one ends before the range does.
          have more : min next stop < stop := by
            by_contra after
            exact others (congrArg Tiling.windows (tile_of_not_lt after))
          have advanced := nanos_of_advance? fixed ends
          rw [Timestamp.lt_def, Timestamp.nanos_min] at more
          change (min next stop).nanos - start.nanos = _
          rw [Timestamp.nanos_min]
          omega
  | case3 => exact fun w listed => by cases listed
  | case4 => exact fun w listed => by cases listed

end Fixed

/-! ### Queries -/

section Compute

variable {ν : Type} [Arithmetic ν] {settings : AggregationSettings} {q : Query} {d : Definition}
  {i : Instance} {s : Series ν} {count : Nat}

/-- **Windows against the floor.** A series of windows that are given in milliseconds has windows of
a number of whole milliseconds, one after the other over its range, and a value at the end of each;
only the last one can be narrower. They miss a floor that a window can have by less than a
millisecond. They reach it just if there are no two windows, or if the floor is no wider than what the
query asks for or than one millisecond, or if it is some number of whole milliseconds that a window
can have. -/
theorem compute_floored_iff (milliseconds : q.granularity = .interval .millisecond count)
    (computed : compute settings q d i = .ok s) :
    s.granularity = .interval .millisecond (Granularity.flooredCount settings.floor count) ∧
    (∃ start stop, s.range = some (start, stop) ∧ Tiles stop start s.windows) ∧
    s.values.stamps = s.windows.map (·.stop) ∧
    (∀ w ∈ s.windows.dropLast,
      w.width = (Granularity.flooredCount settings.floor count * 1000000 : Nat) ∧
      (settings.floor.nanos ≤ Granularity.maxCount * 1000000 →
        settings.floor.nanos < w.width + 1000000)) ∧
    ((∀ w ∈ s.windows.dropLast, settings.floor.nanos ≤ w.width) ↔
      s.windows.length ≤ 1 ∨ settings.floor.nanos ≤ count * 1000000 ∨
        settings.floor.nanos ≤ 1000000 ∨
        (1000000 ∣ settings.floor.nanos ∧
          settings.floor.nanos ≤ Granularity.maxCount * 1000000)) := by
  obtain ⟨σ, ev, initial, failures, answered⟩ := exists_scan_of_compute computed
  obtain ⟨start, stop, final, -, range, tiles, scanned, series⟩ :=
    scan_intervals_eq_ok milliseconds answered
  have granularity : s.granularity =
      .interval .millisecond (Granularity.flooredCount settings.floor count) := by
    rw [series, milliseconds]
    exact Granularity.withFloor_millisecond settings.floor count
  have values : s.values = final.values := congrArg Series.values series
  have stamps : s.values.stamps = s.windows.map (·.stop) := by
    rw [values, scanWindows_stamps scanned]
    rfl
  have width : ∀ w ∈ s.windows.dropLast,
      w.width = (Granularity.flooredCount settings.floor count * 1000000 : Nat) := by
    rw [windows, range, granularity]
    exact tile_dropLast_width rfl start stop
  refine ⟨granularity, ⟨start, stop, range, tiles⟩, stamps, fun w listed => ⟨width w listed, ?_⟩, ?_⟩
  · intro fits
    have short := Granularity.lt_flooredCount_add_one fits count
    rw [width w listed]
    omega
  · rw [← Granularity.le_flooredCount_iff]
    constructor
    · intro reach
      refine or_iff_not_imp_left.mpr fun more => ?_
      obtain ⟨w, listed⟩ := List.exists_mem_of_length_pos (l := s.windows.dropLast)
        (by rw [List.length_dropLast]; omega)
      have reached := reach w listed
      rw [width w listed] at reached
      exact_mod_cast reached
    · rintro (few | reached) w listed
      · have none_listed : s.windows.dropLast = [] := by
          rw [← List.length_eq_zero_iff, List.length_dropLast]
          omega
        simp [none_listed] at listed
      · rw [width w listed]
        exact_mod_cast reached

/-- A floor of one and a half milliseconds. -/
def fractionalFloor : Settings :=
  { aggregation := { floor := ⟨1500000, by decide⟩ } }

/-- The floor passes its check, and a query for one millisecond over four of them has windows of one,
all of them too narrow. -/
theorem compute_floored_narrow :
    let d := Definition.ofSchema 0 ⟨"App", "Job", "Runs"⟩ .event
    let i : Instance := ⟨0, 0, "app~job~runs~", none, {}⟩
    let q : Query := ⟨.interval .millisecond 1, some ⟨0, by decide⟩, some ⟨4000000, by decide⟩,
      .occurrences⟩
    fractionalFloor.validate = .ok fractionalFloor ∧
    fractionalFloor.aggregation.floor.nanos ≤ Granularity.maxCount * 1000000 ∧
    ∃ s : Series Float, compute fractionalFloor.aggregation q d i = .ok s ∧
      ¬ ∀ w ∈ s.windows.dropLast, fractionalFloor.aggregation.floor.nanos ≤ w.width := by
  intro d i q
  have answer : ((compute fractionalFloor.aggregation q d i : Except Error (Series Float)).map
      (·.windows.dropLast.map Window.width)).toOption = some [1000000, 1000000, 1000000] := by
    decide +kernel
  obtain ⟨s, computed, widths⟩ := exists_of_seen answer
  refine ⟨by decide +kernel, by decide, s, computed, fun reach => ?_⟩
  obtain ⟨w, listed, narrow⟩ := List.mem_map.mp (widths ▸ List.mem_cons_self)
  have reached := reach w listed
  rw [narrow] at reached
  exact absurd reached (by decide)

/-- With the same floor, windows of one millisecond do not reach it, and windows of two do. -/
theorem compute_floored_iff_fractionalFloor :
    let d := Definition.ofSchema 0 ⟨"App", "Job", "Runs"⟩ .event
    let i : Instance := ⟨0, 0, "app~job~runs~", none, {}⟩
    let every : Nat → Query := fun count => ⟨.interval .millisecond count, some ⟨0, by decide⟩,
      some ⟨4000000, by decide⟩, .occurrences⟩
    ∃ s s' : Series Float,
      compute fractionalFloor.aggregation (every 1) d i = .ok s ∧ s.windows.length = 4 ∧
      (¬ ∀ w ∈ s.windows.dropLast, fractionalFloor.aggregation.floor.nanos ≤ w.width) ∧
      compute fractionalFloor.aggregation (every 2) d i = .ok s' ∧ s'.windows.length = 2 ∧
      ∀ w ∈ s'.windows.dropLast, fractionalFloor.aggregation.floor.nanos ≤ w.width := by
  intro d i every
  have answer : ((compute fractionalFloor.aggregation (every 1) d i :
      Except Error (Series Float)).map (·.windows.length)).toOption = some 4 := by decide +kernel
  have answer' : ((compute fractionalFloor.aggregation (every 2) d i :
      Except Error (Series Float)).map (·.windows.length)).toOption = some 2 := by decide +kernel
  obtain ⟨s, computed, four⟩ := exists_of_seen answer
  obtain ⟨s', computed', two⟩ := exists_of_seen answer'
  obtain ⟨-, -, -, -, reaches⟩ := compute_floored_iff rfl computed
  obtain ⟨-, -, -, -, reaches'⟩ := compute_floored_iff rfl computed'
  refine ⟨s, s', computed, four, fun reach => ?_, computed', two, reaches'.mpr (.inr (.inl ?_))⟩
  · rcases reaches.mp reach with few | reached
    · omega
    · exact absurd reached (by decide)
  · decide

end Compute

end Series

end Metering
