import Metering.Proofs.Series.CounterSeries
import Metering.Proofs.Series.Difference

/-!
Totals of a counter that never decreases.

The number of a window of totals is the difference between its last reading and the reading the
evaluator got last before it. Where that is a reading from before the window was reached, the
difference is not negative. It can also be a reading that arrived late, while the window was being
collected, and then it may be greater: the window is `Overtaken`, and its number is negative
(`compute_totalCount_nonneg_iff`).
-/

namespace Metering.Series

open Metering.Time

/-! ### The readings a window is computed from -/

section Readings

variable {ν : Type} [Arithmetic ν] {r : Reading ν → Reading ν → Prop}

theorem readings_sublist {first second : List Sample} (sublist : first.Sublist second) :
    (readings first : List (Reading ν)).Sublist (readings second) :=
  sublist.filterMap _

theorem readings_subset {first second : List Sample} (subset : first ⊆ second) :
    (readings first : List (Reading ν)) ⊆ readings second :=
  List.filterMap_subset _ subset

/-- The readings of one window stand in the order of all. -/
theorem pairwise_members {samples : List Sample} (pairwise : (readings samples).Pairwise r)
    (windows : List Window) (k : Nat) (w : Window) :
    (readings (w.members (consumedIn windows samples k))).Pairwise r :=
  pairwise.sublist
    (readings_sublist (List.filter_sublist.trans (consumed_sublist windows samples _)))

/-- What the evaluator got before a window was reached stands before what is consumed during it. -/
theorem rel_of_fedBefore {start stop : Timestamp} {windows : List Window} {w : Window} {k : Nat}
    {samples : List Sample} (tiles : Tiles stop start windows) (at_k : windows[k]? = some w)
    (pairwise : (readings samples).Pairwise r) {earlier later : Reading ν}
    (before : earlier ∈ readings (fedBefore windows samples k))
    (during : later ∈ readings (consumedIn windows samples k)) : r earlier later := by
  cases k with
  | zero =>
      rw [fedBefore_zero] at before
      cases before
  | succ k =>
      rw [consumedIn_succ tiles at_k] at during
      have before := readings_subset (fedBefore_perm tiles at_k samples).subset before
      have during := readings_subset (List.takeWhile_subset _) during
      rw [← reached_append_unreached w.start samples, readings_append,
        List.pairwise_append] at pairwise
      exact pairwise.2.2 earlier before later during

end Readings

/-! ### Negative totals -/

/-- The last reading that arrives late for the window is greater than the last one within its
bounds. -/
def Window.Overtaken (w : Window) (samples : List Sample) : Prop :=
  ∃ late last : Reading Float, (readings (w.stragglers samples)).getLast? = some late ∧
    (readings (w.members samples)).getLast? = some last ∧ last.raw < late.raw

/-- A difference of two readings is not negative just if the first one is at most the last. -/
theorem sub_nonneg_iff {first last : Reading Float} (finite_first : first.raw.isFinite = true)
    (finite_last : last.raw.isFinite = true) :
    0 ≤ Arithmetic.sub last.raw first.raw ↔ ¬ last.raw < first.raw := by
  rw [← Binary64.not_le_iff_lt finite_first finite_last, not_not]
  exact Binary64.zero_le_sub_iff finite_first finite_last

/-- Of readings in order, the first is at most the last. -/
theorem head_le_last {inside : List (Reading Float)} {first last : Reading Float}
    (finite : ∀ r ∈ inside, r.raw.isFinite = true)
    (ascending : inside.Pairwise fun earlier later => earlier.raw ≤ later.raw)
    (begins : inside.head? = some first) (ends : inside.getLast? = some last) :
    first.raw ≤ last.raw := by
  cases ascending with
  | nil => cases begins
  | @cons r rest onward _ =>
      obtain rfl : r = first := by simpa using begins
      cases rest with
      | nil =>
          obtain rfl : r = last := by simpa using ends
          exact Binary64.le_refl_of_isFinite (finite r List.mem_cons_self)
      | cons next rest =>
          rw [List.getLast?_cons_cons] at ends
          exact onward last (List.mem_of_getLast? ends)

/-- The total of a window with readings is the difference between its last reading and the one
it starts from. -/
theorem windowValue_totalCount (before : List (Reading Float)) {inside : List (Reading Float)}
    {last : Reading Float} (ends : inside.getLast? = some last) :
    ∃ first, (before.getLast? <|> inside.head?) = some first ∧
      windowValue .totalCount before inside = Arithmetic.sub last.raw first.raw := by
  cases inside with
  | nil => cases ends
  | cons head rest =>
      simp only [windowValue, ends, List.head?_cons]
      cases before.getLast? with
      | none => exact ⟨head, rfl, rfl⟩
      | some first => exact ⟨first, rfl, rfl⟩

/-- A total is negative just if a late reading is greater than the last one of the window. -/
theorem windowValue_totalCount_nonneg_iff {fed late inside : List (Reading Float)}
    (finite : ∀ r ∈ fed ++ late ++ inside, r.raw.isFinite = true)
    (early : ∀ first ∈ fed, ∀ last ∈ inside, first.raw ≤ last.raw)
    (ascending : inside.Pairwise fun earlier later => earlier.raw ≤ later.raw) :
    0 ≤ windowValue .totalCount (fed ++ late) inside ↔
      ¬ ∃ lateLast last, late.getLast? = some lateLast ∧ inside.getLast? = some last ∧
        last.raw < lateLast.raw := by
  cases ends : inside.getLast? with
  | none =>
      have empty : windowValue .totalCount (fed ++ late) inside = Arithmetic.zero := by
        simp [windowValue, ends]
      rw [empty]
      refine iff_of_true (by decide) ?_
      rintro ⟨_, _, -, no_last, -⟩
      cases no_last
  | some last =>
      have last_mem := List.mem_of_getLast? ends
      have finite_last := finite last (List.mem_append_right _ last_mem)
      obtain ⟨first, starts, value⟩ := windowValue_totalCount (fed ++ late) ends
      rw [value, List.getLast?_append] at *
      cases late_ends : late.getLast? with
      | some lateLast =>
          obtain rfl : lateLast = first := by simpa [late_ends] using starts
          have late_mem := List.mem_of_getLast? late_ends
          have finite_late := finite lateLast (by simp [late_mem])
          rw [sub_nonneg_iff finite_late finite_last]
          simp
      | none =>
          obtain ⟨finite_first, le⟩ : first.raw.isFinite = true ∧ first.raw ≤ last.raw := by
            cases fed_ends : fed.getLast? with
            | some fedLast =>
                obtain rfl : fedLast = first := by simpa [late_ends, fed_ends] using starts
                have fed_mem := List.mem_of_getLast? fed_ends
                exact ⟨finite fedLast (by simp [fed_mem]), early fedLast fed_mem last last_mem⟩
            | none =>
                have begins : inside.head? = some first := by
                  simpa [late_ends, fed_ends] using starts
                have finite_inside : ∀ r ∈ inside, r.raw.isFinite = true :=
                  fun r member => finite r (List.mem_append_right _ member)
                exact ⟨finite_inside first (List.mem_of_head? begins),
                  head_le_last finite_inside ascending begins ends⟩
          refine iff_of_true ((Binary64.zero_le_sub_iff finite_first finite_last).mpr le) ?_
          rintro ⟨_, _, no_late, -, -⟩
          cases no_late

/-- **Totals of a counter that never decreases.** Whatever the timestamps do, the number of a
window is negative just if the window is overtaken. -/
theorem compute_totalCount_nonneg_iff {settings : AggregationSettings} {q : Query} {d : Definition}
    {i : Instance} {unit : IntervalUnit} {count : Nat} {s : Series Float}
    (counter : d.body = .counterSampled .totalCount)
    (intervals : q.granularity = .interval unit count)
    (finite : ∀ r ∈ (readings i.store.samples : List (Reading Float)), r.raw.isFinite = true)
    (ascending : (readings i.store.samples : List (Reading Float)).Pairwise
      fun earlier later => earlier.raw ≤ later.raw)
    (computed : compute settings q d i = .ok s) :
    s.values.numbers.length = s.windows.length ∧
      (∀ {k : Nat} {w : Window}, s.windows[k]? = some w →
        ∃ value, s.values.numbers[k]? = some value ∧
          (0 ≤ value ↔ ¬ w.Overtaken (consumedIn s.windows i.store.samples k))) ∧
      ((∀ value ∈ s.values.numbers, 0 ≤ value) ↔
        ∀ {k : Nat} {w : Window}, s.windows[k]? = some w →
          ¬ w.Overtaken (consumedIn s.windows i.store.samples k)) := by
  obtain ⟨start, stop, -, tiles, sized, each⟩ := compute_counter_values counter intervals computed
  have signs : ∀ {k : Nat} {w : Window}, s.windows[k]? = some w →
      ∃ value, s.values.numbers[k]? = some value ∧
        (0 ≤ value ↔ ¬ w.Overtaken (consumedIn s.windows i.store.samples k)) := by
    intro k w at_k
    have within : consumedIn s.windows i.store.samples k ⊆ i.store.samples :=
      (consumed_sublist _ _ _).subset
    refine ⟨_, each at_k, ?_⟩
    rw [readings_append]
    refine windowValue_totalCount_nonneg_iff ?_ ?_ (pairwise_members ascending s.windows k w)
    · intro r member
      rw [← readings_append, ← readings_append] at member
      refine finite r (readings_subset (fun sample among => ?_) member)
      simp only [List.mem_append] at among
      rcases among with (before | late) | inside
      · exact fedBefore_subset _ _ _ before
      · exact within (List.filter_sublist.subset late)
      · exact within (List.filter_sublist.subset inside)
    · intro first before last inside
      have during := readings_subset List.filter_sublist.subset inside
      exact rel_of_fedBefore tiles at_k ascending before during
  refine ⟨sized, signs, ?_, ?_⟩
  · intro nonneg k w at_k
    obtain ⟨value, found, sign⟩ := signs at_k
    exact sign.mp (nonneg value (List.mem_of_getElem? found))
  · intro none_overtaken value member
    obtain ⟨k, found⟩ := List.mem_iff_getElem?.mp member
    have bound : k < s.windows.length := by
      rw [← sized]
      exact (List.getElem?_eq_some_iff.mp found).1
    have at_k := List.getElem?_eq_getElem bound
    obtain ⟨other, found', sign⟩ := signs at_k
    obtain rfl : value = other := Option.some.inj (found.symm.trans found')
    exact sign.mpr (none_overtaken at_k)

/-! ### A negative total -/

/-- Readings that only go up, the last one stamped before the window that it is read in: the
number of that window is negative. -/
theorem compute_totalCount_negative :
    let d := Definition.ofSchema 0 ⟨"Net", "Nic", "Bytes"⟩ (.counterSampled .totalCount)
    let i : Instance := ⟨0, 0, "net~nic~bytes~", none, ⟨lateReadings⟩⟩
    let q : Query := ⟨.interval .second 5, some ⟨0, by decide⟩, some ⟨10000000000, by decide⟩,
      .occurrences⟩
    d.body = .counterSampled .totalCount ∧ q.granularity = .interval .second 5 ∧
    (∀ r ∈ (readings i.store.samples : List (Reading Float)), r.raw.isFinite = true) ∧
    (readings i.store.samples : List (Reading Float)).Pairwise
      (fun earlier later => earlier.raw ≤ later.raw) ∧
    ∃ s : Series Float, compute {} q d i = .ok s ∧ ∃ value ∈ s.values.numbers, value < 0 := by
  intro d i q
  have numbers : ((compute {} q d i : Except Error (Series Float)).map fun s =>
      s.values.numbers).toOption = some [0, -10] := by decide +kernel
  refine ⟨rfl, rfl, by decide +kernel, by decide +kernel, ?_⟩
  cases computed : (compute {} q d i : Except Error (Series Float)) with
  | error e => simp [computed, Except.map, Except.toOption] at numbers
  | ok s =>
      rw [computed] at numbers
      simp only [Except.map, Except.toOption, Option.some.injEq] at numbers
      exact ⟨s, rfl, -10, by rw [numbers]; simp, by decide⟩

/-- The window with the negative number is the one that is overtaken. -/
theorem compute_totalCount_nonneg_iff_lateReadings :
    let d := Definition.ofSchema 0 ⟨"Net", "Nic", "Bytes"⟩ (.counterSampled .totalCount)
    let i : Instance := ⟨0, 0, "net~nic~bytes~", none, ⟨lateReadings⟩⟩
    let q : Query := ⟨.interval .second 5, some ⟨0, by decide⟩, some ⟨10000000000, by decide⟩,
      .occurrences⟩
    d.body = .counterSampled .totalCount ∧ q.granularity = .interval .second 5 ∧
    (∀ r ∈ (readings i.store.samples : List (Reading Float)), r.raw.isFinite = true) ∧
    (readings i.store.samples : List (Reading Float)).Pairwise
      (fun earlier later => earlier.raw ≤ later.raw) ∧
    ∃ s : Series Float, compute {} q d i = .ok s ∧
      s.values.numbers = [0, -10] ∧
      ∀ {k : Nat} {w : Window}, s.windows[k]? = some w →
        (w.Overtaken (consumedIn s.windows i.store.samples k) ↔ k = 1) := by
  intro d i q
  have finite : ∀ r ∈ (readings i.store.samples : List (Reading Float)), r.raw.isFinite = true := by
    decide +kernel
  have ascending : (readings i.store.samples : List (Reading Float)).Pairwise
      (fun earlier later => earlier.raw ≤ later.raw) := by decide +kernel
  have numbers : ((compute {} q d i : Except Error (Series Float)).map fun s =>
      s.values.numbers).toOption = some [0, -10] := by decide +kernel
  refine ⟨rfl, rfl, finite, ascending, ?_⟩
  cases computed : (compute {} q d i : Except Error (Series Float)) with
  | error e => simp [computed, Except.map, Except.toOption] at numbers
  | ok s =>
      rw [computed] at numbers
      simp only [Except.map, Except.toOption, Option.some.injEq] at numbers
      obtain ⟨sized, signs, -⟩ := compute_totalCount_nonneg_iff rfl rfl finite ascending computed
      refine ⟨s, rfl, numbers, ?_⟩
      intro k w at_k
      obtain ⟨value, found, sign⟩ := signs at_k
      rw [numbers] at found
      rcases k with _ | _ | k
      · obtain rfl : (0 : Float) = value := Option.some.inj found
        exact iff_of_false (sign.mp (by decide)) (by decide)
      · obtain rfl : (-10 : Float) = value := Option.some.inj found
        exact iff_of_true (not_not.mp (mt sign.mpr (by decide))) rfl
      · cases found

end Metering.Series
