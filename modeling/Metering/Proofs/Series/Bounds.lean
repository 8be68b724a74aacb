import Metering.Proofs.Purity
import Metering.Proofs.Series.Cutoff
import Metering.Proofs.Series.PerSample

/-!
The bounds of a series.

A bound that is given is kept, and one that is left open is put round the samples, without crossing
the other bound (`Query.Bounds`, `bounds_of_resolveBounds`). All values of the series are stamped
between the two (`stamps_within`). As a scan knows of a query only the granularity and the bounds
(`scan_congr`), giving it the bounds that it came to changes nothing: `compute_bounds` says that the
series of the same query with these bounds is the same one.
-/

namespace Metering.Series

open Metering.Time

/-- The bounds that a query comes to over the samples. -/
structure Query.Bounds (q : Query) (samples : List Sample) (start stop : Timestamp) : Prop where
  ordered : start ≤ stop
  start_given : ∀ {t : Timestamp}, q.start = some t → start = t
  stop_given : ∀ {t : Timestamp}, q.stop = some t → stop = t
  /-- An open start leaves out nothing that is stamped up to the end. -/
  start_open : q.start = none →
    ∀ sample ∈ samples, sample.timestamp ≤ stop → start ≤ sample.timestamp
  /-- It is where a sample is stamped, or at the end. -/
  start_tight : q.start = none → (∃ sample ∈ samples, sample.timestamp = start) ∨ start = stop
  /-- An open end leaves out nothing. -/
  stop_open : q.stop = none → ∀ sample ∈ samples, sample.timestamp ≤ stop
  /-- It is where a sample is stamped, or at the start. -/
  stop_tight : q.stop = none → (∃ sample ∈ samples, sample.timestamp = stop) ∨ stop = start

/-! ### Open bounds -/

section Resolve

variable {q : Query} {samples : List Sample} {start stop : Timestamp}

/-- An open start is the lowest timestamp, or the end if that is given and lies before it. -/
theorem start_of_open (opens : q.start = none)
    (bounds : resolveBounds q samples = (some start, some stop)) :
    (∀ sample ∈ samples, sample.timestamp ≤ stop → start ≤ sample.timestamp) ∧
      ((∃ sample ∈ samples, sample.timestamp = start) ∨ start = stop) := by
  obtain ⟨first, last⟩ := Prod.mk.inj bounds
  cases lowest : (samples.map (·.timestamp)).min? with
  | none =>
      have empty := List.map_eq_nil_iff.mp (List.min?_eq_none_iff.mp lowest)
      have ends : q.stop = some start := by simpa [opens, empty] using first
      refine ⟨fun sample held => by simp [empty] at held, .inr ?_⟩
      simpa [ends] using last
  | some low =>
      have from_low := low_le_timestamp lowest
      obtain ⟨sample, held, at_low⟩ := List.mem_map.mp (List.min?_mem lowest)
      cases ends : q.stop with
      | none =>
          obtain rfl : low = start := by simpa [opens, lowest, ends] using first
          exact ⟨fun sample held _ => from_low sample held, .inl ⟨sample, held, at_low⟩⟩
      | some t =>
          obtain rfl : min low t = start := by simpa [opens, lowest, ends] using first
          obtain rfl : t = stop := by simpa [ends] using last
          refine ⟨fun sample held _ => Std.le_trans Std.min_le_left (from_low sample held), ?_⟩
          rcases Std.MinEqOr.min_eq_or low t with same | same
          · exact .inl ⟨sample, held, at_low.trans same.symm⟩
          · exact .inr same

/-- An open end is the highest timestamp, or the start if that lies after it. -/
theorem stop_of_open (opens : q.stop = none)
    (bounds : resolveBounds q samples = (some start, some stop)) :
    (∀ sample ∈ samples, sample.timestamp ≤ stop) ∧
      ((∃ sample ∈ samples, sample.timestamp = stop) ∨ stop = start) := by
  obtain ⟨first, last⟩ := Prod.mk.inj bounds
  rw [first, opens] at last
  cases highest : (samples.map (·.timestamp)).max? with
  | none =>
      have empty := List.map_eq_nil_iff.mp (List.max?_eq_none_iff.mp highest)
      refine ⟨fun sample held => by simp [empty] at held, .inr ?_⟩
      simpa [empty, eq_comm] using last
  | some high =>
      obtain rfl : max high start = stop := by simpa [highest] using last
      refine ⟨fun sample held =>
        Std.le_trans (timestamp_le_high highest sample held) Std.left_le_max, ?_⟩
      obtain ⟨sample, held, at_high⟩ := List.mem_map.mp (List.max?_mem highest)
      rcases Std.MaxEqOr.max_eq_or high start with same | same
      · exact .inl ⟨sample, held, at_high.trans same.symm⟩
      · exact .inr same

theorem bounds_of_resolveBounds (checked : checkBounds q = .ok ())
    (bounds : resolveBounds q samples = (some start, some stop)) :
    q.Bounds samples start stop := by
  have ordered : start ≤ stop := by
    rcases resolveBounds_cases checked samples with ⟨_, _, bounds', ordered⟩ | ⟨nothing, -⟩
    · obtain ⟨rfl, rfl⟩ : _ ∧ _ := by simpa [bounds] using bounds'
      exact ordered
    · simp [bounds] at nothing
  obtain ⟨first, last⟩ := Prod.mk.inj bounds
  exact {
    ordered
    start_given := fun given => by simpa [given, eq_comm] using first
    stop_given := fun given => by simpa [given, eq_comm] using last
    start_open := fun opens => (start_of_open opens bounds).1
    start_tight := fun opens => (start_of_open opens bounds).2
    stop_open := fun opens => (stop_of_open opens bounds).1
    stop_tight := fun opens => (stop_of_open opens bounds).2 }

end Resolve

/-! ### Values within the bounds -/

section Scan

variable {σ ν : Type} [Arithmetic ν] {ev : Evaluator σ ν} {initial : σ}
  {settings : AggregationSettings} {q q' : Query} {samples : List Sample} {failures : σ → Nat}
  {s : Series ν} {start stop : Timestamp}

/-- A value is stamped with the end of a window, or with the timestamp of its sample. -/
theorem stamps_within (answered : scan ev initial settings q samples failures = .ok s)
    (range : s.range = some (start, stop)) : ∀ t ∈ s.values.stamps, start ≤ t ∧ t ≤ stop := by
  intro t stamped
  cases granularity : q.granularity with
  | shortest =>
      obtain ⟨ordered, final, values, scanned⟩ := scan_shortest_eq_ok granularity answered range
      rw [values, @scanSamples_stamps _ _ _ _ _ _ ordered _ 0 _ _ scanned] at stamped
      obtain ⟨⟨sample, place⟩, listed, rfl⟩ := List.mem_map.mp stamped
      obtain ⟨reached, from_start⟩ := List.mem_filter.mp listed
      exact ⟨of_decide_eq_true from_start, le_of_mem_reached (List.fst_mem_of_mem_zipIdx reached)⟩
  | interval unit count =>
      obtain ⟨start', stop', final, -, range', tiles, scanned, series⟩ :=
        scan_intervals_eq_ok granularity answered
      obtain ⟨rfl, rfl⟩ := Prod.mk.inj (Option.some.inj (range.symm.trans range'))
      have values : s.values = final.values := congrArg Series.values series
      rw [values, scanWindows_stamps scanned] at stamped
      obtain ⟨w, listed, rfl⟩ := List.mem_map.mp stamped
      obtain ⟨-, after, upTo⟩ := tiles.bounds w listed
      exact ⟨Std.le_of_lt after, upTo⟩

/-- A scan knows of a query only the granularity and the bounds that it comes to. -/
theorem scan_congr (granularity : q'.granularity = q.granularity)
    (bounds : resolveBounds q' samples = resolveBounds q samples) :
    scan ev initial settings q' samples failures = scan ev initial settings q samples failures := by
  rw [scan, granularity, bounds, scan]

end Scan

/-! ### Queries -/

section Compute

variable {ν : Type} [Arithmetic ν] {settings : AggregationSettings} {q : Query} {d : Definition}
  {i : Instance} {samples : List Sample} {s : Series ν} {start stop : Timestamp}

/-- A query that can be planned passes every check that needs no sample. -/
theorem plan_eq_ok {trended : Option Nat} (planned : plan q d = .ok trended) :
    checkGranularity q.granularity = .ok () ∧ checkBounds q = .ok () ∧
      resolve d q.selector = .ok trended := by
  unfold plan at planned
  cases nonempty : checkGranularity q.granularity with
  | error e => simp [nonempty, Except.bind] at planned
  | ok =>
      cases checked : checkBounds q with
      | error e => simp [nonempty, checked, Except.bind] at planned
      | ok => exact ⟨rfl, rfl, by simpa [nonempty, checked, Except.bind] using planned⟩

/-- Bounds in order pass the checks, in whose place they stand. -/
theorem plan_of_bounds {trended : Option Nat} (planned : plan q d = .ok trended)
    (ordered : start ≤ stop) :
    plan { q with start := some start, stop := some stop } d = .ok trended := by
  have checked : checkBounds { q with start := some start, stop := some stop } = .ok () :=
    if_neg (Std.not_lt.mpr ordered)
  obtain ⟨nonempty, -, resolved⟩ := plan_eq_ok planned
  rw [plan, nonempty, checked]
  exact resolved

/-- The column that is trended decides by which evaluator the samples are scanned, or that they are
not. -/
theorem exists_evaluator (settings : AggregationSettings) (d : Definition) (trended : Option Nat) :
    (∃ e, ∀ {q : Query} {samples : List Sample}, plan q d = .ok trended →
      (computeOver settings q d samples : Except Error (Series ν)) = .error e) ∨
    ∃ (σ : Type) (ev : Evaluator σ ν) (initial : σ) (failures : σ → Nat),
      ∀ {q : Query} {samples : List Sample}, plan q d = .ok trended →
        computeOver settings q d samples = scan ev initial settings q samples failures := by
  unfold computeOver
  cases d.body with
  | counterSampled type => exact .inr ⟨_, _, _, _, fun planned => by rw [planned]⟩
  | event columns =>
      cases trended with
      | none => exact .inr ⟨_, _, _, _, fun planned => by rw [planned]⟩
      | some serial =>
          cases found : targetOf columns.lock serial with
          | error e => exact .inl ⟨e, fun planned => by simp only [planned, found]⟩
          | ok target => exact .inr ⟨_, _, _, _, fun planned => by simp only [planned, found]; rfl⟩

/-- A query that is answered was one scan, and so is each query planned to trend the same column. -/
theorem exists_scan_of_computeOver (computed : computeOver settings q d samples = .ok s) :
    ∃ (trended : Option Nat) (σ : Type) (ev : Evaluator σ ν) (initial : σ) (failures : σ → Nat),
      plan q d = .ok trended ∧ ∀ {q' : Query}, plan q' d = .ok trended →
        computeOver settings q' d samples = scan ev initial settings q' samples failures := by
  cases planned : plan q d with
  | error e => simp [computeOver, planned] at computed
  | ok trended =>
      rcases exists_evaluator (ν := ν) settings d trended with
        ⟨e, refused⟩ | ⟨σ, ev, initial, failures, scans⟩
      · rw [refused planned] at computed
        cases computed
      · exact ⟨trended, σ, ev, initial, failures, rfl, fun planned' => scans planned'⟩

/-- A series has no range just if nothing bounds it: no sample, and neither bound of a query for the
shortest intervals. -/
theorem range_eq_none_iff {σ : Type} {ev : Evaluator σ ν} {initial : σ} {failures : σ → Nat}
    (checked : checkBounds q = .ok ())
    (answered : scan ev initial settings q samples failures = .ok s) :
    s.range = none ↔
      q.granularity = .shortest ∧ q.start = none ∧ q.stop = none ∧ samples = [] := by
  have range := scan_range answered
  rw [range]
  constructor
  · intro unbounded
    rcases resolveBounds_cases checked samples with ⟨_, _, bounds, -⟩ | ⟨bounds, free⟩
    · simp [bounds?, bounds] at unbounded
    · refine ⟨?_, free⟩
      cases granularity : q.granularity with
      | shortest => rfl
      | interval unit count =>
          obtain ⟨_, _, _, bounds', -⟩ := scan_intervals_eq_ok granularity answered
          cases bounds.symm.trans bounds'
  · rintro ⟨-, no_start, no_stop, rfl⟩
    rw [bounds?, resolveBounds, no_start, no_stop]
    rfl

/-- **The bounds of a series are sound, and stable.** A bound that is given is kept, and one that is
left open is put round all samples of the store, without crossing the other one. Every value is
stamped between the bounds. The same query with these bounds has the same series, also where the first
query has locked the columns. There is no range just for the shortest intervals of an empty store,
with no bound given. -/
theorem compute_bounds (computed : compute settings q d i = .ok s) :
    (∀ {start stop : Timestamp}, s.range = some (start, stop) →
      q.Bounds i.store.samples start stop ∧
      (∀ t ∈ s.values.stamps, start ≤ t ∧ t ≤ stop) ∧
      ∀ {d' : Definition}, d.Locks d' →
        compute settings { q with start := some start, stop := some stop } d' i = .ok s) ∧
    (s.range = none ↔
      q.granularity = .shortest ∧ q.start = none ∧ q.stop = none ∧ i.store.samples = []) := by
  rw [compute_eq_computeOver] at computed
  obtain ⟨trended, σ, ev, initial, failures, planned, scans⟩ := exists_scan_of_computeOver computed
  obtain ⟨-, checked, -⟩ := plan_eq_ok planned
  have answered := (scans planned).symm.trans computed
  refine ⟨fun {start stop} range => ?_, range_eq_none_iff checked answered⟩
  have resolved := bounds?_eq_some_iff.mp ((scan_range answered).symm.trans range)
  have bounds := bounds_of_resolveBounds checked resolved
  refine ⟨bounds, stamps_within answered range, fun locks => ?_⟩
  rw [compute_of_locks locks, compute_eq_computeOver, scans (plan_of_bounds planned bounds.ordered),
    ← answered]
  exact scan_congr rfl resolved.symm

/-- Latencies up to seven seconds, from an open start: it is the lowest timestamp, and the query with
both bounds has the same series, now that the columns are locked. Over an empty store the shortest
intervals have no range. -/
theorem compute_bounds_stragglingLatencies :
    let d : Definition := { id := 0, key := ⟨"Web", "Http", "Requests"⟩, body := .event latencies }
    let i : Instance := ⟨0, 0, "web~http~requests~", none, ⟨stragglingLatencies⟩⟩
    let empty : Instance := ⟨1, 0, "web~http~requests~b", some "b", {}⟩
    let q : Query := ⟨.interval .second 2, none, some (atSecond 7), .default⟩
    let q' : Query := { granularity := .shortest }
    ∃ s s' : Series Float, compute {} q d i = .ok s ∧ compute {} q' d empty = .ok s' ∧
      s.range = some (atSecond 1, atSecond 7) ∧
      s.values.stamps = [atSecond 3, atSecond 5, atSecond 7] ∧ s.coercionFailures = 1 ∧
      s.skipped = 1 ∧ q.Bounds stragglingLatencies (atSecond 1) (atSecond 7) ∧
      d.Locks d.lock ∧ d.isLocked = false ∧ d.lock.isLocked = true ∧
      compute {} { q with start := some (atSecond 1) } d.lock i = .ok s ∧ s'.range = none := by
  intro d i empty q q'
  have answer : ((compute {} q d i : Except Error (Series Float)).map fun s =>
      (s.range, s.values.stamps, s.coercionFailures, s.skipped)).toOption =
        some (some (atSecond 1, atSecond 7), [atSecond 3, atSecond 5, atSecond 7], 1, 1) := by
    decide +kernel
  have answer' : ((compute {} q' d empty : Except Error (Series Float)).map
      (·.values.stamps)).toOption = some [] := by decide +kernel
  obtain ⟨s, computed, seen⟩ := exists_of_seen answer
  obtain ⟨s', computed', -⟩ := exists_of_seen answer'
  simp only [Prod.mk.injEq] at seen
  obtain ⟨range, stamps, failures, skipped⟩ := seen
  obtain ⟨bounded, -⟩ := compute_bounds computed
  obtain ⟨-, unbounded⟩ := compute_bounds computed'
  obtain ⟨bounds, -, again⟩ := bounded range
  have locks : d.Locks d.lock := .inr rfl
  exact ⟨s, s', computed, computed', range, stamps, failures, skipped, bounds, locks, rfl, rfl,
    again locks, unbounded.mpr ⟨rfl, rfl, rfl, rfl⟩⟩

end Compute

end Metering.Series
