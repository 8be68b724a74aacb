import Metering.Proofs.Series.Fault

/-!
Samples that are cut off.

A series of events with a given start is computed without the leading run of samples stamped before
it. That makes no difference to its answer, whatever the timestamps after the run: the run belongs to
no window and is not counted as skipped (`scanIntervals_append_of_early`), and an end that is left
open does not come from it, as it never lies before the start (`resolveBounds_append_of_early`). So
`compute` answers as if it looked at every sample of the store (`compute_eq_computeOver`).
-/

namespace Metering.Series

open Metering.Time

/-- Computes the series of the given samples, none of which is cut off. -/
def computeOver {ν : Type} [Arithmetic ν] (settings : AggregationSettings) (q : Query)
    (d : Definition) (samples : List Sample) : Except Error (Series ν) :=
  match plan q d with
  | .error e => .error e
  | .ok trended =>
    match d.body, trended with
    | .counterSampled type, _ =>
      scan (counterEvaluator type) .initial settings q samples fun _ => 0
    | .event _, none =>
      scan (trendEvaluator none settings.coercion) .initial settings q samples (·.failures)
    | .event columns, some serial =>
      match targetOf columns.lock serial with
      | .error e => .error e
      | .ok target =>
        scan (trendEvaluator (some target) settings.coercion) .initial settings q samples
          (·.failures)

/-- The evaluator takes no notice of samples outside the windows. -/
def Evaluator.Heedless {σ ν : Type} (ev : Evaluator σ ν) : Prop :=
  ∀ state sample, ev.observe state sample = state

theorem heedless_trendEvaluator {ν : Type} [Arithmetic ν] (target : Option TrendTarget)
    (policy : CoercionPolicy) : (trendEvaluator target policy : Evaluator _ ν).Heedless :=
  fun _ _ => rfl

/-! ### A run of samples before the range -/

section Early

variable {σ ν : Type} {ev : Evaluator σ ν} {start : Timestamp} {early : List Sample}

/-- The first window passes over what is stamped before the range, and counts none of it. -/
theorem take_append_of_early (heedless : ev.Heedless)
    (before : ∀ sample ∈ early, sample.timestamp < start) {next : Timestamp} (later : start ≤ next)
    (state : σ) (samples : List Sample) :
    take ev start ⟨start, next⟩ state (early ++ samples) =
      take ev start ⟨start, next⟩ state samples := by
  induction early with
  | nil => rfl
  | cons sample rest ih =>
      have first := before sample List.mem_cons_self
      have within : ¬ next < sample.timestamp :=
        Std.not_lt.mpr (Std.le_trans (Std.le_of_lt first) later)
      have ih := ih fun other listed => before other (List.mem_cons_of_mem _ listed)
      rw [List.cons_append, take, if_neg within, if_pos first, heedless, ih,
        if_neg (Std.not_le.mpr first)]
      rfl

variable [Arithmetic ν]

theorem scanWindow_append_of_early (heedless : ev.Heedless)
    (before : ∀ sample ∈ early, sample.timestamp < start) {next : Timestamp} (later : start ≤ next)
    (samples : List Sample) (p : Progress σ ν) :
    scanWindow ev start ⟨start, next⟩ (early ++ samples) p =
      scanWindow ev start ⟨start, next⟩ samples p := by
  rw [scanWindow, take_append_of_early heedless before later, scanWindow]

/-- A scan over windows comes to the same without the run. -/
theorem scanIntervals_append_of_early (heedless : ev.Heedless)
    (before : ∀ sample ∈ early, sample.timestamp < start) (g : Granularity) (stop : Timestamp)
    (samples : List Sample) (p : Progress σ ν) :
    scanIntervals ev g start start stop (early ++ samples) p =
      scanIntervals ev g start start stop samples p := by
  rw [scanIntervals.eq_def ev g start start stop (early ++ samples),
    scanIntervals.eq_def ev g start start stop samples]
  by_cases width : start < stop
  · simp only [dif_pos width]
    cases g.advance? start with
    | none => rfl
    | some next =>
        by_cases onward : start < next
        · have later : start ≤ min next stop := by
            simp only [Timestamp.le_def, Timestamp.lt_def, Timestamp.nanos_min] at *
            omega
          simp only [dif_pos onward, scanWindow_append_of_early heedless before later]
        · simp only [dif_neg onward]
  · simp only [dif_neg width]

/-- So does a scan that gives a value to each sample. -/
theorem scanSamples_append_of_early (heedless : ev.Heedless)
    (before : ∀ sample ∈ early, sample.timestamp < start) (stop : Timestamp)
    (samples : List Sample) (p : Progress σ ν) :
    scanSamples ev start stop (early ++ samples) p = scanSamples ev start stop samples p := by
  induction early with
  | nil => rfl
  | cons sample rest ih =>
      rw [List.cons_append, scanSamples, if_pos (before sample List.mem_cons_self), heedless]
      exact ih fun other listed => before other (List.mem_cons_of_mem _ listed)

/-- An end that is left open is no earlier than the start, so it is not taken from the run. -/
theorem resolveBounds_append_of_early {q : Query} (begins : q.start = some start)
    (before : ∀ sample ∈ early, sample.timestamp < start) (samples : List Sample) :
    resolveBounds q (early ++ samples) = resolveBounds q samples := by
  induction early with
  | nil => rfl
  | cons sample rest ih =>
      have first := before sample List.mem_cons_self
      rw [← ih fun other listed => before other (List.mem_cons_of_mem _ listed)]
      simp only [resolveBounds, begins, List.cons_append, List.map_cons, List.max?_cons]
      have moved : ∀ high : Timestamp, max (max sample.timestamp high) start = max high start := by
        intro high
        rw [Timestamp.lt_def] at first
        ext
        simp only [Timestamp.nanos_max]
        omega
      have moved' : max sample.timestamp start = start := by
        rw [Timestamp.lt_def] at first
        ext
        simp only [Timestamp.nanos_max]
        omega
      cases ((rest ++ samples).map (·.timestamp)).max? with
      | none => simp [moved']
      | some high => simp [moved]

/-- The whole scan, with its bounds. -/
theorem scan_append_of_early (heedless : ev.Heedless) {q : Query} (begins : q.start = some start)
    (before : ∀ sample ∈ early, sample.timestamp < start) (initial : σ)
    (settings : AggregationSettings) (samples : List Sample) (failures : σ → Nat) :
    scan ev initial settings q (early ++ samples) failures =
      scan ev initial settings q samples failures := by
  have bounds := resolveBounds_append_of_early begins before samples
  unfold scan
  rw [bounds]
  rcases resolved : resolveBounds q samples with ⟨_ | first, _ | stop⟩
  case some.some =>
    obtain rfl : start = first := by
      have given := congrArg Prod.fst resolved
      simpa [resolveBounds, begins] using given
    simp only [scanIntervals_append_of_early heedless before,
      scanSamples_append_of_early heedless before]
  all_goals rfl

end Early

/-! ### Queries -/

section Compute

variable {ν : Type} [Arithmetic ν] {settings : AggregationSettings} {q : Query}

theorem scan_samples {σ : Type} {ev : Evaluator σ ν} (heedless : ev.Heedless) (initial : σ)
    (store : Store) (failures : σ → Nat) :
    scan ev initial settings q (q.samples store) failures =
      scan ev initial settings q store.samples failures := by
  unfold Query.samples
  cases begins : q.start with
  | none => rfl
  | some start =>
      have split : store.samples.takeWhile (fun sample => sample.timestamp < start) ++
          store.samplesFrom start = store.samples := List.takeWhile_append_dropWhile
      have before : ∀ sample ∈ store.samples.takeWhile (fun sample => sample.timestamp < start),
          sample.timestamp < start := fun sample early =>
        of_decide_eq_true (List.all_eq_true.mp List.all_takeWhile sample early)
      conv => rhs; rw [← split]
      exact (scan_append_of_early heedless begins before initial settings _ failures).symm

theorem eventSeries_eq_scan (target : Option TrendTarget) (store : Store) :
    (eventSeries settings q target store : Except Error (Series ν)) =
      scan (trendEvaluator target settings.coercion) .initial settings q store.samples
        (·.failures) :=
  scan_samples (heedless_trendEvaluator target settings.coercion) .initial store _

/-- A query is computed from the samples that it looks at. -/
theorem compute_eq_computeOver_consulted (settings : AggregationSettings) (q : Query)
    (d : Definition) (i : Instance) :
    (compute settings q d i : Except Error (Series ν)) =
      computeOver settings q d (consulted q d i) := by
  unfold compute computeOver consulted
  cases plan q d with
  | error e => rfl
  | ok trended =>
      unfold instanceSeries
      cases d.body with
      | counterSampled type => rfl
      | event columns =>
          cases trended with
          | none => rfl
          | some serial => rfl

/-- A query is answered as if it looked at every sample of the store. -/
theorem compute_eq_computeOver (settings : AggregationSettings) (q : Query) (d : Definition)
    (i : Instance) :
    (compute settings q d i : Except Error (Series ν)) =
      computeOver settings q d i.store.samples := by
  unfold compute computeOver instanceSeries
  cases plan q d with
  | error e => rfl
  | ok trended =>
      cases d.body with
      | counterSampled type => rfl
      | event columns =>
          cases trended with
          | none => exact eventSeries_eq_scan none i.store
          | some serial =>
              simp only
              cases targetOf columns.lock serial with
              | error e => rfl
              | ok target => exact eventSeries_eq_scan (some target) i.store

/-- **What is cut off makes no difference.** Where a start is given, a query of an event looks at the
samples from the first one on that is not stamped before the start. Whatever the timestamps, the
answer is the same series, or the same error, as over every sample of the store. -/
theorem compute_cutoff {d : Definition} {i : Instance} {columns : ColumnSet} {start : Timestamp}
    (event : d.body = .event columns) (begins : q.start = some start) :
    (compute settings q d i : Except Error (Series ν)) =
        computeOver settings q d (i.store.samplesFrom start) ∧
      (computeOver settings q d (i.store.samplesFrom start) : Except Error (Series ν)) =
        computeOver settings q d i.store.samples := by
  have looks_at : consulted q d i = i.store.samplesFrom start := by
    rw [consulted, event, Query.samples, begins]
  have answer : (compute settings q d i : Except Error (Series ν)) =
      computeOver settings q d (i.store.samplesFrom start) := by
    rw [← looks_at]
    exact compute_eq_computeOver_consulted settings q d i
  exact ⟨answer, answer.symm.trans (compute_eq_computeOver settings q d i)⟩

/-- Latencies of which the first two are stamped before five seconds, and a late one after them
too. -/
def stragglingLatencies : List Sample :=
  [⟨1, atSecond 1, .event [some (.float 100)]⟩,
   ⟨2, atSecond 3, .event [some (.text "slow")]⟩,
   ⟨3, atSecond 6, .event [some (.float 4)]⟩,
   ⟨4, atSecond 2, .event [some (.float 50)]⟩,
   ⟨5, atSecond 9, .event [some (.text "n/a")]⟩]

/-- From five seconds on the first two are cut off, and the late one is not. From twenty seconds on
all are. The end is left open both times. -/
theorem compute_cutoff_stragglingLatencies :
    let d : Definition := { id := 0, key := ⟨"Web", "Http", "Requests"⟩, body := .event latencies }
    let i : Instance := ⟨0, 0, "web~http~requests~", none, ⟨stragglingLatencies⟩⟩
    let q : Query := ⟨.interval .second 2, some (atSecond 5), none, .default⟩
    let q' : Query := ⟨.shortest, some (atSecond 20), none, .default⟩
    d.body = .event latencies ∧ q.start = some (atSecond 5) ∧ q'.start = some (atSecond 20) ∧
    i.store.samplesFrom (atSecond 5) = stragglingLatencies.drop 2 ∧
    i.store.samplesFrom (atSecond 20) = [] ∧
    (∃ s : Series Float, compute {} q d i = .ok s ∧ computeOver {} q d i.store.samples = .ok s ∧
      s.range = some (atSecond 5, atSecond 9) ∧ s.values.numbers = [4, 2] ∧
      s.coercionFailures = 1 ∧ s.skipped = 0) ∧
    ∃ s : Series Float, compute {} q' d i = .ok s ∧ computeOver {} q' d i.store.samples = .ok s ∧
      s.range = some (atSecond 20, atSecond 20) := by
  intro d i q q'
  have event : d.body = .event latencies := rfl
  have answer : ((compute {} q d i : Except Error (Series Float)).map fun s =>
      (s.range, s.values.numbers, s.coercionFailures, s.skipped)).toOption =
        some (some (atSecond 5, atSecond 9), [4, 2], 1, 0) := by decide +kernel
  have answer' : ((compute {} q' d i : Except Error (Series Float)).map (·.range)).toOption =
      some (some (atSecond 20, atSecond 20)) := by decide +kernel
  obtain ⟨s, computed, seen⟩ := exists_of_seen answer
  obtain ⟨s', computed', range'⟩ := exists_of_seen answer'
  simp only [Prod.mk.injEq] at seen
  obtain ⟨cut, whole⟩ := @compute_cutoff Float _ {} q d i _ _ event rfl
  obtain ⟨cut', whole'⟩ := @compute_cutoff Float _ {} q' d i _ _ event rfl
  exact ⟨event, rfl, rfl, by decide +kernel, by decide +kernel,
    ⟨s, computed, whole.symm.trans (cut.symm.trans computed), seen⟩,
    s', computed', whole'.symm.trans (cut'.symm.trans computed'), range'⟩

end Compute

end Metering.Series
