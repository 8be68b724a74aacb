import Metering.Series.Query

/-!
Series do not depend on sequence numbers.

A number says where in its store a sample stands, and nothing else: a scan looks at the timestamps and
the payloads of samples alone. So a series stays the same when all numbers are taken away
(`eventSeries_unnumbered`, `counterSeries_unnumbered`).
-/

namespace Metering

open Metering.Time

/-- The sample without its number. -/
def Sample.unnumbered (s : Sample) : Sample :=
  { s with sequence := 0 }

def Store.unnumbered (s : Store) : Store :=
  ⟨s.samples.map Sample.unnumbered⟩

namespace Series

variable {σ ν : Type}

/-- The evaluator takes no notice of sequence numbers. -/
structure Evaluator.IgnoresNumbers (ev : Evaluator σ ν) : Prop where
  observe : ∀ state sample, ev.observe state sample.unnumbered = ev.observe state sample
  evaluate : ∀ state samples,
    ev.evaluate state (samples.map Sample.unnumbered) = ev.evaluate state samples

/-! ### Scans -/

section Scan

variable {ev : Evaluator σ ν} {start : Timestamp}

theorem take_unnumbered (ignores : ev.IgnoresNumbers) (w : Window) (state : σ)
    (samples : List Sample) :
    take ev start w state (samples.map Sample.unnumbered) =
      { take ev start w state samples with
        taken := (take ev start w state samples).taken.map Sample.unnumbered
        rest := (take ev start w state samples).rest.map Sample.unnumbered } := by
  induction samples generalizing state with
  | nil => rfl
  | cons sample rest ih =>
      have stamp : sample.unnumbered.timestamp = sample.timestamp := rfl
      rw [List.map_cons, take, take, stamp]
      by_cases past : w.stop < sample.timestamp
      · simp only [if_pos past, List.map_nil, List.map_cons]
      · by_cases early : sample.timestamp < w.start
        · simp only [if_neg past, if_pos early, ignores.observe, ih]
        · simp only [if_neg past, if_neg early, ih, List.map_cons]

variable [Arithmetic ν]

theorem scanWindow_unnumbered (ignores : ev.IgnoresNumbers) (w : Window) (samples : List Sample)
    (p : Progress σ ν) :
    scanWindow ev start w (samples.map Sample.unnumbered) p =
      (scanWindow ev start w samples p).map fun (p, rest) => (p, rest.map Sample.unnumbered) := by
  rw [scanWindow, scanWindow, take_unnumbered ignores]
  simp only [ignores.evaluate]
  cases ev.evaluate (take ev start w p.state samples).state
      (take ev start w p.state samples).taken with
  | error e => rfl
  | ok answer => rfl

theorem scanWindows_unnumbered (ignores : ev.IgnoresNumbers) (windows : List Window)
    (samples : List Sample) (p : Progress σ ν) :
    scanWindows ev start windows (samples.map Sample.unnumbered) p =
      scanWindows ev start windows samples p := by
  induction windows generalizing samples p with
  | nil => rfl
  | cons w windows ih =>
      rw [scanWindows, scanWindows, scanWindow_unnumbered ignores]
      cases scanWindow ev start w samples p with
      | error e => rfl
      | ok step => exact ih step.2 step.1

theorem scanIntervals_unnumbered (ignores : ev.IgnoresNumbers) (g : Granularity)
    (current stop : Timestamp) (samples : List Sample) (p : Progress σ ν) :
    scanIntervals ev g start current stop (samples.map Sample.unnumbered) p =
      scanIntervals ev g start current stop samples p := by
  rw [scanIntervals_eq, scanIntervals_eq, scanWindows_unnumbered ignores]

theorem scanSamples_unnumbered (ignores : ev.IgnoresNumbers) (stop : Timestamp)
    (samples : List Sample) (p : Progress σ ν) :
    scanSamples ev start stop (samples.map Sample.unnumbered) p =
      scanSamples ev start stop samples p := by
  induction samples generalizing p with
  | nil => rfl
  | cons sample rest ih =>
      have stamp : sample.unnumbered.timestamp = sample.timestamp := rfl
      have alone : ev.evaluate p.state [sample.unnumbered] = ev.evaluate p.state [sample] :=
        ignores.evaluate p.state [sample]
      rw [List.map_cons, scanSamples, scanSamples, stamp, ignores.observe, ih, alone]
      simp only [ih]

theorem resolveBounds_unnumbered (q : Query) (samples : List Sample) :
    resolveBounds q (samples.map Sample.unnumbered) = resolveBounds q samples := by
  have stamps : (samples.map Sample.unnumbered).map (·.timestamp) = samples.map (·.timestamp) := by
    rw [List.map_map]
    rfl
  rw [resolveBounds, stamps, resolveBounds]

theorem scan_unnumbered (ignores : ev.IgnoresNumbers) (initial : σ) (settings : AggregationSettings)
    (q : Query) (samples : List Sample) (failures : σ → Nat) :
    scan ev initial settings q (samples.map Sample.unnumbered) failures =
      scan ev initial settings q samples failures := by
  simp only [scan, resolveBounds_unnumbered, scanSamples_unnumbered ignores,
    scanIntervals_unnumbered ignores]

end Scan

/-! ### Series -/

section Evaluators

variable [Arithmetic ν]

theorem accumulate_unnumbered (t : TrendTarget) (policy : CoercionPolicy) (samples : List Sample)
    (acc : RunningSum ν) (failures : Nat) :
    accumulate t policy (samples.map Sample.unnumbered) acc failures =
      accumulate t policy samples acc failures := by
  induction samples generalizing acc failures with
  | nil => rfl
  | cons sample rest ih =>
      have same : (contribution t policy sample.unnumbered : Except Error (ν × Bool)) =
          contribution t policy sample := rfl
      rw [List.map_cons, accumulate, accumulate, same]
      simp only [ih]

theorem trendEvaluator_ignoresNumbers (target : Option TrendTarget) (policy : CoercionPolicy) :
    (trendEvaluator target policy : Evaluator (TrendState ν) ν).IgnoresNumbers := by
  refine ⟨fun _ _ => rfl, fun state samples => ?_⟩
  simp only [trendEvaluator, trendWindow, List.length_map, List.countP_map, accumulate_unnumbered]
  rfl

theorem counterEvaluator_ignoresNumbers (type : SamplingType) :
    (counterEvaluator type : Evaluator (CounterState ν) ν).IgnoresNumbers := by
  refine ⟨fun _ _ => rfl, fun state samples => ?_⟩
  have readings : (samples.map Sample.unnumbered).filterMap readingOf? =
      samples.filterMap (readingOf? : Sample → Option (Reading ν)) := by
    rw [List.filterMap_map]
    rfl
  simp only [counterEvaluator, counterWindow, readings]

theorem samplesFrom_unnumbered (store : Store) (start : Timestamp) :
    store.unnumbered.samplesFrom start = (store.samplesFrom start).map Sample.unnumbered := by
  rw [Store.samplesFrom, Store.unnumbered, List.dropWhile_map]
  rfl

theorem eventSeries_unnumbered (settings : AggregationSettings) (q : Query)
    (target : Option TrendTarget) (store : Store) :
    (eventSeries settings q target store.unnumbered : Except Error (Series ν)) =
      eventSeries settings q target store := by
  unfold eventSeries
  cases q.start with
  | none => exact scan_unnumbered (trendEvaluator_ignoresNumbers target settings.coercion) ..
  | some start =>
      simp only [samplesFrom_unnumbered]
      exact scan_unnumbered (trendEvaluator_ignoresNumbers target settings.coercion) ..

theorem counterSeries_unnumbered (settings : AggregationSettings) (q : Query) (type : SamplingType)
    (store : Store) :
    (counterSeries settings q type store.unnumbered : Except Error (Series ν)) =
      counterSeries settings q type store :=
  scan_unnumbered (counterEvaluator_ignoresNumbers type) ..

end Evaluators

end Series

end Metering
