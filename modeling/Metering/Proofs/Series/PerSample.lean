import Metering.Proofs.Kinds
import Metering.Proofs.Series.Accounting
import Metering.Proofs.Series.Additive
import Metering.Proofs.Series.WindowEnds

/-!
One value for each sample.

A query for the shortest intervals goes once through the samples, up to the first one stamped after
the range; what is stamped before the range is only observed. The samples that get a value are the
`emitted` ones, and `scanSamples_rule` says what the value of each is: it may depend on all samples
before it, and on those among them that got a value. So a counter takes differences to the sample
just before, whatever its timestamp, and a running trend goes on from the values before it.
-/

namespace Metering.Series

open Metering.Time

/-! ### Which samples get a value -/

/-- The samples that get a value, with their places: those stamped from `start` on, before the first
one stamped after `stop`. The first of the samples given is the one at `place`. -/
def emitted (start stop : Timestamp) (samples : List Sample) (place : Nat := 0) :
    List (Sample × Nat) :=
  ((reached stop samples).zipIdx place).filter fun entry => start ≤ entry.1.timestamp

section Emitted

variable {start stop : Timestamp} {sample : Sample} {samples rest : List Sample} {place : Nat}

theorem emitted_cons_of_lt (ordered : start ≤ stop) (early : sample.timestamp < start) :
    emitted start stop (sample :: rest) place = emitted start stop rest (place + 1) := by
  have upTo := Std.le_trans (Std.le_of_lt early) ordered
  rw [emitted, reached_cons_of_le upTo, List.zipIdx_cons, List.filter_cons_of_neg]
  · rfl
  · simpa using Std.not_le.mpr early

theorem emitted_cons_of_past (past : stop < sample.timestamp) :
    emitted start stop (sample :: rest) place = [] := by
  rw [emitted, reached_cons_of_lt past]
  rfl

theorem emitted_cons_of_within (from_start : start ≤ sample.timestamp)
    (upTo : sample.timestamp ≤ stop) :
    emitted start stop (sample :: rest) place =
      (sample, place) :: emitted start stop rest (place + 1) := by
  rw [emitted, reached_cons_of_le upTo, List.zipIdx_cons, List.filter_cons_of_pos]
  · rfl
  · simpa using from_start

/-- Without their places. -/
theorem emitted_map_fst : (emitted start stop samples place).map (·.1) =
    (reached stop samples).filter (start ≤ ·.timestamp) := by
  conv => rhs; rw [← List.zipIdx_map_fst place (reached stop samples), List.filter_map]
  rfl

theorem getElem?_of_emitted {k i : Nat}
    (at_k : (emitted start stop samples)[k]? = some (sample, i)) : samples[i]? = some sample := by
  have listed := (List.mem_filter.mp (List.mem_of_getElem? at_k)).1
  have within := List.mk_mem_zipIdx_iff_getElem?.mp listed
  have bound := (List.getElem?_eq_some_iff.mp within).1
  rw [← reached_append_unreached stop samples, List.getElem?_append_left bound]
  exact within

/-- What is cut off before the start of a range gets no value. -/
theorem emitted_samplesFrom (ordered : start ≤ stop) (store : Store) :
    (emitted start stop (store.samplesFrom start)).map (·.1) =
      (emitted start stop store.samples).map (·.1) := by
  have shifted : ∀ samples : List Sample, (emitted start stop
      (samples.dropWhile fun sample => sample.timestamp < start)).map (·.1) =
        (emitted start stop samples).map (·.1) := by
    intro samples
    induction samples with
    | nil => rfl
    | cons sample rest ih =>
        by_cases early : sample.timestamp < start
        · rw [List.dropWhile_cons_of_pos (by simpa using early), ih,
            emitted_cons_of_lt ordered early, emitted_map_fst, emitted_map_fst]
        · rw [List.dropWhile_cons_of_neg (by simpa using early)]
  exact shifted store.samples

theorem Spans.emitted (spans : Spans start stop samples) :
    emitted start stop samples = samples.zipIdx := by
  rw [Series.emitted, spans.reached, List.filter_eq_self]
  intro entry listed
  exact decide_eq_true (spans.within _ (List.fst_mem_of_mem_zipIdx listed)).1

end Emitted

/-! ### A scan over samples -/

section Scan

variable {σ ν : Type} [Arithmetic ν] {ev : Evaluator σ ν} {start stop : Timestamp}

/-- Every sample that is emitted has a value, stamped with the timestamp of the sample. -/
theorem scanSamples_stamps (ordered : start ≤ stop) {samples : List Sample} {place : Nat}
    {p final : Progress σ ν} (scanned : scanSamples ev start stop samples p = .ok final) :
    final.values.stamps =
      p.values.stamps ++ (emitted start stop samples place).map (·.1.timestamp) := by
  induction samples generalizing p place with
  | nil =>
      cases scanned
      exact (List.append_nil _).symm
  | cons sample rest ih =>
      rw [scanSamples] at scanned
      by_cases early : sample.timestamp < start
      · rw [if_pos early] at scanned
        rw [emitted_cons_of_lt ordered early]
        exact ih (p := { p with state := ev.observe p.state sample }) scanned
      · rw [if_neg early] at scanned
        by_cases past : stop < sample.timestamp
        · rw [if_pos past] at scanned
          cases scanned
          rw [emitted_cons_of_past past]
          exact (List.append_nil _).symm
        · rw [if_neg past] at scanned
          rw [emitted_cons_of_within (Std.not_lt.mp early) (Std.not_lt.mp past)]
          cases evaluated : ev.evaluate p.state [sample] with
          | error e => simp [evaluated] at scanned
          | ok answer =>
              simp only [evaluated] at scanned
              rw [ih scanned, stamps_add, List.append_assoc]
              rfl

/-- A rule for the values of a scan over samples: `inv` relates the samples so far, and those among
them that got a value, to the state, and `spec` relates them to the value of the next sample. -/
theorem scanSamples_rule (inv : List Sample → List Sample → σ → Prop)
    (spec : List Sample → List Sample → Sample → ν → Prop)
    (skip : ∀ {seen made sample state}, inv seen made state →
      inv (seen ++ [sample]) made (ev.observe state sample))
    (step : ∀ {seen made sample state value state'}, inv seen made state →
      ev.evaluate state [sample] = .ok (value, state') →
      inv (seen ++ [sample]) (made ++ [sample]) state' ∧ spec seen made sample value)
    (ordered : start ≤ stop) (seen made : List Sample) {samples : List Sample}
    {p final : Progress σ ν} (begun : inv seen made p.state)
    (scanned : scanSamples ev start stop samples p = .ok final) :
    ∃ numbers, final.values.numbers = p.values.numbers ++ numbers ∧
      ∀ {k i : Nat} {sample : Sample},
        (emitted start stop samples seen.length)[k]? = some (sample, i) →
        ∃ value, numbers[k]? = some value ∧ spec ((seen ++ samples).take i)
          (made ++ ((emitted start stop samples seen.length).take k).map (·.1)) sample value := by
  induction samples generalizing seen made p with
  | nil =>
      cases scanned
      exact ⟨[], (List.append_nil _).symm, fun at_k => by cases at_k⟩
  | cons sample rest ih =>
      have onward : seen ++ sample :: rest = (seen ++ [sample]) ++ rest :=
        List.append_cons seen sample rest
      have longer : (seen ++ [sample]).length = seen.length + 1 := List.length_append
      rw [scanSamples] at scanned
      by_cases early : sample.timestamp < start
      · rw [if_pos early] at scanned
        rw [emitted_cons_of_lt ordered early, onward, ← longer]
        exact ih _ _ (p := { p with state := ev.observe p.state sample }) (skip begun) scanned
      · rw [if_neg early] at scanned
        by_cases past : stop < sample.timestamp
        · rw [if_pos past] at scanned
          cases scanned
          rw [emitted_cons_of_past past]
          exact ⟨[], (List.append_nil _).symm, fun at_k => by cases at_k⟩
        · rw [if_neg past] at scanned
          rw [emitted_cons_of_within (Std.not_lt.mp early) (Std.not_lt.mp past), onward, ← longer]
          cases evaluated : ev.evaluate p.state [sample] with
          | error e => simp [evaluated] at scanned
          | ok answer =>
              obtain ⟨value, state⟩ := answer
              simp only [evaluated] at scanned
              obtain ⟨kept, first⟩ := step begun evaluated
              obtain ⟨numbers, appended, each⟩ := ih _ _ kept scanned
              refine ⟨value :: numbers, ?_, ?_⟩
              · rw [appended, numbers_add, List.append_assoc]
                rfl
              · intro k i other at_k
                cases k with
                | zero =>
                    obtain ⟨rfl, rfl⟩ := Prod.mk.inj (Option.some.inj at_k)
                    refine ⟨value, rfl, ?_⟩
                    rw [List.take_zero, List.map_nil, List.append_nil, ← onward,
                      List.take_left]
                    exact first
                | succ k =>
                    obtain ⟨number, found, meets⟩ := each at_k
                    refine ⟨number, found, ?_⟩
                    rw [List.take_succ_cons, List.map_cons,
                      List.append_cons made sample]
                    exact meets

end Scan

/-! ### Counters and running trends -/

section Evaluators

variable {ν : Type} [Arithmetic ν] {start stop : Timestamp} {samples : List Sample}

/-- The value of a reading, told by all readings before it. -/
theorem scanSamples_counter {type : SamplingType} (ordered : start ≤ stop)
    {p final : Progress (CounterState ν) ν} (begun : p.state = .initial)
    (scanned : scanSamples (counterEvaluator type) start stop samples p = .ok final) :
    ∃ numbers, final.values.numbers = p.values.numbers ++ numbers ∧
      ∀ {k i : Nat} {sample : Sample}, (emitted start stop samples)[k]? = some (sample, i) →
        numbers[k]? = some (windowValue type (readings (samples.take i)) (readings [sample])) := by
  have none_seen : Holds type (readings ([] : List Sample)) p.state := begun ▸ holds_initial
  obtain ⟨numbers, appended, each⟩ := scanSamples_rule
    (fun seen _ state => Holds type (readings seen) state)
    (fun seen _ sample value => value = windowValue type (readings seen) (readings [sample]))
    (fun holds => by
      rw [readings_append]
      exact holds_observe holds _)
    (fun holds evaluated => by
      obtain ⟨value_eq, left⟩ := counterWindow_of_holds holds [_]
      rw [Except.ok.inj evaluated] at value_eq left
      rw [readings_append]
      exact ⟨left, value_eq⟩)
    ordered [] [] none_seen scanned
  refine ⟨numbers, appended, fun at_k => ?_⟩
  obtain ⟨value, found, rfl⟩ := each at_k
  exact found

theorem readings_singleton {sample : Sample} {reading : Reading Float}
    (read : sample.reading? = some reading) : (readings [sample] : List (Reading ν)) =
      [⟨Arithmetic.ofFloat reading.raw, reading.base.map Arithmetic.ofFloat⟩] := by
  simp [readings, readingOf?, read]

theorem exists_reading {sample : Sample} (counter : sample.payload.kind = .counterSampled) :
    ∃ reading, sample.reading? = some reading := by
  unfold Sample.reading?
  cases payload : sample.payload with
  | event slots =>
      rw [payload] at counter
      cases counter
  | counter reading => exact ⟨reading, rfl⟩

/-- The value of a total: the reading less the one just before it, or less itself if it is the
first one. -/
theorem windowValue_totalCount_take
    (counter : ∀ sample ∈ samples, sample.payload.kind = .counterSampled) {i : Nat}
    {sample : Sample} (at_i : samples[i]? = some sample) :
    ∃ reading previous : Reading Float, sample.reading? = some reading ∧
      (samples[i - 1]?).bind (·.reading?) = some previous ∧
      (windowValue .totalCount (readings (samples.take i)) (readings [sample]) : ν) =
        Arithmetic.sub (Arithmetic.ofFloat reading.raw) (Arithmetic.ofFloat previous.raw) := by
  obtain ⟨reading, read⟩ := exists_reading (counter sample (List.mem_of_getElem? at_i))
  cases i with
  | zero =>
      refine ⟨reading, reading, read, ?_, ?_⟩
      · rw [at_i, Option.bind_some, read]
      · rw [readings_singleton read]
        rfl
  | succ j =>
      obtain ⟨before, at_j⟩ : ∃ before, samples[j]? = some before :=
        ⟨_, List.getElem?_eq_getElem
          (Nat.lt_of_succ_lt (List.getElem?_eq_some_iff.mp at_i).1)⟩
      obtain ⟨previous, read'⟩ := exists_reading (counter before (List.mem_of_getElem? at_j))
      refine ⟨reading, previous, read, ?_, ?_⟩
      · rw [Nat.add_sub_cancel, at_j, Option.bind_some, read']
      · rw [List.take_add_one, at_j, Option.toList_some, readings_append,
          readings_singleton read', readings_singleton read, windowValue, List.getLast?_concat]
        rfl

/-- The value of a running trend, told by what was emitted up to it. -/
theorem scanSamples_running {t : TrendTarget} {policy : CoercionPolicy}
    (trendable : t.column.trendable = true) (running : t.column.trend.isRunning = true)
    (ordered : start ≤ stop) {p final : Progress (TrendState ν) ν}
    (begun : p.state.carried = .zero)
    (scanned : scanSamples (trendEvaluator (some t) policy) start stop samples p = .ok final) :
    ∃ numbers, final.values.numbers = p.values.numbers ++ numbers ∧
      ∀ {k : Nat}, k < (emitted start stop samples).length → numbers[k]? = some (aggregate
        t.column.trend t.index (((emitted start stop samples).map (·.1)).take (k + 1))) := by
  have none_yet : p.state.carried = sumOf t.index [] := begun
  obtain ⟨numbers, appended, each⟩ := scanSamples_rule
    (fun _ made state => state.carried = sumOf t.index made)
    (fun _ made sample value => value = aggregate t.column.trend t.index (made ++ [sample]))
    (fun carried => by exact carried)
    (fun carried evaluated => trendWindow_running trendable running carried evaluated)
    ordered [] [] none_yet scanned
  refine ⟨numbers, appended, fun bound => ?_⟩
  obtain ⟨value, found, rfl⟩ := each (List.getElem?_eq_getElem bound)
  rw [found, List.nil_append, ← List.map_take, List.take_add_one, List.getElem?_eq_getElem bound,
    List.map_append]
  rfl

end Evaluators

/-! ### Queries for the shortest intervals -/

section Compute

variable {ν : Type} [Arithmetic ν] {settings : AggregationSettings} {q : Query} {d : Definition}
  {i : Instance} {s : Series ν} {start stop : Timestamp}

/-- A query for the shortest intervals that is answered with a range was one scan of the samples. -/
theorem scan_shortest_eq_ok {σ : Type} {ev : Evaluator σ ν} {initial : σ} {samples : List Sample}
    {failures : σ → Nat} (shortest : q.granularity = .shortest)
    (answered : scan ev initial settings q samples failures = .ok s)
    (range : s.range = some (start, stop)) :
    start ≤ stop ∧ ∃ final, s.values = final.values ∧
      scanSamples ev start stop samples ⟨initial, .empty settings.percentile, 0⟩ = .ok final := by
  have finest : (q.granularity.withFloor settings.floor).isShortest = true := by
    rw [shortest]
    rfl
  rcases scan_eq_ok answered with ⟨start', stop', final, -, ordered, scanned, rfl⟩ | ⟨-, -, rfl⟩
  · obtain ⟨rfl, rfl⟩ := Prod.mk.inj (Option.some.inj range)
    rw [scanRange, if_pos finest] at scanned
    exact ⟨ordered, final, rfl, scanned⟩
  · cases range

/-- A series without a range has no values. -/
theorem values_of_range_none {σ : Type} {ev : Evaluator σ ν} {initial : σ} {samples : List Sample}
    {failures : σ → Nat} (answered : scan ev initial settings q samples failures = .ok s)
    (range : s.range = none) : s.values = .empty settings.percentile := by
  rcases scan_eq_ok answered with ⟨_, _, _, -, -, -, rfl⟩ | ⟨-, -, rfl⟩
  · cases range
  · rfl

/-- The samples that a query does not look at get no value. -/
theorem emitted_consulted (ordered : start ≤ stop)
    (range : bounds? q (consulted q d i) = some (start, stop)) :
    (emitted start stop (consulted q d i)).map (·.1) =
      (emitted start stop i.store.samples).map (·.1) := by
  unfold consulted at range ⊢
  cases d.body with
  | counterSampled type => rfl
  | event columns =>
      simp only [Query.samples] at range ⊢
      cases given : q.start with
      | none => rfl
      | some first =>
          obtain rfl : first = start := by
            simp only [given, bounds?, resolveBounds] at range
            split at range
            · rename_i start' stop' bounds
              obtain ⟨here, -⟩ := Prod.mk.inj bounds
              obtain ⟨rfl, -⟩ := Prod.mk.inj (Option.some.inj range)
              simpa using here
            · cases range
          exact emitted_samplesFrom ordered i.store

section

variable (shortest : q.granularity = .shortest) (computed : compute settings q d i = .ok s)

include shortest computed

/-- Every sample that is emitted has a value, stamped with its own timestamp. -/
theorem compute_shortest_stamps (range : s.range = some (start, stop)) :
    s.values.stamps = (emitted start stop i.store.samples).map (·.1.timestamp) := by
  obtain ⟨_, _, _, _, answered⟩ := exists_scan_of_compute computed
  obtain ⟨ordered, final, values, scanned⟩ := scan_shortest_eq_ok shortest answered range
  have looked_at := emitted_consulted ordered ((scan_range answered).symm.trans range)
  have stamps := congrArg (List.map (·.timestamp)) looked_at
  rw [List.map_map, List.map_map] at stamps
  rw [values]
  exact (scanSamples_stamps ordered scanned).trans stamps

/-- With both bounds left open, every sample has a value. -/
theorem compute_shortest_size (openStart : q.start = none) (openStop : q.stop = none) :
    s.values.size = i.store.samples.length := by
  have all : consulted q d i = i.store.samples := by
    unfold consulted Query.samples
    rw [openStart]
    cases d.body <;> rfl
  obtain ⟨_, _, _, _, answered⟩ := exists_scan_of_compute computed
  have range := scan_range answered
  rw [all] at answered range
  by_cases stored : i.store.samples = []
  · have none_bounded : s.range = none := by
      rw [range, bounds?, resolveBounds, openStart, openStop, stored]
      rfl
    rw [values_of_range_none answered none_bounded, stored]
    rfl
  · obtain ⟨start, stop, bounds, spans⟩ := resolveBounds_open openStart openStop stored
    rw [bounds?, bounds] at range
    have stamps := congrArg List.length (compute_shortest_stamps shortest computed range)
    rw [spans.emitted, ValueSet.stamps] at stamps
    simpa [ValueSet.size] using stamps

end

theorem compute_shortest_counter {type : SamplingType} (counter : d.body = .counterSampled type)
    (shortest : q.granularity = .shortest) (computed : compute settings q d i = .ok s)
    (range : s.range = some (start, stop)) {k place : Nat} {sample : Sample}
    (at_k : (emitted start stop i.store.samples)[k]? = some (sample, place)) :
    s.values.numbers[k]? = some (windowValue type (readings (i.store.samples.take place))
      (readings [sample])) := by
  rw [compute] at computed
  cases planned : plan q d with
  | error e => simp [planned] at computed
  | ok trended =>
      rw [planned] at computed
      simp only [instanceSeries, counter] at computed
      obtain ⟨ordered, final, values, scanned⟩ := scan_shortest_eq_ok shortest computed range
      obtain ⟨numbers, appended, each⟩ := scanSamples_counter ordered rfl scanned
      rw [values, appended]
      exact each at_k

theorem compute_shortest_running {columns : ColumnSet} {serial index : Nat} {column : Column}
    (event : d.body = .event columns) (held : columns.lock.columns[serial]? = some column)
    (placed : column.index = some index) (trendable : column.trendable = true)
    (running : column.trend.isRunning = true) (resolved : resolve d q.selector = .ok (some serial))
    (shortest : q.granularity = .shortest) (computed : compute settings q d i = .ok s)
    (range : s.range = some (start, stop)) {k : Nat}
    (bound : k < (emitted start stop i.store.samples).length) :
    s.values.numbers[k]? = some (aggregate column.trend index
      (((emitted start stop i.store.samples).map (·.1)).take (k + 1))) := by
  have answered := eventSeries_of_compute event held placed resolved computed
  obtain ⟨ordered, final, values, scanned⟩ := scan_shortest_eq_ok shortest answered range
  obtain ⟨numbers, appended, each⟩ := scanSamples_running trendable running ordered rfl scanned
  have looked_at := emitted_consulted (d := d) ordered ((compute_range computed).symm.trans range)
  have queried : consulted q d i = q.samples i.store := by
    rw [consulted, event]
  rw [queried] at looked_at
  rw [values, appended, ← looked_at]
  refine each ?_
  have sized := congrArg List.length looked_at
  rw [List.length_map, List.length_map] at sized
  exact sized ▸ bound

end Compute

end Series

namespace Session

open Metering.Time Series

variable {s : Session} {settings : Settings} {lastSequence : Nat} {r : InstanceRef} {d : Definition}
  {i : Instance}

/-- **One value for each sample.** After any run a query for the shortest intervals gives one value
to each sample that is stamped from the start of the range on and stands before the first one
stamped after it, in sequence order, with its own timestamp. A total is the reading of the sample
less the one just before it in the store, whatever its timestamp, or less itself for the first
sample. A running trend is one pass over the samples that have got a value so far. With both bounds
left open every sample of the store gets one. -/
theorem run_compute_shortest {ν : Type} [Arithmetic ν]
    (created : create settings lastSequence = .ok s) (operations : List Operation)
    (found : (s.run operations).telemetry.instance? r = some (d, i))
    {aggregation : AggregationSettings} {q : Query} {series : Series ν}
    (shortest : q.granularity = .shortest) (computed : compute aggregation q d i = .ok series) :
    (∀ {start stop : Timestamp}, series.range = some (start, stop) →
      let values := emitted start stop i.store.samples
      series.values.stamps = values.map (·.1.timestamp) ∧
      (d.body = .counterSampled .totalCount → ∀ {k place : Nat} {sample : Sample},
        values[k]? = some (sample, place) → i.store.samples[place]? = some sample ∧
        ∃ reading previous : Reading Float, sample.reading? = some reading ∧
          (i.store.samples[place - 1]?).bind (·.reading?) = some previous ∧
          series.values.numbers[k]? =
            some (Arithmetic.sub (Arithmetic.ofFloat reading.raw) (Arithmetic.ofFloat previous.raw))) ∧
      ∀ {columns : ColumnSet} {serial : Nat} {column : Column}, d.body = .event columns →
        resolve d q.selector = .ok (some serial) → columns.columns[serial]? = some column →
        column.trendable = true → column.trend.isRunning = true →
        ∃ index, columns.order.idxOf? serial = some index ∧ ∀ {k : Nat}, k < values.length →
          series.values.numbers[k]? =
            some (aggregate column.trend index ((values.map (·.1)).take (k + 1)))) ∧
    (q.start = none → q.stop = none → series.values.size = i.store.samples.length) := by
  obtain ⟨defined, within⟩ := Telemetry.instance?_eq_some_iff.mp found
  refine ⟨fun range => ⟨compute_shortest_stamps shortest computed range, ?total, ?running⟩,
    compute_shortest_size shortest computed⟩
  case total =>
    intro counter k place sample at_k
    obtain ⟨-, uniform⟩ := run_uniform (sealed_create created) (uniform_create created) operations
    have readings : ∀ sample ∈ i.store.samples, sample.payload.kind = .counterSampled := by
      intro sample held
      rw [(uniform _ _ defined).kind within sample held, Definition.kind, Definition.schema, counter]
      rfl
    have at_place := getElem?_of_emitted at_k
    obtain ⟨reading, previous, read, read', value⟩ :=
      windowValue_totalCount_take (ν := ν) readings at_place
    refine ⟨at_place, reading, previous, read, read', ?_⟩
    rw [← value]
    exact compute_shortest_counter counter shortest computed range at_k
  case running =>
    intro columns serial column event resolved held trendable running
    have sound := run_sound (sound_create created) operations
    have event' := Definition.columns?_eq_some_iff.mpr event
    have consistent := sound.columns defined event'
    obtain ⟨column', index, held', position, target⟩ :=
      targetOf_lock_eq_ok consistent (consistent.mem_of_resolve event' resolved)
    obtain rfl : column' = column := Option.some.inj (held'.symm.trans held)
    obtain ⟨locked, placed⟩ := targetOf_eq_ok target
    exact ⟨index, position, compute_shortest_running event locked placed trendable running resolved
      shortest computed range⟩

/-- A counter whose clock is set back by four seconds before its third reading. -/
def steppedClock : List Operation :=
  [.define (.counterSampled .totalCount) ⟨"net", "nic", "bytes"⟩, .openInstance 0 none,
   .writeReading ⟨0, 0⟩ ⟨4, none⟩ (atSecond 0), .writeReading ⟨0, 0⟩ ⟨10, none⟩ (atSecond 6),
   .writeReading ⟨0, 0⟩ ⟨25, none⟩ (atSecond 2), .writeReading ⟨0, 0⟩ ⟨30, none⟩ (atSecond 9),
   .writeReading ⟨0, 0⟩ ⟨31, none⟩ (atSecond 3)]

/-- From one second to seven seconds the second and the third reading have a value; with open bounds
all five have one. -/
theorem run_compute_shortest_steppedClock :
    let s : Session := ⟨{}, []⟩
    let q : Query := ⟨.shortest, some (atSecond 1), some (atSecond 7), .occurrences⟩
    let q' : Query := { granularity := .shortest }
    create {} 0 = .ok s ∧ ∃ d i, ∃ series whole : Series Float,
      (s.run steppedClock).telemetry.instance? ⟨0, 0⟩ = some (d, i) ∧
      compute {} q d i = .ok series ∧ compute {} q' d i = .ok whole ∧
      series.values.stamps = [atSecond 6, atSecond 2] ∧ series.values.numbers = [6, 15] ∧
      (∃ reading previous : Reading Float,
        (i.store.samples[2]?).bind (·.reading?) = some reading ∧
        (i.store.samples[1]?).bind (·.reading?) = some previous ∧
        series.values.numbers[1]? = some (reading.raw - previous.raw)) ∧
      i.store.samples.length = 5 ∧ whole.values.size = i.store.samples.length := by
  intro s q q'
  have created : create {} 0 = .ok s := rfl
  have held : ((s.run steppedClock).telemetry.instance? ⟨0, 0⟩).map (fun found =>
      (found.1.samplingType?, found.2.store.samples.length,
        (emitted (atSecond 1) (atSecond 7) found.2.store.samples).map fun entry =>
          (entry.1.timestamp, entry.2))) =
      some (some .totalCount, 5, [(atSecond 6, 1), (atSecond 2, 2)]) := by decide +kernel
  have answer : ((s.run steppedClock).telemetry.instance? ⟨0, 0⟩).bind (fun found =>
      ((compute {} q found.1 found.2 : Except Error (Series Float)).map fun series =>
        (series.range, series.values.numbers)).toOption) =
      some (some (atSecond 1, atSecond 7), [6, 15]) := by decide +kernel
  have answer' : ((s.run steppedClock).telemetry.instance? ⟨0, 0⟩).bind (fun found =>
      ((compute {} q' found.1 found.2 : Except Error (Series Float)).map (·.range)).toOption) =
      some (some (atSecond 0, atSecond 9)) := by decide +kernel
  obtain ⟨⟨d, i⟩, found, shape⟩ := Option.map_eq_some_iff.mp held
  rw [found] at answer answer'
  obtain ⟨series, computed, seen⟩ := exists_of_seen answer
  obtain ⟨whole, computed', -⟩ := exists_of_seen answer'
  simp only [Prod.mk.injEq] at shape seen
  obtain ⟨counter, stored, values⟩ := shape
  obtain ⟨range, numbers⟩ := seen
  have counter : d.body = .counterSampled .totalCount := by
    unfold Definition.samplingType? at counter
    split at counter
    · cases counter
    · cases counter
      assumption
  obtain ⟨each, -⟩ := run_compute_shortest (ν := Float) created steppedClock found rfl computed
  obtain ⟨-, every⟩ := run_compute_shortest (ν := Float) created steppedClock found rfl computed'
  obtain ⟨stamps, total, -⟩ := each range
  obtain ⟨⟨sample, place⟩, at_one, here⟩ : ∃ entry,
      (emitted (atSecond 1) (atSecond 7) i.store.samples)[1]? = some entry ∧
        (entry.1.timestamp, entry.2) = (atSecond 2, 2) := by
    rw [← Option.map_eq_some_iff, ← List.getElem?_map, values]
    rfl
  obtain rfl : place = 2 := (Prod.mk.inj here).2
  obtain ⟨at_place, reading, previous, read, read', value⟩ := total counter at_one
  refine ⟨created, d, i, series, whole, found, computed, computed', ?_, numbers,
    ⟨reading, previous, ?_, read', value⟩, stored, every rfl rfl⟩
  · have seen := congrArg (List.map Prod.fst) values
    rw [List.map_map] at seen
    exact stamps.trans seen
  · rw [at_place, Option.bind_some, read]

end Session

end Metering
