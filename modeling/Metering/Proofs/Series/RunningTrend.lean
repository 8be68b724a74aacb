import Metering.Proofs.ColumnSet
import Metering.Proofs.Series.Schedule

/-!
Running trends.

A running trend goes on from the sum and the number that the window before ended with, so its value
at a window is the `aggregate` of one pass over all samples that the windows have taken by then
(`scanWindows_running`). Where timestamps never run back these are the samples from the start of the
range to the end of the window, however the range is cut into windows
(`compute_running_inOrder`).
-/

namespace Metering.Series

open Metering.Time

/-! ### The last window -/

section LastWindow

variable {start stop : Timestamp} {windows : List Window}

/-- The last window of a range ends where the range does. -/
theorem Tiles.getLast? (tiles : Tiles stop start windows) (ordered : start < stop) :
    ∃ w, windows.getLast? = some w ∧ w.stop = stop := by
  induction tiles with
  | done => exact absurd ordered Std.lt_irrefl
  | @window current next windows later bounded rest ih =>
      by_cases last : next = stop
      · subst last
        rw [rest.eq_nil]
        exact ⟨⟨current, next⟩, rfl, rfl⟩
      · obtain ⟨w, found, ends⟩ := ih (Std.lt_of_le_of_ne bounded last)
        refine ⟨w, ?_, ends⟩
        rw [List.getLast?_cons, found]
        rfl

/-- Where the number of a window is told by its end, the last number is told by the end of the
range. -/
theorem Tiles.getLast?_numbers (tiles : Tiles stop start windows) {α : Type}
    {numbers : List α} (value : Timestamp → α) (sized : numbers.length = windows.length)
    (each : ∀ {k : Nat} {w : Window}, windows[k]? = some w → numbers[k]? = some (value w.stop)) :
    numbers.getLast? = if start < stop then some (value stop) else none := by
  by_cases ordered : start < stop
  · obtain ⟨w, last, ends⟩ := tiles.getLast? ordered
    rw [List.getLast?_eq_getElem?] at last
    rw [if_pos ordered, List.getLast?_eq_getElem?, sized, each last, ends]
  · have empty := tiles.eq_nil_of_not_lt ordered
    rw [if_neg ordered, List.getLast?_eq_none_iff, List.eq_nil_iff_length_eq_zero, sized, empty]
    rfl

end LastWindow

variable {ν : Type} [Arithmetic ν]

/-! ### One pass over the samples -/

/-- What a sample counts for: its number in the slot, or zero if there is no number. -/
def effective (index : Nat) (sample : Sample) : ν :=
  match (sample.value? index).bind Value.number? with
  | some x => Arithmetic.ofFloat x
  | none => Arithmetic.zero

/-- The samples added up from the left, beginning with zero. -/
def total (index : Nat) (samples : List Sample) : ν :=
  (samples.map (effective index)).foldl Arithmetic.add Arithmetic.zero

/-- What a running trend makes of all samples at once: their sum, or the mean of two and more. -/
def aggregate (trend : Trend) (index : Nat) (samples : List Sample) : ν :=
  if trend = .runningAverage ∧ 1 < samples.length then
    Arithmetic.div (total index samples) (Arithmetic.ofNat samples.length)
  else total index samples

/-- The sum that is carried on after the given samples. -/
def sumOf (index : Nat) (samples : List Sample) : RunningSum ν :=
  ⟨total index samples, samples.length⟩

theorem value_sumOf {trend : Trend} (running : trend.isRunning = true) (index : Nat)
    (samples : List Sample) :
    (sumOf index samples).value trend = (aggregate trend index samples : ν) := by
  unfold RunningSum.value aggregate sumOf
  cases trend with
  | runningSum => simp [Trend.isAverage]
  | runningAverage => simp [Trend.isAverage]
  | count | sum | average => cases running

section Window

variable {t : TrendTarget} {policy : CoercionPolicy} {samples : List Sample}

/-- Under either policy, a contribution that is not refused is what the sample counts for. -/
theorem contribution_eq_ok {sample : Sample} {x : ν} {substituted : Bool}
    (given : contribution t policy sample = .ok (x, substituted)) :
    x = effective t.index sample := by
  unfold contribution at given
  unfold effective
  cases held : sample.value? t.index with
  | none =>
      rw [held] at given
      exact (congrArg Prod.fst (Except.ok.inj given)).symm
  | some value =>
      cases number : value.number? with
      | some x' =>
          simp only [held, number, Except.ok.injEq, Prod.mk.injEq] at given
          simp [number, given.1]
      | none =>
          cases policy with
          | fail => simp [held, number] at given
          | substituteZero =>
              simp only [held, number, Except.ok.injEq, Prod.mk.injEq] at given
              simp [number, given.1]

theorem accumulate_eq_ok {acc acc' : RunningSum ν} {failures failures' : Nat}
    (added : accumulate t policy samples acc failures = .ok (acc', failures')) :
    acc' = ⟨(samples.map (effective t.index)).foldl Arithmetic.add acc.sum,
      acc.count + samples.length⟩ := by
  induction samples generalizing acc failures with
  | nil => exact (congrArg Prod.fst (Except.ok.inj added)).symm
  | cons sample rest ih =>
      rw [accumulate] at added
      cases given : (contribution t policy sample : Except Error (ν × Bool)) with
      | error e => simp [given] at added
      | ok answer =>
          simp only [given] at added
          rw [ih added, contribution_eq_ok given, List.map_cons, List.foldl_cons, List.length_cons,
            Nat.add_assoc, Nat.add_comm 1]

/-- A window of a running trend adds its samples to those that came before. -/
theorem trendWindow_running {state state' : TrendState ν} {before : List Sample} {value : ν}
    (trendable : t.column.trendable = true) (running : t.column.trend.isRunning = true)
    (carried : state.carried = sumOf t.index before)
    (evaluated : trendWindow (some t) policy state samples = .ok (value, state')) :
    state'.carried = sumOf t.index (before ++ samples) ∧
      value = aggregate t.column.trend t.index (before ++ samples) := by
  have not_counted : t.isCounted = false := by
    unfold TrendTarget.isCounted
    rw [trendable]
    cases trend : t.column.trend with
    | count => simp [trend, Trend.isRunning] at running
    | sum | average | runningSum | runningAverage => rfl
  simp only [trendWindow, not_counted, running, if_true, Bool.false_eq_true, if_false] at evaluated
  cases added : accumulate t policy samples state.carried state.failures with
  | error e => simp [added] at evaluated
  | ok answer =>
      obtain ⟨acc, failures⟩ := answer
      simp only [added, Except.ok.injEq, Prod.mk.injEq] at evaluated
      obtain ⟨rfl, rfl⟩ := evaluated
      have whole : acc = sumOf t.index (before ++ samples) := by
        rw [accumulate_eq_ok added, carried]
        simp [sumOf, total]
      rw [whole]
      exact ⟨rfl, value_sumOf running t.index _⟩

end Window

/-! ### Over the windows of a scan -/

section Scan

variable {start current stop : Timestamp} {w : Window} {windows : List Window}
  {samples : List Sample} {k : Nat}

/-- The samples that the windows up to and including the one with number `k` have taken. -/
def takenBy (windows : List Window) (samples : List Sample) (k : Nat) (w : Window) : List Sample :=
  perWindowBefore Window.members windows samples k ++ w.members (consumedIn windows samples k)

/-- The samples stamped from `start` to `stop`, both included. -/
def stampedWithin (start stop : Timestamp) (samples : List Sample) : List Sample :=
  samples.filter fun sample => start ≤ sample.timestamp && sample.timestamp ≤ stop

theorem stampedWithin_eq_filter_reached (inOrder : InOrder samples) (start stop : Timestamp) :
    stampedWithin start stop samples = (reached stop samples).filter (start ≤ ·.timestamp) := by
  rw [reached_eq_filter inOrder, List.filter_filter, stampedWithin]

/-- Of samples in order, the windows have taken those from the start of the range on. -/
theorem takenBy_of_inOrder (tiles : Tiles stop start windows) (at_k : windows[k]? = some w)
    (inOrder : InOrder samples) :
    takenBy windows samples k w = stampedWithin start w.stop samples := by
  induction tiles generalizing k samples with
  | done => simp at at_k
  | @window current next windows later bounded rest ih =>
      have tiles := Tiles.window later bounded rest
      cases k with
      | zero =>
          obtain rfl : ⟨current, next⟩ = w := by simpa using at_k
          rw [takenBy, perWindowBefore_zero, consumedIn_cons_zero tiles, List.nil_append,
            stampedWithin_eq_filter_reached inOrder]
          rfl
      | succ k =>
          rw [List.getElem?_cons_succ] at at_k
          have after := (rest.bounds w (List.mem_of_getElem? at_k)).2.1
          -- What the first window leaves is stamped after its end, so after its start too.
          have same_start : ∀ sample ∈ reached w.stop (unreached next samples),
              decide (next ≤ sample.timestamp) = decide (current ≤ sample.timestamp) := by
            intro sample member
            have left := (List.takeWhile_sublist _).subset member
            rw [unreached_eq_filter inOrder] at left
            have past := of_decide_eq_true (List.mem_filter.mp left).2
            rw [decide_eq_true (Std.le_of_lt past),
              decide_eq_true (Std.le_of_lt (Std.lt_trans later past))]
          have split : takenBy (⟨current, next⟩ :: windows) samples (k + 1) w =
              Window.members ⟨current, next⟩ (reached next samples) ++
                takenBy windows (unreached next samples) k w := by
            rw [takenBy, perWindowBefore_cons_succ _ tiles, consumedIn_cons_succ tiles,
              List.append_assoc]
            rfl
          rw [split, ih at_k (inOrder.unreached next),
            stampedWithin_eq_filter_reached (inOrder.unreached next), List.filter_congr same_start,
            stampedWithin_eq_filter_reached inOrder, reached_of_le (Std.le_of_lt after) samples,
            List.filter_append]
          rfl

/-- Of samples in order, the windows of a range take all that are stamped within it. -/
theorem perWindow_members_of_inOrder (tiles : Tiles stop start windows) (ordered : start < stop)
    (inOrder : InOrder samples) :
    perWindow Window.members windows samples = stampedWithin start stop samples := by
  obtain ⟨w, last, ends⟩ := tiles.getLast? ordered
  rw [List.getLast?_eq_getElem?] at last
  have nonempty : windows.length - 1 + 1 = windows.length := by
    have bound := (List.getElem?_eq_some_iff.mp last).1
    omega
  rw [← perWindowBefore_length, ← nonempty, perWindowBefore_succ _ last, ← ends]
  exact takenBy_of_inOrder tiles last inOrder

theorem foldl_observe_trend (target : Option TrendTarget) (policy : CoercionPolicy)
    (state : TrendState ν) (late : List Sample) :
    late.foldl (trendEvaluator target policy).observe state = state := by
  induction late with
  | nil => rfl
  | cons sample rest ih => exact ih

/-- **A running trend over the windows of a scan.** Whatever the timestamps, the value of a window
is that of one pass over all samples taken so far. -/
theorem scanWindows_running {t : TrendTarget} {policy : CoercionPolicy}
    (trendable : t.column.trendable = true) (running : t.column.trend.isRunning = true)
    (tiles : Tiles stop current windows) {p final : Progress (TrendState ν) ν}
    (begun : p.state.carried = .zero)
    (scanned : scanWindows (trendEvaluator (some t) policy) start windows samples p = .ok final) :
    ∃ numbers, final.values.numbers = p.values.numbers ++ numbers ∧
      numbers.length = windows.length ∧
      ∀ {k : Nat} {w : Window}, windows[k]? = some w →
        numbers[k]? = some (aggregate t.column.trend t.index (takenBy windows samples k w)) := by
  have none_yet : p.state.carried = sumOf t.index [] := begun
  obtain ⟨numbers, appended, sized, each⟩ := scanWindows_rule Window.members
    (fun taken state => state.carried = sumOf t.index taken)
    (fun w taken segment value =>
      value = aggregate t.column.trend t.index (taken ++ w.members segment))
    (fun {w taken segment state value state'} carried evaluated => by
      rw [foldl_observe_trend] at evaluated
      exact trendWindow_running trendable running carried evaluated)
    tiles none_yet scanned
  refine ⟨numbers, appended, sized, fun at_k => ?_⟩
  obtain ⟨value, found, rfl⟩ := each at_k
  exact found

end Scan

/-! ### Queries for intervals -/

/-- The samples of an event that a query looks at. -/
def Query.samples (q : Query) (store : Store) : List Sample :=
  match q.start with
  | some start => store.samplesFrom start
  | none => store.samples

/-- What is cut off before the start of a range is not stamped within it. -/
theorem stampedWithin_samplesFrom (store : Store) (start stop : Timestamp) :
    stampedWithin start stop (store.samplesFrom start) =
      stampedWithin start stop store.samples := by
  have cut : stampedWithin start stop
      (store.samples.takeWhile fun sample => sample.timestamp < start) = [] := by
    refine List.filter_eq_nil_iff.mpr fun sample member inside => ?_
    have early := List.all_eq_true.mp
      (List.all_takeWhile (p := fun sample : Sample => decide (sample.timestamp < start))) sample
      member
    have from_start := of_decide_eq_true (Bool.and_eq_true_iff.mp inside).1
    exact Std.not_le.mpr (of_decide_eq_true early) from_start
  conv => rhs; rw [← List.takeWhile_append_dropWhile (l := store.samples)
    (p := fun sample => decide (sample.timestamp < start)), stampedWithin, List.filter_append]
  rw [← stampedWithin, cut]
  rfl

theorem Query.stampedWithin_samples {q : Query} {store : Store} {start stop : Timestamp}
    (bounds : resolveBounds q (q.samples store) = (some start, some stop)) (t : Timestamp) :
    stampedWithin start t (q.samples store) = stampedWithin start t store.samples := by
  unfold Query.samples at bounds ⊢
  cases given : q.start with
  | none => rfl
  | some first =>
      obtain ⟨here, -⟩ := Prod.mk.inj bounds
      obtain rfl : first = start := by simpa [given] using here
      exact stampedWithin_samplesFrom store first t

theorem InOrder.query {store : Store} (inOrder : InOrder store.samples) (q : Query) :
    InOrder (q.samples store) := by
  unfold Query.samples
  cases q.start with
  | none => exact inOrder
  | some start => exact inOrder.sublist (List.dropWhile_sublist _)

section Compute

variable {settings : AggregationSettings} {q : Query} {d : Definition} {i : Instance}
  {columns : ColumnSet} {serial : Nat} {column : Column} {unit : IntervalUnit} {count : Nat}
  {s : Series ν} {t : TrendTarget}

theorem targetOf_eq_ok (found : targetOf columns serial = .ok t) :
    columns.columns[serial]? = some t.column ∧ t.column.index = some t.index := by
  unfold targetOf at found
  cases held : columns.columns[serial]? with
  | none => simp [held] at found
  | some column =>
      cases position : column.index with
      | none => simp [held, position] at found
      | some index =>
          simp only [held, position, Except.ok.injEq] at found
          obtain rfl := found
          exact ⟨rfl, position⟩

/-- The column that a query trends is as it was before the columns were locked, but for its
position. -/
theorem targetOf_lock (held : columns.columns[serial]? = some column)
    (found : targetOf columns.lock serial = .ok t) :
    t.column.trendable = column.trendable ∧ t.column.trend = column.trend := by
  have there := (targetOf_eq_ok found).1
  rw [ColumnSet.getElem?_columns_lock, held, Option.map_some, Option.some.injEq] at there
  rw [← there]
  exact ⟨rfl, rfl⟩

/-- A query that is answered computes the series of the column that is resolved for it. -/
theorem instanceSeries_of_compute {trended : Option Nat}
    (resolved : resolve d q.selector = .ok trended) (computed : compute settings q d i = .ok s) :
    instanceSeries settings q d trended i = .ok s := by
  unfold compute plan at computed
  cases checked : (checkGranularity q.granularity).bind fun () => checkBounds q with
  | error e => simp [checked] at computed
  | ok _ =>
      rw [checked, resolved] at computed
      exact computed

/-- A series of intervals over the samples of an event is one scan over the windows of the
series. -/
theorem eventSeries_eq_ok {target : Option TrendTarget} {store : Store}
    (intervals : q.granularity = .interval unit count)
    (answered : eventSeries settings q target store = .ok s) :
    ∃ start stop final, resolveBounds q (q.samples store) = (some start, some stop) ∧
      s.range = some (start, stop) ∧ Tiles stop start s.windows ∧
      scanWindows (trendEvaluator target settings.coercion) start s.windows (q.samples store)
        ⟨.initial, .empty settings.percentile, 0⟩ = .ok final ∧
      s.values = final.values := by
  obtain ⟨start, stop, final, bounds, range, tiles, scanned, series⟩ :=
    scan_intervals_eq_ok intervals answered
  exact ⟨start, stop, final, bounds, range, tiles, scanned, congrArg Series.values series⟩

/-- The series of a column is the event series of its place among the slots. -/
theorem eventSeries_of_compute {index : Nat} (event : d.body = .event columns)
    (held : columns.lock.columns[serial]? = some column) (placed : column.index = some index)
    (resolved : resolve d q.selector = .ok (some serial))
    (computed : compute settings q d i = .ok s) :
    eventSeries settings q (some ⟨column, index⟩) i.store = .ok s := by
  have target : targetOf columns.lock serial = .ok ⟨column, index⟩ := by
    simp only [targetOf, held, placed]
  have answered := instanceSeries_of_compute resolved computed
  simp only [instanceSeries, event, target] at answered
  exact answered

/-- A query for a column of an event that is answered was one scan over the windows of the
series. -/
theorem compute_column_eq_ok (event : d.body = .event columns)
    (resolved : resolve d q.selector = .ok (some serial))
    (intervals : q.granularity = .interval unit count)
    (computed : compute settings q d i = .ok s) :
    ∃ t start stop final, targetOf columns.lock serial = .ok t ∧
      resolveBounds q (q.samples i.store) = (some start, some stop) ∧
      s.range = some (start, stop) ∧ Tiles stop start s.windows ∧
      scanWindows (trendEvaluator (some t) settings.coercion) start s.windows (q.samples i.store)
        ⟨.initial, .empty settings.percentile, 0⟩ = .ok final ∧
      s.values = final.values := by
  have answered := instanceSeries_of_compute resolved computed
  simp only [instanceSeries, event] at answered
  cases found : targetOf columns.lock serial with
  | error e => simp [found] at answered
  | ok t =>
      rw [found] at answered
      exact ⟨t, by simpa using eventSeries_eq_ok intervals answered⟩

/-- The number of each window of a running trend, where timestamps never run back. -/
theorem compute_running_values (event : d.body = .event columns)
    (resolved : resolve d q.selector = .ok (some serial))
    (held : columns.columns[serial]? = some column) (trendable : column.trendable = true)
    (running : column.trend.isRunning = true) (intervals : q.granularity = .interval unit count)
    (inOrder : InOrder i.store.samples) (computed : compute settings q d i = .ok s) :
    ∃ t start stop, targetOf columns.lock serial = .ok t ∧ s.range = some (start, stop) ∧
      Tiles stop start s.windows ∧ s.values.numbers.length = s.windows.length ∧
      ∀ {k : Nat} {w : Window}, s.windows[k]? = some w → s.values.numbers[k]? =
        some (aggregate column.trend t.index (stampedWithin start w.stop i.store.samples)) := by
  obtain ⟨t, start, stop, final, found, bounds, range, tiles, scanned, values⟩ :=
    compute_column_eq_ok event resolved intervals computed
  obtain ⟨same_trendable, same_trend⟩ := targetOf_lock held found
  rw [← same_trendable] at trendable
  rw [← same_trend] at running ⊢
  obtain ⟨numbers, appended, sized, each⟩ := scanWindows_running trendable running tiles rfl scanned
  have all : s.values.numbers = numbers := by
    rw [values, appended]
    rfl
  refine ⟨t, start, stop, found, range, tiles, all ▸ sized, ?_⟩
  intro k w at_k
  rw [all, each at_k, takenBy_of_inOrder tiles at_k (inOrder.query q),
    Query.stampedWithin_samples bounds]

/-- **A running trend is a recomputation from scratch.** Where timestamps never run back, the number
of a window is computed in one pass over all samples stamped from the start of the range to the end
of the window. So series over the same range end with the same number, however the range is cut. -/
theorem compute_running_inOrder (event : d.body = .event columns)
    (resolved : resolve d q.selector = .ok (some serial))
    (held : columns.columns[serial]? = some column) (trendable : column.trendable = true)
    (running : column.trend.isRunning = true) (intervals : q.granularity = .interval unit count)
    (inOrder : InOrder i.store.samples) (computed : compute settings q d i = .ok s) :
    ∃ index start stop, columns.lock.columns[serial]?.bind (·.index) = some index ∧
      s.range = some (start, stop) ∧ Tiles stop start s.windows ∧
      s.values.numbers.length = s.windows.length ∧
      (∀ {k : Nat} {w : Window}, s.windows[k]? = some w → s.values.numbers[k]? =
        some (aggregate column.trend index (stampedWithin start w.stop i.store.samples))) ∧
      ∀ {settings' : AggregationSettings} {q' : Query} {unit' : IntervalUnit} {count' : Nat}
        {s' : Series ν}, resolve d q'.selector = .ok (some serial) →
        q'.granularity = .interval unit' count' → compute settings' q' d i = .ok s' →
        s'.range = s.range → s'.values.numbers.getLast? = s.values.numbers.getLast? := by
  obtain ⟨t, start, stop, found, range, tiles, sized, each⟩ :=
    compute_running_values event resolved held trendable running intervals inOrder computed
  obtain ⟨there, position⟩ := targetOf_eq_ok found
  have locked_position : columns.lock.columns[serial]?.bind (·.index) = some t.index := by
    rw [there, Option.bind_some, position]
  refine ⟨t.index, start, stop, locked_position, range, tiles, sized, each, ?_⟩
  intro settings' q' unit' count' s' resolved' intervals' computed' same_range
  obtain ⟨t', start', stop', found', range', tiles', sized', each'⟩ :=
    compute_running_values event resolved' held trendable running intervals' inOrder computed'
  obtain rfl : t = t' := Except.ok.inj (found.symm.trans found')
  obtain ⟨rfl, rfl⟩ : start = start' ∧ stop = stop' := by
    rw [range, range', Option.some.injEq, Prod.mk.injEq] at same_range
    exact ⟨same_range.1.symm, same_range.2.symm⟩
  let value (stop : Timestamp) : ν :=
    aggregate column.trend t.index (stampedWithin start stop i.store.samples)
  exact (tiles'.getLast?_numbers value sized' each').trans
    (tiles.getLast?_numbers value sized each).symm

end Compute

/-- An event whose latency is averaged over all samples so far. -/
def latencies : ColumnSet where
  definition := 0
  owner := "Web~Http~Requests"
  columns := #[.ofOptions "Latency" .float { trend := some .runningAverage }]
  order := [0]
  byName := (∅ : Std.TreeMap String Nat).insert "latency" 0
  default := some 0

/-- Latencies in order: one before the range from zero to ten seconds, one in its first five
seconds, none where these end, a text, one at the end of the range, and one after it. -/
def latencySamples : List Sample :=
  [⟨1, atSecond (-1), .event [some (.float 100)]⟩,
   ⟨2, atSecond 1, .event [some (.float 4)]⟩,
   ⟨3, atSecond 5, .event [none]⟩,
   ⟨4, atSecond 7, .event [some (.text "n/a")]⟩,
   ⟨5, atSecond 10, .event [some (.float 6)]⟩,
   ⟨6, atSecond 12, .event [some (.float 50)]⟩]

/-- In windows of five seconds and of two, the mean over the range comes out last. -/
theorem compute_running_inOrder_latencies :
    let d : Definition := { id := 0, key := ⟨"Web", "Http", "Requests"⟩, body := .event latencies }
    let i : Instance := ⟨0, 0, "web~http~requests~", none, ⟨latencySamples⟩⟩
    let q : Query := ⟨.interval .second 5, some ⟨0, by decide⟩, some ⟨10000000000, by decide⟩,
      .default⟩
    let q' : Query := { q with granularity := .interval .second 2 }
    ∃ s s' : Series Float,
      resolve d q.selector = .ok (some 0) ∧ InOrder i.store.samples ∧
      compute {} q d i = .ok s ∧ compute {} q' d i = .ok s' ∧
      s.values.numbers = [2, 2.5] ∧
      s.values.numbers[0]? = some (aggregate .runningAverage 0 ((latencySamples.drop 1).take 2)) ∧
      s.values.numbers[1]? = some (aggregate .runningAverage 0 ((latencySamples.drop 1).take 4)) ∧
      s'.values.numbers.getLast? = s.values.numbers.getLast? := by
  intro d i q q'
  have resolved : resolve d q.selector = .ok (some 0) := rfl
  have resolved' : resolve d q'.selector = .ok (some 0) := rfl
  have inOrder : InOrder i.store.samples := by
    unfold InOrder
    decide
  have answer : ((compute {} q d i : Except Error (Series Float)).map fun s =>
      (s.values.numbers, s.windows, s.range)).toOption = some ([2, 2.5],
        [⟨⟨0, by decide⟩, ⟨5000000000, by decide⟩⟩,
         ⟨⟨5000000000, by decide⟩, ⟨10000000000, by decide⟩⟩],
        some (⟨0, by decide⟩, ⟨10000000000, by decide⟩)) := by decide +kernel
  have answer' : ((compute {} q' d i : Except Error (Series Float)).map fun s => s.range).toOption =
      some (some (⟨0, by decide⟩, ⟨10000000000, by decide⟩)) := by decide +kernel
  cases computed : (compute {} q d i : Except Error (Series Float)) with
  | error e => simp [computed, Except.map, Except.toOption] at answer
  | ok s =>
      cases computed' : (compute {} q' d i : Except Error (Series Float)) with
      | error e => simp [computed', Except.map, Except.toOption] at answer'
      | ok s' =>
          rw [computed] at answer
          rw [computed'] at answer'
          simp only [Except.map, Except.toOption, Option.some.injEq, Prod.mk.injEq]
            at answer answer'
          obtain ⟨numbers, windows, range⟩ := answer
          obtain ⟨index, start, stop, position, range', -, -, each, last⟩ :=
            compute_running_inOrder rfl resolved rfl rfl rfl rfl inOrder computed
          obtain rfl : 0 = index := Option.some.inj position
          obtain ⟨rfl, rfl⟩ := Prod.mk.inj (Option.some.inj (range.symm.trans range'))
          rw [windows] at each
          exact ⟨s, s', resolved, inOrder, rfl, rfl, numbers, each (k := 0) rfl, each (k := 1) rfl,
            last resolved' rfl computed' (answer'.trans range.symm)⟩

end Metering.Series
