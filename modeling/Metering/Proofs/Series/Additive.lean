import Metering.Proofs.Series.CounterSeries
import Metering.Proofs.Series.Exact
import Metering.Proofs.Series.Fault

/-!
Series that add up.

Some series split up one number that belongs to the range as a whole: a count, a sum, or the growth
of a counter. `Quantity.amount` is that number, for any samples and those that come before them. It is
`Additive`, which for the growth means that the readings between two windows cancel out; so the numbers
of the windows add up to it however the samples are cut (`Additive.sum_take`). In an exact arithmetic
the series up to any of its windows adds up to the amount of what is stamped within the range by then,
and series that differ only in their intervals have the same total (`compute_sum_inOrder`).
-/

namespace Metering.Series

open Metering.Time

variable {ν : Type} [AddCommGroupWithOne ν]

/-! ### Adding up piece by piece -/

/-- A number of some samples, given those before them, that may be added up piece by piece. -/
structure Additive (f : List Sample → List Sample → ν) : Prop where
  nil (before : List Sample) : f before [] = 0
  append (before first second : List Sample) :
    f before (first ++ second) = f before first + f (before ++ first) second

section Windows

variable {f : List Sample → List Sample → ν} {part : Window → List Sample → List Sample}
  {windows : List Window} {before samples : List Sample} {numbers : List ν}

/-- The numbers of the first windows add up to that of all their pieces. -/
theorem Additive.sum_take (additive : Additive f) {k : Nat} (within : k ≤ windows.length)
    (each : ∀ {k w}, windows[k]? = some w → numbers[k]? = some
      (f (before ++ perWindowBefore part windows samples k) (part w (consumedIn windows samples k)))) :
    (numbers.take k).sum = f before (perWindowBefore part windows samples k) := by
  induction k with
  | zero => rw [List.take_zero, List.sum_nil, perWindowBefore_zero, additive.nil]
  | succ k ih =>
      have at_k : windows[k]? = some windows[k] := List.getElem?_eq_getElem within
      rw [List.take_add_one, each at_k, Option.toList_some, List.sum_append, List.sum_singleton,
        ih (Nat.le_of_succ_le within), perWindowBefore_succ part at_k, additive.append]

variable {start stop : Timestamp}

/-- Of samples in order, the numbers up to a window add up to that of what is stamped from the start
of the range to the end of the window. -/
theorem Additive.sum_take_of_inOrder (additive : Additive f) (tiles : Tiles stop start windows)
    (inOrder : InOrder samples)
    (each : ∀ {k w}, windows[k]? = some w → numbers[k]? = some
      (f (before ++ perWindowBefore Window.members windows samples k)
        (w.members (consumedIn windows samples k))))
    {k : Nat} {w : Window} (at_k : windows[k]? = some w) :
    (numbers.take (k + 1)).sum = f before (stampedWithin start w.stop samples) := by
  have within : k + 1 ≤ windows.length := (List.getElem?_eq_some_iff.mp at_k).1
  rw [additive.sum_take within each, perWindowBefore_succ _ at_k]
  exact congrArg (f before) (takenBy_of_inOrder tiles at_k inOrder)

/-- The numbers of all windows add up to that of what is stamped within the range. A range without
any width has no windows. -/
theorem Additive.sum_of_inOrder (additive : Additive f) (tiles : Tiles stop start windows)
    (inOrder : InOrder samples) (sized : numbers.length = windows.length)
    (each : ∀ {k w}, windows[k]? = some w → numbers[k]? = some
      (f (before ++ perWindowBefore Window.members windows samples k)
        (w.members (consumedIn windows samples k)))) :
    numbers.sum = if start < stop then f before (stampedWithin start stop samples) else 0 := by
  have whole : numbers.sum = f before (perWindow Window.members windows samples) := by
    rw [← perWindowBefore_length, ← additive.sum_take (Nat.le_refl _) each, ← sized, List.take_length]
  by_cases ordered : start < stop
  · rw [if_pos ordered, whole, perWindow_members_of_inOrder tiles ordered inOrder]
  · have empty : windows = [] := tiles.eq_nil_of_not_lt ordered
    rw [if_neg ordered, whole, empty]
    exact additive.nil before

end Windows

/-! ### Readings in between cancel out -/

/-- The last reading, less the last one from before, or the first one if none came before. -/
def grown (before inside : List (Reading ν)) : ν :=
  match before.getLast? <|> inside.head?, inside.getLast? with
  | some first, some last => last.raw - first.raw
  | _, _ => 0

theorem grown_append (before first second : List (Reading ν)) :
    grown before (first ++ second) = grown before first + grown (before ++ first) second := by
  cases ends : first.getLast? with
  | none =>
      obtain rfl := List.getLast?_eq_none_iff.mp ends
      simp [grown]
  | some middle =>
      -- The second part starts from where the first one ends.
      obtain ⟨head, begins⟩ : ∃ head, first.head? = some head := by
        cases first with
        | nil => cases ends
        | cons head rest => exact ⟨head, rfl⟩
      obtain ⟨start, starts⟩ : ∃ start, (before.getLast? <|> first.head?) = some start := by
        rw [begins]
        cases before.getLast? with
        | none => exact ⟨head, rfl⟩
        | some last => exact ⟨last, rfl⟩
      have same_start : (before.getLast? <|> (first ++ second).head?) = some start := by
        rw [List.head?_append, begins, Option.some_or, ← begins, starts]
      have resumes : (before ++ first).getLast? = some middle := by
        rw [List.getLast?_append, ends, Option.some_or]
      have first_part : grown before first = middle.raw - start.raw := by
        simp only [grown, starts, ends]
      rw [first_part]
      simp only [grown, same_start, resumes, List.getLast?_append, ends]
      cases second.getLast? with
      | none => simp
      | some last => simp

/-! ### What is added up -/

/-- What a series adds up. -/
inductive Quantity where
  /-- How many samples there are. -/
  | occurrences
  /-- How many of them have a value in the slot. -/
  | present (index : Nat)
  /-- What they count for in the slot. -/
  | values (index : Nat)
  /-- The readings. -/
  | increments
  /-- By how much the readings have grown. -/
  | growth
deriving DecidableEq, Repr

variable [Arithmetic ν]

/-- How much the samples make of the quantity, given those before them. -/
def Quantity.amount (quantity : Quantity) (before inside : List Sample) : ν :=
  match quantity with
  | .occurrences => inside.length
  | .present index => inside.countP fun sample => (sample.value? index).isSome
  | .values index => (inside.map (effective index)).sum
  | .increments => ((readings inside).map (·.raw)).sum
  | .growth => grown (readings before) (readings inside)

theorem Quantity.additive (quantity : Quantity) : Additive (quantity.amount (ν := ν)) := by
  cases quantity with
  | occurrences =>
      refine ⟨fun _ => Nat.cast_zero, fun before first second => ?_⟩
      simp only [amount, List.length_append, Nat.cast_add]
  | present index =>
      refine ⟨fun _ => Nat.cast_zero, fun before first second => ?_⟩
      simp only [amount, List.countP_append, Nat.cast_add]
  | values index =>
      refine ⟨fun _ => rfl, fun before first second => ?_⟩
      simp only [amount, List.map_append, List.sum_append]
  | increments =>
      refine ⟨fun _ => rfl, fun before first second => ?_⟩
      simp only [amount, readings_append, List.map_append, List.sum_append]
  | growth =>
      refine ⟨fun before => ?_, fun before first second => ?_⟩
      · simp [amount, readings, grown]
      · simp only [amount, readings_append, grown_append]

/-- The series of a definition adds up a quantity, with the serial number of the column that is
trended. -/
inductive Adds (d : Definition) : Option Nat → Quantity → Prop where
  /-- An event of which no column is trended. -/
  | occurrences {columns : ColumnSet} : d.body = .event columns → Adds d none .occurrences
  /-- A column that is only counted. -/
  | counted {columns : ColumnSet} {serial index : Nat} {column : Column} :
      d.body = .event columns → columns.lock.columns[serial]? = some column →
      column.index = some index → column.trendable = false ∨ column.trend = .count →
      Adds d (some serial) (.present index)
  /-- A column that is summed up. -/
  | summed {columns : ColumnSet} {serial index : Nat} {column : Column} :
      d.body = .event columns → columns.lock.columns[serial]? = some column →
      column.index = some index → column.trendable = true → column.trend = .sum →
      Adds d (some serial) (.values index)
  | incremental {trended : Option Nat} : d.body = .counterSampled .incrementalCount →
      Adds d trended .increments
  | total {trended : Option Nat} : d.body = .counterSampled .totalCount → Adds d trended .growth

/-! ### The number of a window -/

section Window

variable [Exact ν] {t : TrendTarget} {policy : CoercionPolicy} {state state' : TrendState ν}
  {samples : List Sample} {value : ν}

theorem trendWindow_occurrences
    (evaluated : trendWindow none policy state samples = .ok (value, state')) :
    value = Quantity.occurrences.amount [] samples := by
  cases evaluated
  exact Exact.ofNat_eq _

theorem trendWindow_counted (counted : t.isCounted = true)
    (evaluated : trendWindow (some t) policy state samples = .ok (value, state')) :
    value = (Quantity.present t.index).amount [] samples := by
  simp only [trendWindow, counted, if_true, Except.ok.injEq, Prod.mk.injEq] at evaluated
  rw [← evaluated.1]
  exact Exact.ofNat_eq _

theorem trendWindow_summed (trendable : t.column.trendable = true) (summed : t.column.trend = .sum)
    (evaluated : trendWindow (some t) policy state samples = .ok (value, state')) :
    value = (Quantity.values t.index).amount [] samples := by
  have not_counted : t.isCounted = false := by
    rw [TrendTarget.isCounted, trendable, summed]
    rfl
  have not_running : t.column.trend.isRunning = false := by rw [summed]; rfl
  simp only [trendWindow, not_counted, not_running, Bool.false_eq_true, if_false] at evaluated
  cases added : accumulate t policy samples (.zero : RunningSum ν) state.failures with
  | error e => simp [added] at evaluated
  | ok answer =>
      obtain ⟨acc, failures⟩ := answer
      simp only [added, Except.ok.injEq, Prod.mk.injEq] at evaluated
      obtain ⟨rfl, -⟩ := evaluated
      have not_averaged : acc.value t.column.trend = acc.sum := by
        rw [RunningSum.value, summed]
        rfl
      rw [not_averaged, accumulate_eq_ok added]
      simp only [RunningSum.zero, foldl_add_eq, zero_eq, zero_add, Quantity.amount]

theorem windowValue_incrementalCount (before inside : List Sample) :
    (windowValue .incrementalCount (readings before) (readings inside) : ν) =
      Quantity.increments.amount before inside := by
  rw [windowValue, Quantity.amount, sum_eq, zero_eq]
  cases (readings inside : List (Reading ν)) with
  | nil => rfl
  | cons first rest => rfl

theorem windowValue_totalCount_eq (before inside : List Sample) :
    (windowValue .totalCount (readings before) (readings inside) : ν) =
      Quantity.growth.amount before inside := by
  unfold windowValue Quantity.amount grown
  cases ((readings before).getLast? <|> (readings inside).head? : Option (Reading ν)) with
  | none => exact zero_eq
  | some first =>
      cases ((readings inside).getLast? : Option (Reading ν)) with
      | none => exact zero_eq
      | some last => exact Exact.sub_eq last.raw first.raw

end Window

/-! ### The numbers of a series -/

/-- The samples stamped before the given instant. -/
def stampedBefore (t : Timestamp) (samples : List Sample) : List Sample :=
  samples.filter fun sample => sample.timestamp < t

/-- Of samples in order, an evaluator has got those stamped before the range, and then what the
windows have taken so far. -/
theorem before_eq_append {start stop : Timestamp} {windows : List Window} {k : Nat} {w : Window}
    {samples : List Sample} (tiles : Tiles stop start windows) (at_k : windows[k]? = some w)
    (inOrder : InOrder samples) :
    fedBefore windows samples k ++ w.stragglers (consumedIn windows samples k) =
      stampedBefore start samples ++ perWindowBefore Window.members windows samples k := by
  induction k generalizing w with
  | zero =>
      rw [fedBefore_zero, perWindowBefore_zero, List.nil_append, List.append_nil,
        stragglers_zero_of_inOrder tiles at_k inOrder, stampedBefore]
  | succ k ih =>
      obtain ⟨w', at_k'⟩ : ∃ w', windows[k]? = some w' := by
        have bound := (List.getElem?_eq_some_iff.mp at_k).1
        exact ⟨_, List.getElem?_eq_getElem (Nat.lt_of_succ_lt bound)⟩
      rw [stragglers_of_inOrder tiles at_k inOrder, List.append_nil, fedBefore,
        ← perWindowBefore, perWindowBefore_succ _ at_k', perWindowBefore_succ _ at_k',
        ← List.append_assoc, ← ih at_k', Window.order, List.append_assoc]
      rfl

section Compute

variable {settings : AggregationSettings} {q : Query} {d : Definition} {i : Instance}
  {trended : Option Nat} {quantity : Quantity} {unit : IntervalUnit} {count : Nat} {s : Series ν}

/-- Each number of the series is the amount of the quantity in its window. -/
structure Splits (s : Series ν) (quantity : Quantity) (store : Store) (start stop : Timestamp)
    (samples : List Sample) : Prop where
  range : s.range = some (start, stop)
  tiles : Tiles stop start s.windows
  inOrder : InOrder samples
  within (t : Timestamp) : stampedWithin start t samples = stampedWithin start t store.samples
  sized : s.values.numbers.length = s.windows.length
  each {k : Nat} {w : Window} : s.windows[k]? = some w → s.values.numbers[k]? = some
    (quantity.amount
      (stampedBefore start store.samples ++ perWindowBefore Window.members s.windows samples k)
      (w.members (consumedIn s.windows samples k)))

theorem splits_event {target : Option TrendTarget} {store : Store}
    (worth : ∀ {state state' : TrendState ν} {samples : List Sample} {value : ν},
      trendWindow target settings.coercion state samples = .ok (value, state') →
        value = quantity.amount [] samples)
    (indifferent : ∀ before inside, (quantity.amount before inside : ν) = quantity.amount [] inside)
    (intervals : q.granularity = .interval unit count) (inOrder : InOrder store.samples)
    (answered : eventSeries settings q target store = .ok s) :
    ∃ start stop, Splits s quantity store start stop (q.samples store) := by
  obtain ⟨start, stop, final, bounds, range, tiles, scanned, values⟩ :=
    eventSeries_eq_ok intervals answered
  obtain ⟨numbers, appended, sized, each⟩ := scanWindows_each
    (fun members value => value = quantity.amount [] members) worth tiles scanned
  have all : s.values.numbers = numbers := by
    rw [values, appended]
    rfl
  refine ⟨start, stop, range, tiles, inOrder.query q, Query.stampedWithin_samples bounds,
    all ▸ sized, fun at_k => ?_⟩
  obtain ⟨value, found, value_eq⟩ := each at_k
  rw [all, found, value_eq, ← indifferent]

theorem splits_counter {type : SamplingType}
    (worth : ∀ before inside, (windowValue type (readings before) (readings inside) : ν) =
      quantity.amount before inside)
    (counter : d.body = .counterSampled type) (intervals : q.granularity = .interval unit count)
    (inOrder : InOrder i.store.samples) (computed : compute settings q d i = .ok s) :
    ∃ start stop, Splits s quantity i.store start stop i.store.samples := by
  obtain ⟨start, stop, range, tiles, sized, each⟩ :=
    compute_counter_values counter intervals computed
  refine ⟨start, stop, range, tiles, inOrder, fun _ => rfl, sized, fun at_k => ?_⟩
  rw [each at_k, worth, before_eq_append tiles at_k inOrder]

variable [Exact ν]

theorem compute_splits (adds : Adds d trended quantity)
    (resolved : resolve d q.selector = .ok trended) (intervals : q.granularity = .interval unit count)
    (inOrder : InOrder i.store.samples) (computed : compute settings q d i = .ok s) :
    ∃ start stop samples, Splits s quantity i.store start stop samples := by
  cases adds with
  | occurrences event =>
      have answered := instanceSeries_of_compute resolved computed
      simp only [instanceSeries, event] at answered
      obtain ⟨start, stop, splits⟩ :=
        splits_event trendWindow_occurrences (fun _ _ => rfl) intervals inOrder answered
      exact ⟨start, stop, _, splits⟩
  | @counted columns serial index column event held placed only =>
      have answered := eventSeries_of_compute event held placed resolved computed
      have counted : TrendTarget.isCounted ⟨column, index⟩ = true := by
        rcases only with untrendable | counted
        · simp [TrendTarget.isCounted, untrendable]
        · simp [TrendTarget.isCounted, counted]
      obtain ⟨start, stop, splits⟩ :=
        splits_event (trendWindow_counted counted) (fun _ _ => rfl) intervals inOrder answered
      exact ⟨start, stop, _, splits⟩
  | summed event held placed trendable summed =>
      have answered := eventSeries_of_compute event held placed resolved computed
      obtain ⟨start, stop, splits⟩ := splits_event (trendWindow_summed trendable summed)
        (fun _ _ => rfl) intervals inOrder answered
      exact ⟨start, stop, _, splits⟩
  | incremental counter =>
      obtain ⟨start, stop, splits⟩ :=
        splits_counter windowValue_incrementalCount counter intervals inOrder computed
      exact ⟨start, stop, _, splits⟩
  | total counter =>
      obtain ⟨start, stop, splits⟩ :=
        splits_counter windowValue_totalCount_eq counter intervals inOrder computed
      exact ⟨start, stop, _, splits⟩

end Compute

/-! ### The range of a series -/

/-- Both bounds of a series, where there are any. -/
def bounds? (q : Query) (samples : List Sample) : Option (Timestamp × Timestamp) :=
  match resolveBounds q samples with
  | (some start, some stop) => some (start, stop)
  | _ => none

theorem bounds?_eq_some_iff {q : Query} {samples : List Sample} {start stop : Timestamp} :
    bounds? q samples = some (start, stop) ↔
      resolveBounds q samples = (some start, some stop) := by
  unfold bounds?
  rcases resolveBounds q samples with ⟨_ | first, _ | last⟩ <;> simp

section Range

variable {ν : Type} [Arithmetic ν] {settings : AggregationSettings} {q : Query} {s : Series ν}

theorem scan_range {σ : Type} {ev : Evaluator σ ν} {initial : σ} {samples : List Sample}
    {failures : σ → Nat} (answered : scan ev initial settings q samples failures = .ok s) :
    s.range = bounds? q samples := by
  rcases scan_eq_ok answered with ⟨start, stop, _, bounds, -, -, rfl⟩ | ⟨unbounded, -, rfl⟩
  · rw [bounds?, bounds]
  · rw [bounds?]
    split
    · rename_i start stop bounds
      exact absurd bounds (unbounded start stop)
    · rfl

/-- A query that is answered was a scan, by the evaluator of what is asked for. -/
theorem exists_scan_of_compute {d : Definition} {i : Instance}
    (computed : compute settings q d i = .ok s) :
    ∃ (σ : Type) (ev : Evaluator σ ν) (initial : σ) (failures : σ → Nat),
      scan ev initial settings q (consulted q d i) failures = .ok s := by
  rw [compute] at computed
  cases planned : plan q d with
  | error e => simp [planned] at computed
  | ok trended =>
      rw [planned] at computed
      unfold consulted
      cases body : d.body with
      | counterSampled type =>
          simp only [instanceSeries, body] at computed
          exact ⟨_, _, _, _, computed⟩
      | event columns =>
          cases trended with
          | none =>
              simp only [instanceSeries, body] at computed
              exact ⟨_, _, _, _, computed⟩
          | some serial =>
              simp only [instanceSeries, body] at computed
              cases found : targetOf columns.lock serial with
              | error e => simp [found] at computed
              | ok t =>
                  rw [found] at computed
                  exact ⟨_, _, _, _, computed⟩

/-- The range depends on the bounds of the query and on the samples, not on the granularity. -/
theorem compute_range {d : Definition} {i : Instance} (computed : compute settings q d i = .ok s) :
    s.range = bounds? q (consulted q d i) := by
  obtain ⟨_, _, _, _, answered⟩ := exists_scan_of_compute computed
  exact scan_range answered

end Range

/-! ### Totals -/

section Total

variable [Exact ν] {settings : AggregationSettings} {q : Query} {d : Definition} {i : Instance}
  {trended : Option Nat} {quantity : Quantity} {unit : IntervalUnit} {count : Nat} {s : Series ν}

/-- The total of an additive series, told by the range alone. -/
theorem sum_numbers {start stop : Timestamp} (adds : Adds d trended quantity)
    (resolved : resolve d q.selector = .ok trended) (intervals : q.granularity = .interval unit count)
    (inOrder : InOrder i.store.samples) (computed : compute settings q d i = .ok s)
    (range : s.range = some (start, stop)) :
    s.values.numbers.sum = if start < stop then
      quantity.amount (stampedBefore start i.store.samples)
        (stampedWithin start stop i.store.samples) else 0 := by
  obtain ⟨start', stop', samples, splits⟩ :=
    compute_splits adds resolved intervals inOrder computed
  obtain ⟨rfl, rfl⟩ := Prod.mk.inj (Option.some.inj (range.symm.trans splits.range))
  rw [quantity.additive.sum_of_inOrder splits.tiles splits.inOrder splits.sized splits.each,
    splits.within]

/-- **The total of an additive series does not depend on its intervals.** Where timestamps never run
back and the arithmetic is exact, the numbers up to a window add up to the amount of what is stamped
from the start of the range to the end of the window, so all of them to that of the range. The same
query for other intervals has the same range, and the same total. -/
theorem compute_sum_inOrder (adds : Adds d trended quantity)
    (resolved : resolve d q.selector = .ok trended) (intervals : q.granularity = .interval unit count)
    (inOrder : InOrder i.store.samples) (computed : compute settings q d i = .ok s) :
    ∃ start stop, s.range = some (start, stop) ∧
      (∀ {k : Nat} {w : Window}, s.windows[k]? = some w →
        (s.values.numbers.take (k + 1)).sum = quantity.amount (stampedBefore start i.store.samples)
          (stampedWithin start w.stop i.store.samples)) ∧
      (start < stop → s.values.numbers.sum = quantity.amount
        (stampedBefore start i.store.samples) (stampedWithin start stop i.store.samples)) ∧
      ∀ {settings' : AggregationSettings} {unit' : IntervalUnit} {count' : Nat} {s' : Series ν},
        compute settings' { q with granularity := .interval unit' count' } d i = .ok s' →
          s'.range = s.range ∧ s'.values.numbers.sum = s.values.numbers.sum := by
  obtain ⟨start, stop, samples, splits⟩ := compute_splits adds resolved intervals inOrder computed
  have total := sum_numbers adds resolved intervals inOrder computed splits.range
  refine ⟨start, stop, splits.range, ?_, ?_, ?_⟩
  · intro k w at_k
    rw [quantity.additive.sum_take_of_inOrder splits.tiles splits.inOrder splits.each at_k,
      splits.within]
  · intro ordered
    rw [total, if_pos ordered]
  · intro settings' unit' count' s' computed'
    have same_range : s'.range = s.range :=
      (compute_range computed').trans (compute_range computed).symm
    have resolved' : resolve d { q with granularity := .interval unit' count' }.selector =
        .ok trended := resolved
    have total' := sum_numbers adds resolved' rfl inOrder computed' (same_range.trans splits.range)
    exact ⟨same_range, total'.trans total.symm⟩

end Total

/-- Readings of a counter in order: one a second before the range from zero to twenty seconds, two
within it, and one after it. -/
def growingReadings : List Sample :=
  [⟨1, atSecond (-1), .counter ⟨4, none⟩⟩,
   ⟨2, atSecond 1, .counter ⟨10, none⟩⟩,
   ⟨3, atSecond 12, .counter ⟨17.5, none⟩⟩,
   ⟨4, atSecond 21, .counter ⟨30, none⟩⟩]

/-- In windows of five seconds and of seven, some of them without readings, the counter grows from the
reading before the range to the last one within it. -/
theorem compute_sum_inOrder_growingReadings :
    let d := Definition.ofSchema 0 ⟨"Net", "Nic", "Bytes"⟩ (.counterSampled .totalCount)
    let i : Instance := ⟨0, 0, "net~nic~bytes~", none, ⟨growingReadings⟩⟩
    let q : Query := ⟨.interval .second 5, some ⟨0, by decide⟩, some ⟨20000000000, by decide⟩,
      .occurrences⟩
    let q' : Query := { q with granularity := .interval .second 7 }
    ∃ s s' : Series ℚ,
      Adds d none .growth ∧ resolve d q.selector = .ok none ∧ InOrder i.store.samples ∧
      compute {} q d i = .ok s ∧ compute {} q' d i = .ok s' ∧
      s.values.numbers = [6, 0, 15 / 2, 0] ∧ s'.values.numbers = [6, 15 / 2, 0] ∧
      s.values.numbers.sum = Quantity.growth.amount (growingReadings.take 1)
        [growingReadings[1], growingReadings[2]] ∧
      s'.values.numbers.sum = s.values.numbers.sum := by
  intro d i q q'
  have adds : Adds d none .growth := .total rfl
  have inOrder : InOrder i.store.samples := by
    unfold InOrder
    decide
  have answer : ((compute {} q d i : Except Error (Series ℚ)).map fun s =>
      (s.values.numbers, s.range)).toOption = some ([6, 0, 15 / 2, 0],
        some (⟨0, by decide⟩, ⟨20000000000, by decide⟩)) := by decide +kernel
  have answer' : ((compute {} q' d i : Except Error (Series ℚ)).map fun s =>
      s.values.numbers).toOption = some [6, 15 / 2, 0] := by decide +kernel
  obtain ⟨s, computed, seen⟩ := exists_of_seen answer
  obtain ⟨s', computed', numbers'⟩ := exists_of_seen answer'
  obtain ⟨numbers, range⟩ := Prod.mk.inj seen
  obtain ⟨start, stop, range', -, total, same⟩ := compute_sum_inOrder adds rfl rfl inOrder computed
  obtain ⟨rfl, rfl⟩ := Prod.mk.inj (Option.some.inj (range.symm.trans range'))
  exact ⟨s, s', adds, rfl, inOrder, computed, computed', numbers, numbers', total (by decide),
    (same computed').2⟩

end Metering.Series
