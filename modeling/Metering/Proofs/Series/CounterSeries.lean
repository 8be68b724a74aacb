import Metering.Proofs.Series.Schedule
import Metering.Series.Query

/-!
What the numbers of a counter series mean.

`Holds` is the invariant of the state that is carried from window to window: it is what the last
reading so far has left there. With it every window has its `windowValue`, which reads the value off
two lists of readings, those before the window and those inside it (`compute_counter_values`).
Where timestamps never run back these two lists are cut off by timestamps alone
(`compute_counter_values_inOrder`).
-/

namespace Metering.Series

open Metering.Time

variable {ν : Type} [Arithmetic ν]

/-! ### The value of a window, said without a state -/

/-- The readings of the samples, in order. -/
def readings (samples : List Sample) : List (Reading ν) :=
  samples.filterMap readingOf?

theorem readings_append (first second : List Sample) :
    (readings (first ++ second) : List (Reading ν)) = readings first ++ readings second :=
  List.filterMap_append

/-- The difference of two bases, where both are present. -/
def baseDifference? (first last : Reading ν) : Option ν :=
  match last.base, first.base with
  | some l, some f => some (Arithmetic.sub l f)
  | _, _ => none

/-- The value of a window from the readings before it and those inside it. -/
def windowValue (type : SamplingType) (before inside : List (Reading ν)) : ν :=
  match type with
  | .rawCount => (before ++ inside).getLast?.elim Arithmetic.zero fun last => last.raw
  | .rawFraction =>
    (before ++ inside).getLast?.elim Arithmetic.zero fun last => Arithmetic.ratio last.raw last.base
  | .incrementalCount =>
    if inside = [] then Arithmetic.zero else Arithmetic.sum (inside.map (·.raw))
  | .incrementalFraction =>
    if inside = [] then Arithmetic.zero
    else Arithmetic.ratio (Arithmetic.sum (inside.map (·.raw)))
      (some (Arithmetic.sum (inside.filterMap (·.base))))
  | .totalCount =>
    match before.getLast? <|> inside.head?, inside.getLast? with
    | some first, some last => Arithmetic.sub last.raw first.raw
    | _, _ => Arithmetic.zero
  | .totalFraction =>
    match before.getLast? <|> inside.head?, inside.getLast? with
    | some first, some last =>
      Arithmetic.ratio (Arithmetic.sub last.raw first.raw) (baseDifference? first last)
    | _, _ => Arithmetic.zero

/-! ### What is carried between windows -/

/-- The state is what the last of the readings has left there. -/
structure Holds (type : SamplingType) (seen : List (Reading ν)) (state : CounterState ν) :
    Prop where
  raw : state.lastRaw = seen.getLast?.map (·.raw)
  base : state.lastBase = seen.getLast?.bind (·.base)
  value : type.isRaw = true → state.lastValue = seen.getLast?.elim Arithmetic.zero (rawValue type)

section Holds

variable {type : SamplingType} {seen : List (Reading ν)} {state : CounterState ν}

theorem holds_initial : Holds type [] (CounterState.initial : CounterState ν) :=
  ⟨rfl, rfl, fun _ => rfl⟩

/-- A state left by a reading holds after any readings that end with it. -/
theorem holds_of_getLast? {last : Reading ν} (ends : seen.getLast? = some last) {value : ν}
    (repeated : type.isRaw = true → value = rawValue type last) :
    Holds type seen ⟨some last.raw, last.base, value⟩ := by
  constructor
  · rw [ends]
    rfl
  · rw [ends]
    rfl
  · rw [ends]
    exact repeated

theorem holds_observe (holds : Holds type seen state) (sample : Sample) :
    Holds type (seen ++ readings [sample]) (state.observe type sample) := by
  cases read : (readingOf? sample : Option (Reading ν)) with
  | none => simpa [CounterState.observe, readings, read] using holds
  | some r =>
      simp only [CounterState.observe, read, readings, List.filterMap_cons, List.filterMap_nil]
      refine holds_of_getLast? (by simp) fun raw => ?_
      rw [if_pos raw]

theorem holds_foldl_observe (holds : Holds type seen state) (samples : List Sample) :
    Holds type (seen ++ readings samples) (samples.foldl (CounterState.observe type) state) := by
  induction samples generalizing seen state with
  | nil => simpa [readings] using holds
  | cons sample rest ih =>
      have := ih (holds_observe holds sample)
      rw [List.append_assoc, ← readings_append] at this
      exact this

/-- A window without readings repeats a raw value, and is zero otherwise. -/
theorem windowValue_nil (holds : Holds type seen state) :
    (if type.isRaw then state.lastValue else Arithmetic.zero) = windowValue type seen [] := by
  cases type with
  | rawCount | rawFraction =>
      have kept := holds.value rfl
      simp only [windowValue, List.append_nil]
      exact kept
  | incrementalCount | incrementalFraction => rfl
  | totalCount | totalFraction =>
      simp only [windowValue]
      cases seen.getLast? <;> rfl

/-- The value of a window that has readings. -/
theorem readingsValue_eq (holds : Holds type seen state) {first last : Reading ν}
    {rest : List (Reading ν)} (ends : (first :: rest).getLast? = some last) :
    readingsValue type state (first :: rest) first last = windowValue type seen (first :: rest) := by
  have ends' : (seen ++ first :: rest).getLast? = some last := by
    rw [List.getLast?_append, ends]
    rfl
  have start : some (state.baseline first) = (seen.getLast? <|> some first) := by
    rw [CounterState.baseline, holds.raw, holds.base]
    cases seen.getLast? <;> rfl
  cases type with
  | rawCount | rawFraction =>
      simp only [windowValue, ends']
      rfl
  | incrementalCount | incrementalFraction => rfl
  | totalCount | totalFraction =>
      simp only [windowValue, ends, List.head?_cons, ← start]
      rfl

/-- A window gets its value, and leaves its last reading behind. -/
theorem counterWindow_of_holds (holds : Holds type seen state) (samples : List Sample) :
    (counterWindow type state samples).1 = windowValue type seen (readings samples) ∧
      Holds type (seen ++ readings samples) (counterWindow type state samples).2 := by
  unfold counterWindow readings
  cases inside : (samples.filterMap readingOf? : List (Reading ν)) with
  | nil =>
      rw [List.append_nil]
      exact ⟨windowValue_nil holds, holds⟩
  | cons first rest =>
      have ends : (first :: rest).getLast? = some ((first :: rest).getLast (by simp)) :=
        List.getLast?_eq_some_getLast _
      refine ⟨readingsValue_eq holds ends, holds_of_getLast? ?_ ?_⟩
      · rw [List.getLast?_append, ends]
        rfl
      · intro raw
        cases type with
        | rawCount | rawFraction => rfl
        | incrementalCount | incrementalFraction | totalCount | totalFraction => cases raw

end Holds

/-! ### The numbers of a series -/

theorem counterEvaluator_step {type : SamplingType} {w : Window} {fed segment : List Sample}
    {state state' : CounterState ν} {value : ν} (holds : Holds type (readings fed) state)
    (evaluated : (counterEvaluator type).evaluate
      ((w.stragglers segment).foldl (counterEvaluator type).observe state) (w.members segment) =
        .ok (value, state')) :
    Holds type (readings (fed ++ w.order segment)) state' ∧
      value = windowValue type (readings (fed ++ w.stragglers segment))
        (readings (w.members segment)) := by
  have observed := holds_foldl_observe holds (w.stragglers segment)
  obtain ⟨value_eq, left⟩ := counterWindow_of_holds observed (w.members segment)
  have answer : counterWindow type
      ((w.stragglers segment).foldl (CounterState.observe type) state) (w.members segment) =
      (value, state') := Except.ok.inj evaluated
  rw [answer, ← readings_append] at value_eq
  rw [answer, ← readings_append, ← readings_append, List.append_assoc] at left
  exact ⟨left, value_eq⟩

/-- Whatever the timestamps do, the number of a window is its value from what the evaluator got
before it, the readings that come late for it included. -/
theorem scanWindows_counter {type : SamplingType} {start current stop : Timestamp}
    {windows : List Window} (tiles : Tiles stop current windows) {samples : List Sample}
    {p final : Progress (CounterState ν) ν} (begun : p.state = .initial)
    (scanned : scanWindows (counterEvaluator type) start windows samples p = .ok final) :
    ∃ numbers, final.values.numbers = p.values.numbers ++ numbers ∧
      numbers.length = windows.length ∧
      ∀ {k w}, windows[k]? = some w → numbers[k]? = some (windowValue type
        (readings (fedBefore windows samples k ++ w.stragglers (consumedIn windows samples k)))
        (readings (w.members (consumedIn windows samples k)))) := by
  have begun : Holds type (readings []) p.state := begun ▸ holds_initial
  obtain ⟨numbers, appended, sized, each⟩ := scanWindows_values
    (fun fed state => Holds type (readings fed) state)
    (fun w fed segment value => value = windowValue type (readings (fed ++ w.stragglers segment))
      (readings (w.members segment)))
    counterEvaluator_step tiles begun scanned
  refine ⟨numbers, appended, sized, ?_⟩
  intro k w at_k
  obtain ⟨value, found, value_eq⟩ := each at_k
  rw [List.nil_append] at value_eq
  rw [found, value_eq]

section Compute

variable {settings : AggregationSettings} {q : Query} {d : Definition} {i : Instance}
  {type : SamplingType} {unit : IntervalUnit} {count : Nat} {s : Series ν}

/-- A series of intervals over a counter is one scan of all its samples over the windows of the
series. -/
theorem compute_counter_eq_ok (counter : d.body = .counterSampled type)
    (intervals : q.granularity = .interval unit count) (computed : compute settings q d i = .ok s) :
    ∃ start stop final, s.range = some (start, stop) ∧ Tiles stop start s.windows ∧
      scanWindows (counterEvaluator type) start s.windows i.store.samples
        ⟨.initial, .empty settings.percentile, 0⟩ = .ok final ∧
      s.values = final.values := by
  rw [compute] at computed
  cases planned : plan q d with
  | error e => simp [planned] at computed
  | ok trended =>
      rw [planned] at computed
      simp only [instanceSeries, counter] at computed
      obtain ⟨start, stop, final, _, range, tiles, scanned, rfl⟩ :=
        scan_intervals_eq_ok intervals computed
      exact ⟨start, stop, final, range, tiles, scanned, rfl⟩

theorem compute_counter_values (counter : d.body = .counterSampled type)
    (intervals : q.granularity = .interval unit count) (computed : compute settings q d i = .ok s) :
    ∃ start stop, s.range = some (start, stop) ∧ Tiles stop start s.windows ∧
      s.values.numbers.length = s.windows.length ∧
      ∀ {k w}, s.windows[k]? = some w →
        s.values.numbers[k]? = some (windowValue type
          (readings (fedBefore s.windows i.store.samples k ++
            w.stragglers (consumedIn s.windows i.store.samples k)))
          (readings (w.members (consumedIn s.windows i.store.samples k)))) := by
  obtain ⟨start, stop, final, range, tiles, scanned, values⟩ :=
    compute_counter_eq_ok counter intervals computed
  obtain ⟨numbers, appended, sized, each⟩ := scanWindows_counter tiles rfl scanned
  have all : s.values.numbers = numbers := by
    rw [values, appended]
    rfl
  exact ⟨start, stop, range, tiles, all ▸ sized, all ▸ each⟩

end Compute

/-! ### Samples in order -/

/-- The instant comes before the time of the window with number `k`: before the range for the
first window, and no later than the end of the window before it for any other. -/
def Window.precedes (w : Window) (k : Nat) (t : Timestamp) : Bool :=
  if k = 0 then t < w.start else t ≤ w.start

/-- The instant belongs to the time of the window with number `k`. An end that two windows share
belongs to the earlier one. -/
def Window.within (w : Window) (k : Nat) (t : Timestamp) : Bool :=
  (if k = 0 then decide (w.start ≤ t) else decide (w.start < t)) && decide (t ≤ w.stop)

section InOrder

variable {start stop : Timestamp} {windows : List Window} {k : Nat} {w : Window}
  {samples : List Sample}

/-- Of samples in order, only the first window passes some over. -/
theorem stragglers_of_inOrder (tiles : Tiles stop start windows) (at_k : windows[k + 1]? = some w)
    (inOrder : InOrder samples) : w.stragglers (consumedIn windows samples (k + 1)) = [] := by
  rw [consumedIn_succ tiles at_k, unreached_eq_filter inOrder]
  refine List.filter_eq_nil_iff.mpr fun sample member early => ?_
  have kept := (List.takeWhile_sublist _).subset member
  have past := of_decide_eq_true (List.mem_filter.mp kept).2
  exact Std.lt_irrefl (Std.lt_trans (of_decide_eq_true early) past)

/-- The first window passes over what is stamped before the range. -/
theorem stragglers_zero_of_inOrder (tiles : Tiles stop start windows) (at_zero : windows[0]? = some w)
    (inOrder : InOrder samples) :
    w.stragglers (consumedIn windows samples 0) =
      samples.filter fun sample => sample.timestamp < start := by
  have later := (tiles.bounds w (List.mem_of_getElem? at_zero)).2.1
  rw [consumedIn_zero tiles at_zero, reached_eq_filter inOrder, Window.stragglers,
    tiles.start_of_zero at_zero, List.filter_filter]
  refine List.filter_congr fun sample _ => ?_
  rw [← Bool.decide_and]
  refine decide_eq_decide.mpr ⟨fun both => both.1, fun early => ⟨early, ?_⟩⟩
  exact Std.le_of_lt (Std.lt_trans early later)

/-- What an evaluator gets before it evaluates a window is what precedes the window. -/
theorem before_of_inOrder (tiles : Tiles stop start windows) (at_k : windows[k]? = some w)
    (inOrder : InOrder samples) :
    fedBefore windows samples k ++ w.stragglers (consumedIn windows samples k) =
      samples.filter fun sample => w.precedes k sample.timestamp := by
  cases k with
  | zero =>
      rw [fedBefore_zero, List.nil_append, stragglers_zero_of_inOrder tiles at_k inOrder,
        ← tiles.start_of_zero at_k]
      rfl
  | succ k =>
      rw [fedBefore_of_inOrder tiles at_k inOrder, stragglers_of_inOrder tiles at_k inOrder,
        List.append_nil, reached_eq_filter inOrder]
      rfl

/-- The members of a window are what is stamped within its time. -/
theorem members_of_inOrder (tiles : Tiles stop start windows) (at_k : windows[k]? = some w)
    (inOrder : InOrder samples) :
    w.members (consumedIn windows samples k) =
      samples.filter fun sample => w.within k sample.timestamp := by
  cases k with
  | zero =>
      rw [consumedIn_zero tiles at_k, reached_eq_filter inOrder, Window.members,
        List.filter_filter]
      rfl
  | succ k =>
      rw [consumedIn_succ tiles at_k, reached_eq_filter (inOrder.unreached _),
        unreached_eq_filter inOrder, Window.members, List.filter_filter, List.filter_filter]
      refine List.filter_congr fun sample _ => ?_
      rw [Bool.eq_iff_iff]
      simp only [Window.within, Nat.succ_ne_zero, if_false, Bool.and_eq_true, decide_eq_true_eq]
      constructor
      · rintro ⟨⟨-, upTo⟩, past⟩
        exact ⟨past, upTo⟩
      · rintro ⟨past, upTo⟩
        exact ⟨⟨Std.le_of_lt past, upTo⟩, past⟩

end InOrder

/-- **A counter series whose timestamps never run back.** The number of each window is its value
from the readings stamped before its time and those stamped within it. -/
theorem compute_counter_values_inOrder {settings : AggregationSettings} {q : Query}
    {d : Definition} {i : Instance} {type : SamplingType} {unit : IntervalUnit} {count : Nat}
    {s : Series ν} (counter : d.body = .counterSampled type)
    (intervals : q.granularity = .interval unit count) (inOrder : InOrder i.store.samples)
    (computed : compute settings q d i = .ok s) :
    ∃ start stop, s.range = some (start, stop) ∧ Tiles stop start s.windows ∧
      s.values.numbers.length = s.windows.length ∧
      ∀ {k : Nat} {w : Window}, s.windows[k]? = some w →
        s.values.numbers[k]? = some (windowValue type
          (readings (i.store.samples.filter fun sample => w.precedes k sample.timestamp))
          (readings (i.store.samples.filter fun sample => w.within k sample.timestamp))) := by
  obtain ⟨start, stop, range, tiles, sized, each⟩ :=
    compute_counter_values counter intervals computed
  refine ⟨start, stop, range, tiles, sized, ?_⟩
  intro k w at_k
  rw [each at_k, before_of_inOrder tiles at_k inOrder, members_of_inOrder tiles at_k inOrder]

/-- Readings of a fraction, the first one a second before the range from zero to ten seconds. -/
def steadyReadings : List Sample :=
  [⟨1, ⟨-1000000000, by decide⟩, .counter ⟨4, some 2⟩⟩,
   ⟨2, ⟨1000000000, by decide⟩, .counter ⟨10, some 5⟩⟩,
   ⟨3, ⟨7000000000, by decide⟩, .counter ⟨11, some 5⟩⟩]

/-- The first window starts from the reading before the range; in the second one the base stands
still. -/
theorem compute_counter_values_inOrder_steadyReadings :
    let d := Definition.ofSchema 0 ⟨"Net", "Nic", "Load"⟩ (.counterSampled .totalFraction)
    let i : Instance := ⟨0, 0, "net~nic~load~", none, ⟨steadyReadings⟩⟩
    let q : Query := ⟨.interval .second 5, some ⟨0, by decide⟩, some ⟨10000000000, by decide⟩,
      .occurrences⟩
    ∃ s : Series Float,
      d.body = .counterSampled .totalFraction ∧ q.granularity = .interval .second 5 ∧
      InOrder i.store.samples ∧ compute {} q d i = .ok s ∧
      s.values.numbers = [2, 0] ∧
      s.values.numbers[0]? = some (windowValue .totalFraction (readings (steadyReadings.take 1))
        (readings [steadyReadings[1]])) ∧
      s.values.numbers[1]? = some (windowValue .totalFraction (readings (steadyReadings.take 2))
        (readings [steadyReadings[2]])) := by
  intro d i q
  have counter : d.body = .counterSampled .totalFraction := rfl
  have inOrder : InOrder i.store.samples := by
    unfold InOrder
    decide
  have numbers : ((compute {} q d i : Except Error (Series Float)).map fun s =>
      (s.values.numbers, s.windows)).toOption = some ([2, 0],
        [⟨⟨0, by decide⟩, ⟨5000000000, by decide⟩⟩,
         ⟨⟨5000000000, by decide⟩, ⟨10000000000, by decide⟩⟩]) := by decide +kernel
  cases computed : (compute {} q d i : Except Error (Series Float)) with
  | error e => simp [computed, Except.map, Except.toOption] at numbers
  | ok s =>
      rw [computed] at numbers
      simp only [Except.map, Except.toOption, Option.some.injEq, Prod.mk.injEq] at numbers
      obtain ⟨numbers, windows⟩ := numbers
      obtain ⟨start, stop, -, -, sized, each⟩ :=
        compute_counter_values_inOrder counter rfl inOrder computed
      rw [windows] at each
      exact ⟨s, counter, rfl, inOrder, rfl, numbers, each (k := 0) rfl, each (k := 1) rfl⟩

end Metering.Series
