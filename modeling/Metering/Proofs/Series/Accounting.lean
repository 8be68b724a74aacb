import Metering.Proofs.Series.RunningTrend

/-!
The samples that a series accounts for.

Without a column a window counts its samples. A scan over a range with some width counts or skips
every sample that it reaches from the start of the range on (`eventSeries_tally`). With both bounds
left open the range goes from the least timestamp to the greatest one, so that every sample of the
store is reached. There are no windows, though, where the two are the same: `compute_accounts_iff`
says that all samples are accounted for just if they do not all have one timestamp.
-/

namespace Metering.Series

open Metering.Time

/-! ### Open bounds -/

/-- The range is the least one that every sample is stamped within. -/
structure Spans (start stop : Timestamp) (samples : List Sample) : Prop where
  within : ∀ sample ∈ samples, start ≤ sample.timestamp ∧ sample.timestamp ≤ stop
  first : ∃ sample ∈ samples, sample.timestamp = start
  last : ∃ sample ∈ samples, sample.timestamp = stop

/-- Two of the samples have different timestamps. -/
def Spread (samples : List Sample) : Prop :=
  ∃ a ∈ samples, ∃ b ∈ samples, a.timestamp < b.timestamp

section OpenBounds

variable {start stop low high : Timestamp} {samples : List Sample}

theorem Spans.lt_iff (spans : Spans start stop samples) : start < stop ↔ Spread samples := by
  constructor
  · intro ordered
    obtain ⟨a, held, rfl⟩ := spans.first
    obtain ⟨b, held', rfl⟩ := spans.last
    exact ⟨a, held, b, held', ordered⟩
  · rintro ⟨a, held, b, held', apart⟩
    exact Std.lt_of_le_of_lt (spans.within a held).1
      (Std.lt_of_lt_of_le apart (spans.within b held').2)

theorem Spans.reached (spans : Spans start stop samples) : reached stop samples = samples :=
  List.takeWhile_eq_self_iff.mpr fun sample held => decide_eq_true (spans.within sample held).2

theorem low_le_timestamp (lowest : (samples.map (·.timestamp)).min? = some low) :
    ∀ sample ∈ samples, low ≤ sample.timestamp := fun _ held =>
  (List.le_min?_iff lowest).mp (Std.le_refl low) _ (List.mem_map_of_mem held)

theorem timestamp_le_high (highest : (samples.map (·.timestamp)).max? = some high) :
    ∀ sample ∈ samples, sample.timestamp ≤ high := fun _ held =>
  (List.max?_le_iff highest).mp (Std.le_refl high) _ (List.mem_map_of_mem held)

/-- Bounds that are both left open span the samples. -/
theorem resolveBounds_open {q : Query} (openStart : q.start = none) (openStop : q.stop = none)
    (stored : samples ≠ []) :
    ∃ start stop, resolveBounds q samples = (some start, some stop) ∧ Spans start stop samples := by
  have some_stamp : samples.map (·.timestamp) ≠ [] := by rwa [ne_eq, List.map_eq_nil_iff]
  obtain ⟨low, lowest⟩ := Option.isSome_iff_exists.mp (List.isSome_min?_of_ne_nil some_stamp)
  obtain ⟨high, highest⟩ := Option.isSome_iff_exists.mp (List.isSome_max?_of_ne_nil some_stamp)
  have low_le := low_le_timestamp lowest
  have le_high := timestamp_le_high highest
  obtain ⟨first, held, at_low⟩ := List.mem_map.mp (List.min?_mem lowest)
  have bounds : resolveBounds q samples = (some low, some high) := by
    have ordered : low ≤ high := at_low ▸ le_high first held
    have max_eq : max high low = high := by
      rw [Timestamp.le_def] at ordered
      refine Timestamp.ext ?_
      rw [Timestamp.nanos_max]
      omega
    simp [resolveBounds, openStart, openStop, lowest, highest, max_eq]
  exact ⟨low, high, bounds, fun sample held => ⟨low_le sample held, le_high sample held⟩,
    ⟨first, held, at_low⟩, List.mem_map.mp (List.max?_mem highest)⟩

end OpenBounds

/-! ### What the windows count -/

/-- How many samples each window takes. -/
def tally (windows : List Window) (samples : List Sample) : List Nat :=
  windows.mapIdx fun k w => (w.members (consumedIn windows samples k)).length

variable {ν : Type} [Arithmetic ν] {settings : AggregationSettings} {q : Query} {s : Series ν}
  {unit : IntervalUnit} {count : Nat}

/-- Without a column the numbers of a series are the tally of its windows. With the samples that it
skipped, these are all that it reached from the start of the range on, if the range has some
width. -/
theorem eventSeries_tally {store : Store} (intervals : q.granularity = .interval unit count)
    (answered : eventSeries settings q none store = .ok s) :
    ∃ start stop, resolveBounds q (q.samples store) = (some start, some stop) ∧
      s.values.numbers = (tally s.windows (q.samples store)).map Arithmetic.ofNat ∧
      (start < stop → (tally s.windows (q.samples store)).sum + s.skipped =
        (reached stop (q.samples store)).countP fun sample => start ≤ sample.timestamp) ∧
      (¬ start < stop → s.values.numbers = [] ∧ s.skipped = 0) := by
  obtain ⟨start, stop, final, bounds, -, tiles, scanned, series⟩ :=
    scan_intervals_eq_ok intervals answered
  have total : ∀ (state : TrendState ν) (samples : List Sample), ∃ answer,
      (trendEvaluator none settings.coercion).evaluate state samples = .ok answer :=
    fun state samples => ⟨_, rfl⟩
  obtain ⟨state, values, plain, -⟩ := scanWindows_logged start total tiles (q.samples store)
    ⟨.initial, .empty settings.percentile, 0⟩ []
  obtain rfl : final = _ := Except.ok.inj (scanned.symm.trans plain)
  obtain ⟨numbers, appended, sized, each⟩ := scanWindows_each
    (fun members value => value = Arithmetic.ofNat members.length)
    (fun evaluated => (congrArg Prod.fst (Except.ok.inj evaluated)).symm) tiles scanned
  have counted : s.values.numbers = (tally s.windows (q.samples store)).map Arithmetic.ofNat := by
    have all : s.values.numbers = numbers := by
      rw [congrArg Series.values series, appended]
      rfl
    rw [all]
    refine List.ext_getElem? fun k => ?_
    rw [tally, List.getElem?_map, List.getElem?_mapIdx]
    cases at_k : s.windows[k]? with
    | none =>
        rw [List.getElem?_eq_none_iff] at at_k
        rw [List.getElem?_eq_none (sized ▸ at_k)]
        rfl
    | some w =>
        obtain ⟨value, found, rfl⟩ := each at_k
        exact found
  have skipped : s.skipped = late start s.windows (q.samples store) :=
    (congrArg Series.skipped series).trans (Nat.zero_add _)
  refine ⟨start, stop, bounds, counted, fun ordered => ?_, fun no_width => ?_⟩
  · rw [skipped]
    exact sum_members_add_late tiles ordered _
  · have empty := tiles.eq_nil_of_not_lt no_width
    rw [counted, skipped, empty]
    exact ⟨rfl, rfl⟩

/-! ### Every sample of the store -/

/-- The numbers of the series are counts of samples, and together with the samples that it skipped
these are as many as the store holds. -/
def Accounts (s : Series ν) (store : Store) : Prop :=
  ∃ counts : List Nat, s.values.numbers = counts.map Arithmetic.ofNat ∧
    counts.sum + s.skipped = store.samples.length

/-- **No sample is lost with open bounds, unless all have one timestamp.** Where two timestamps
differ, the series accounts for every sample of the store. Where they are all the same, it has no
value, and skips nothing. -/
theorem compute_accounts_iff {d : Definition} {i : Instance} {columns : ColumnSet}
    (event : d.body = .event columns) (uncolumned : resolve d q.selector = .ok none)
    (openStart : q.start = none) (openStop : q.stop = none)
    (intervals : q.granularity = .interval unit count) (stored : i.store.samples ≠ [])
    (computed : compute settings q d i = .ok s) :
    (s.Accounts i.store ↔ Spread i.store.samples) ∧
      (¬ Spread i.store.samples → s.values.numbers = [] ∧ s.skipped = 0) := by
  have answered := instanceSeries_of_compute uncolumned computed
  simp only [instanceSeries, event] at answered
  obtain ⟨start, stop, bounds, counted, wide, narrow⟩ := eventSeries_tally intervals answered
  have all : q.samples i.store = i.store.samples := by
    rw [Query.samples, openStart]
  rw [all] at bounds counted wide
  obtain ⟨start', stop', bounds', spans⟩ := resolveBounds_open openStart openStop stored
  obtain ⟨⟨rfl⟩, ⟨rfl⟩⟩ := Prod.mk.inj (bounds.symm.trans bounds')
  rw [spans.lt_iff] at wide narrow
  refine ⟨⟨?lost, fun spread => ⟨_, counted, ?kept⟩⟩, narrow⟩
  case lost =>
    rintro ⟨counts, numbers, whole⟩
    by_contra alike
    obtain ⟨none_counted, none_skipped⟩ := narrow alike
    rw [none_counted, eq_comm, List.map_eq_nil_iff] at numbers
    rw [numbers, none_skipped, eq_comm] at whole
    exact stored (List.eq_nil_of_length_eq_zero whole)
  case kept =>
    rw [wide spread, spans.reached]
    exact List.countP_eq_length.mpr fun sample held => decide_eq_true (spans.within sample held).1

/-- Two events at one instant. -/
def twins : List Sample :=
  [⟨1, atSecond 0, .event []⟩, ⟨2, atSecond 0, .event []⟩]

/-- In windows of one second, neither of two events at one instant is counted or skipped. -/
theorem compute_not_accounts_twins :
    let d := Definition.ofSchema 0 ⟨"App", "Job", "Runs"⟩ .event
    let i : Instance := ⟨0, 0, "app~job~runs~", none, ⟨twins⟩⟩
    let q : Query := { granularity := .interval .second 1 }
    (∃ columns, d.body = .event columns) ∧ resolve d q.selector = .ok none ∧
    q.start = none ∧ q.stop = none ∧ i.store.samples ≠ [] ∧
    ∃ s : Series Float, compute {} q d i = .ok s ∧ ¬ s.Accounts i.store := by
  intro d i q
  have answer : ((compute {} q d i : Except Error (Series Float)).map fun s =>
      (s.values.numbers, s.skipped)).toOption = some ([], 0) := by decide +kernel
  obtain ⟨s, computed, seen⟩ := exists_of_seen answer
  obtain ⟨none_counted, none_skipped⟩ := Prod.mk.inj seen
  refine ⟨⟨_, rfl⟩, rfl, rfl, rfl, List.cons_ne_nil _ _, s, computed, ?_⟩
  rintro ⟨counts, numbers, whole⟩
  rw [none_counted, eq_comm, List.map_eq_nil_iff] at numbers
  rw [numbers, none_skipped] at whole
  cases whole

/-- The last of three events is late for the only window it could be counted in: two are counted,
and one is skipped. -/
theorem compute_accounts_iff_lateEvent :
    let d := Definition.ofSchema 0 ⟨"App", "Job", "Runs"⟩ .event
    let i : Instance := ⟨0, 0, "app~job~runs~", none,
      ⟨[⟨1, atSecond 0, .event []⟩, ⟨2, atSecond 6, .event []⟩, ⟨3, atSecond 2, .event []⟩]⟩⟩
    let q : Query := { granularity := .interval .second 5 }
    resolve d q.selector = .ok none ∧ i.store.samples ≠ [] ∧ Spread i.store.samples ∧
    ∃ s : Series Float, compute {} q d i = .ok s ∧ s.values.numbers = [1, 1] ∧ s.skipped = 1 ∧
      s.Accounts i.store := by
  intro d i q
  have stored : i.store.samples ≠ [] := List.cons_ne_nil _ _
  have spread : Spread i.store.samples := by
    unfold Spread
    decide +kernel
  have answer : ((compute {} q d i : Except Error (Series Float)).map fun s =>
      (s.values.numbers, s.skipped)).toOption = some ([1, 1], 1) := by decide +kernel
  obtain ⟨s, computed, seen⟩ := exists_of_seen answer
  obtain ⟨numbers, skipped⟩ := Prod.mk.inj seen
  have accounted := compute_accounts_iff (d := d) rfl rfl rfl rfl rfl stored computed
  exact ⟨rfl, stored, spread, s, computed, numbers, skipped, accounted.1.mpr spread⟩

end Metering.Series
