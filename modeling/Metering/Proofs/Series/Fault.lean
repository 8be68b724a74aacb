import Metering.Proofs.ColumnHistory
import Metering.Proofs.Series.Advance
import Metering.Proofs.Series.RunningTrend

/-!
When a query is refused, and why.

`fault?` gives the reason without computing anything, from the query, the listed columns and the
assignment of samples to windows. Of several reasons the first one counts, in this order: an interval
of zero units, bounds that are reversed, a column that is not listed, no bound at all, and what the
scan meets first of a value that cannot be trended and a window that would end past the last instant.
`refusal_compute` says that a query is refused just for these reasons.
-/

namespace Metering

open Metering.Time

/-- Why something was refused. -/
def refusal? {α : Type} : Except Error α → Option Error
  | .error e => some e
  | .ok _ => none

theorem refusal?_eq_some_iff {α : Type} {answer : Except Error α} {e : Error} :
    refusal? answer = some e ↔ answer = .error e := by
  cases answer with
  | error e' => simp [refusal?]
  | ok a => simp [refusal?]

theorem refusal?_map {α β : Type} (see : α → β) (answer : Except Error α) :
    refusal? (answer.map see) = refusal? answer := by
  cases answer with
  | error e => rfl
  | ok a => rfl

namespace Series

/-! ### The reasons -/

/-- An interval has no units. -/
def emptyInterval? : Granularity → Option Error
  | .interval unit 0 => some (.range (.emptyInterval unit))
  | _ => none

/-- Both bounds are given, the wrong way round. -/
def reversed? (q : Query) : Option Error :=
  match q.start, q.stop with
  | some start, some stop => if stop < start then some (.range (.reversed start stop)) else none
  | _, _ => none

/-- The serial number of the listed column that the selector asks for: by its name without regard to
case, or as the very column that is referred to. -/
def selected? (columns : ColumnSet) : Selector → Option Nat
  | .occurrences => none
  | .default => columns.default
  | .named name => columns.order.find? fun serial =>
      columns.foldedName? serial == some (Text.fold name)
  | .column ref =>
    if ref.definition = columns.definition then
      columns.order.find? fun serial =>
        serial == ref.serial && columns.foldedName? serial == some (Text.fold ref.name)
    else none

/-- The selector asks for a column by name or by reference, and none is listed that it could mean. A
counter has none to list. -/
def unknownColumn? (d : Definition) (selector : Selector) : Option Error :=
  match selector with
  | .occurrences | .default => none
  | .named name =>
    if (d.columns?.bind (selected? · selector)).isSome then none
    else some (.unknownColumn d.key.text name)
  | .column ref =>
    if (d.columns?.bind (selected? · selector)).isSome then none
    else some (.unknownColumn d.key.text ref.name)

/-- Nothing bounds a series of windows. -/
def unbounded? (q : Query) (samples : List Sample) : Option Error :=
  if q.granularity.isShortest = false ∧ q.start = none ∧ q.stop = none ∧ samples = [] then
    some (.range .unbounded)
  else none

/-- The column that is trended, with its place among the listed ones. -/
def trended? (d : Definition) (selector : Selector) : Option TrendTarget := do
  let columns ← d.columns?
  let serial ← selected? columns selector
  let column ← columns.columns[serial]?
  let index ← columns.order.idxOf? serial
  some ⟨column, index⟩

/-- The sample has a value that is to be trended, but is no number, and the policy is to fail. -/
def unconvertible? (policy : CoercionPolicy) (target : Option TrendTarget) (sample : Sample) :
    Option Error :=
  match policy, target with
  | .fail, some t =>
    if t.isCounted then none
    else (sample.value? t.index).bind fun value =>
      if value.number?.isNone then some (.coercion t.column.name value.written) else none
  | _, _ => none

/-- The samples that become part of a value, in the order of the scan. -/
def evaluated (g : Granularity) (start stop : Timestamp) (samples : List Sample) : List Sample :=
  if g.isShortest then Window.members ⟨start, stop⟩ (reached stop samples)
  else perWindow Window.members (tile g start stop).windows samples

/-- A window of the range would end past the last instant. -/
def overflow? (g : Granularity) (start stop : Timestamp) : Option Error :=
  if g.isShortest then none
  else (tile g start stop).overflow.map fun unended => .range (.overflow g unended)

/-- What a scan of the samples meets first. All windows that have an end come before one that
has none. -/
def scanFault? (settings : AggregationSettings) (q : Query) (target : Option TrendTarget)
    (samples : List Sample) : Option Error :=
  let g := q.granularity.withFloor settings.floor
  match resolveBounds q samples with
  | (some start, some stop) =>
    ((evaluated g start stop samples).findSome? (unconvertible? settings.coercion target)).or
      (overflow? g start stop)
  | _ => none

/-- The samples of an instance that a query looks at. -/
def consulted (q : Query) (d : Definition) (i : Instance) : List Sample :=
  match d.body with
  | .event _ => q.samples i.store
  | .counterSampled _ => i.store.samples

/-- Why a query is refused; of several reasons the first one counts. -/
def fault? (settings : AggregationSettings) (q : Query) (d : Definition) (i : Instance) :
    Option Error :=
  (emptyInterval? q.granularity).or <| (reversed? q).or <| (unknownColumn? d q.selector).or <|
    (unbounded? q i.store.samples).or <| scanFault? settings q (trended? d q.selector) (consulted q d i)

/-! ### Windows up to the first one without an end -/

theorem Tiles.start_le {start stop : Timestamp} {windows : List Window}
    (tiles : Tiles stop start windows) : start ≤ stop := by
  cases tiles with
  | done => exact Std.le_refl _
  | window later bounded _ => exact Std.le_trans (Std.le_of_lt later) bounded

/-- The windows that are cut lead to the end of the range, or to the start of the first window that
has no end. -/
theorem tiles_tile_upTo {g : Granularity} {start stop : Timestamp} (ordered : start ≤ stop) :
    Tiles ((tile g start stop).overflow.getD stop) start (tile g start stop).windows := by
  fun_induction tile g start stop with
  | case1 => exact .done
  | case2 start before next _ later rest ih =>
      have bounded : min next stop ≤ stop := by
        simp only [Timestamp.le_def, Timestamp.nanos_min]
        omega
      have onward : start < min next stop := by
        simp only [Timestamp.lt_def, Timestamp.nanos_min] at *
        omega
      exact .window onward (ih bounded).start_le (ih bounded)
  | case3 => exact .done
  | case4 start after =>
      obtain rfl : start = stop := by grind
      exact .done

/-- A window that has no end starts within the range, and would end past the last instant. -/
theorem lt_endNanos_of_overflow {unit : IntervalUnit} {count : Nat} {start stop w : Timestamp}
    (positive : 0 < count) (overflow : (tile (.interval unit count) start stop).overflow = some w) :
    start ≤ w ∧ w < stop ∧ Timestamp.latest.nanos < Granularity.endNanos unit count w := by
  fun_induction tile (.interval unit count) start stop with
  | case1 start before missing =>
      obtain rfl := Option.some.inj overflow
      exact ⟨Std.le_refl _, before, (Granularity.advance?_eq_none_iff positive).mp missing⟩
  | case2 start before next _ later rest ih =>
      obtain ⟨first, inside, past⟩ := ih overflow
      have onward : start < min next stop := by
        simp only [Timestamp.lt_def, Timestamp.nanos_min] at *
        omega
      exact ⟨Std.le_trans (Std.le_of_lt onward) first, inside, past⟩
  | case3 start before next ends same =>
      exact absurd (Granularity.lt_of_advance? positive ends) same
  | case4 => cases overflow

/-! ### What a scan meets first -/

section Scan

variable {σ ν : Type} [Arithmetic ν] {ev : Evaluator σ ν} {fault : Sample → Option Error}
  {start current stop : Timestamp} {windows : List Window}

/-- If the first sample at fault in a window decides, the first one of all windows decides. -/
theorem refusal_scanWindows
    (fails : ∀ state samples, refusal? (ev.evaluate state samples) = samples.findSome? fault)
    (tiles : Tiles stop current windows) (samples : List Sample) (p : Progress σ ν) :
    refusal? (scanWindows ev start windows samples p) =
      (perWindow Window.members windows samples).findSome? fault := by
  induction tiles generalizing samples p with
  | done => rfl
  | @window current next windows later bounded rest ih =>
      have here := fails
        ((Window.stragglers ⟨current, next⟩ (reached next samples)).foldl ev.observe p.state)
        (Window.members ⟨current, next⟩ (reached next samples))
      rw [perWindow_cons _ (Tiles.window later bounded rest), List.findSome?_append, ← here,
        scanWindows, scanWindow, take_eq]
      simp only
      cases ev.evaluate
          ((Window.stragglers ⟨current, next⟩ (reached next samples)).foldl ev.observe p.state)
          (Window.members ⟨current, next⟩ (reached next samples)) with
      | error e => rfl
      | ok answer => exact ih (unreached next samples) _

theorem refusal_scanIntervals {g : Granularity} (coarse : g.isShortest = false)
    (fails : ∀ state samples, refusal? (ev.evaluate state samples) = samples.findSome? fault)
    (ordered : start ≤ stop) (samples : List Sample) (p : Progress σ ν) :
    refusal? (scanIntervals ev g start start stop samples p) =
      ((evaluated g start stop samples).findSome? fault).or (overflow? g start stop) := by
  have scanned := @refusal_scanWindows _ _ _ _ _ start _ _ _ fails
    (tiles_tile_upTo (g := g) ordered) samples p
  rw [scanIntervals_eq, evaluated, overflow?, if_neg (Bool.eq_false_iff.mp coarse),
    if_neg (Bool.eq_false_iff.mp coarse), ← scanned]
  cases scanWindows ev start (tile g start stop).windows samples p with
  | error e => rfl
  | ok final =>
      cases overflow : (tile g start stop).overflow with
      | none => simp [Except.bind, refusal?]
      | some unended => simp [Except.bind, refusal?]

theorem refusal_scanSamples
    (fails : ∀ state samples, refusal? (ev.evaluate state samples) = samples.findSome? fault)
    (ordered : start ≤ stop) (samples : List Sample) (p : Progress σ ν) :
    refusal? (scanSamples ev start stop samples p) =
      (Window.members ⟨start, stop⟩ (reached stop samples)).findSome? fault := by
  induction samples generalizing p with
  | nil => rfl
  | cons sample rest ih =>
      rw [scanSamples]
      by_cases early : sample.timestamp < start
      · have upTo := Std.le_trans (Std.le_of_lt early) ordered
        rw [if_pos early, reached_cons_of_le upTo, Window.members_cons_of_lt early]
        exact ih _
      · rw [if_neg early]
        by_cases past : stop < sample.timestamp
        · rw [if_pos past, reached_cons_of_lt past]
          rfl
        · have here := fails p.state [sample]
          rw [if_neg past, reached_cons_of_le (Std.not_lt.mp past),
            Window.members_cons_of_le (Std.not_lt.mp early), List.findSome?_cons]
          rw [List.findSome?_singleton] at here
          rw [← here]
          cases ev.evaluate p.state [sample] with
          | error e => rfl
          | ok answer => exact ih _

/-- The scan of a range meets the first sample at fault, or else the window that has no end. -/
theorem refusal_scanRange
    (fails : ∀ state samples, refusal? (ev.evaluate state samples) = samples.findSome? fault)
    (ordered : start ≤ stop) (g : Granularity) (samples : List Sample) (p : Progress σ ν) :
    refusal? (scanRange ev g start stop samples p) =
      ((evaluated g start stop samples).findSome? fault).or (overflow? g start stop) := by
  unfold scanRange
  cases coarse : g.isShortest with
  | true =>
      rw [if_pos rfl, evaluated, overflow?, if_pos coarse, if_pos coarse, Option.or_none]
      exact refusal_scanSamples fails ordered samples p
  | false =>
      rw [if_neg Bool.false_ne_true]
      exact refusal_scanIntervals coarse fails ordered samples p

end Scan

section Evaluators

variable {ν : Type} [Arithmetic ν]

theorem refusal_contribution (t : TrendTarget) (policy : CoercionPolicy) (sample : Sample)
    (trends : t.isCounted = false) :
    refusal? (contribution t policy sample : Except Error (ν × Bool)) =
      unconvertible? policy (some t) sample := by
  unfold contribution unconvertible?
  cases present : sample.value? t.index with
  | none => cases policy <;> simp [refusal?, present]
  | some value =>
      cases number : value.number? with
      | none => cases policy <;> simp [refusal?, present, trends, number]
      | some x => cases policy <;> simp [refusal?, present, number]

theorem refusal_accumulate {t : TrendTarget} (policy : CoercionPolicy) (trends : t.isCounted = false)
    (samples : List Sample) (acc : RunningSum ν) (failures : Nat) :
    refusal? (accumulate t policy samples acc failures) =
      samples.findSome? (unconvertible? policy (some t)) := by
  induction samples generalizing acc failures with
  | nil => rfl
  | cons sample rest ih =>
      have here : refusal? (contribution t policy sample : Except Error (ν × Bool)) = _ :=
        refusal_contribution t policy sample trends
      rw [accumulate, List.findSome?_cons, ← here]
      cases (contribution t policy sample : Except Error (ν × Bool)) with
      | error e => rfl
      | ok answer => exact ih _ _

theorem unconvertible?_none (policy : CoercionPolicy) (sample : Sample) :
    unconvertible? policy none sample = none := by
  cases policy with
  | substituteZero => rfl
  | fail => rfl

theorem unconvertible?_counted {t : TrendTarget} (counted : t.isCounted = true)
    (policy : CoercionPolicy) (sample : Sample) :
    unconvertible? policy (some t) sample = none := by
  cases policy with
  | substituteZero => rfl
  | fail => exact if_pos counted

/-- The position that a column got when its set was locked does not matter. -/
theorem unconvertible?_position (policy : CoercionPolicy) (column : Column) (position : Option Nat)
    (index : Nat) :
    unconvertible? policy (some ⟨{ column with index := position }, index⟩) =
      unconvertible? policy (some ⟨column, index⟩) := by
  funext sample
  cases policy with
  | substituteZero => rfl
  | fail => rfl

/-- A window of events is refused for the first of its samples that cannot be trended. -/
theorem refusal_trendWindow (target : Option TrendTarget) (policy : CoercionPolicy)
    (state : TrendState ν) (samples : List Sample) :
    refusal? (trendWindow target policy state samples) =
      samples.findSome? (unconvertible? policy target) := by
  unfold trendWindow
  cases target with
  | none =>
      rw [List.findSome?_eq_none_iff.mpr fun sample _ => unconvertible?_none policy sample]
      rfl
  | some t =>
      cases counted : t.isCounted with
      | true =>
          rw [List.findSome?_eq_none_iff.mpr fun sample _ =>
            unconvertible?_counted counted policy sample]
          simp [counted, refusal?]
      | false =>
          rw [← refusal_accumulate policy counted samples
            (if t.column.trend.isRunning then state.carried else .zero) state.failures]
          simp only [counted, Bool.false_eq_true, if_false]
          cases accumulate t policy samples
              (if t.column.trend.isRunning then state.carried else .zero) state.failures with
          | error e => rfl
          | ok answer => rfl

end Evaluators

/-! ### The bounds -/

/-- Bounds that pass the first check pass the second one too: an open bound never crosses the one
that is given. Without any bound there is no sample. -/
theorem resolveBounds_cases {q : Query} (checked : checkBounds q = .ok ()) (samples : List Sample) :
    (∃ start stop, resolveBounds q samples = (some start, some stop) ∧ start ≤ stop) ∨
      (resolveBounds q samples = (none, none) ∧ q.start = none ∧ q.stop = none ∧ samples = []) := by
  unfold resolveBounds
  cases given : q.start with
  | some start =>
      cases given' : q.stop with
      | some stop =>
          refine .inl ⟨start, stop, by simp, ?_⟩
          by_cases reversed : stop < start
          · simp [checkBounds, given, given', checkRange, reversed] at checked
          · exact Std.not_lt.mp reversed
      | none =>
          cases highest : (samples.map (·.timestamp)).max? with
          | none => exact .inl ⟨start, start, by simp [highest], Std.le_refl _⟩
          | some high => exact .inl ⟨start, max high start, by simp [highest], Std.right_le_max⟩
  | none =>
      cases given' : q.stop with
      | some stop =>
          cases lowest : (samples.map (·.timestamp)).min? with
          | none => exact .inl ⟨stop, stop, by simp [lowest], Std.le_refl _⟩
          | some low => exact .inl ⟨min low stop, stop, by simp [lowest], Std.min_le_right⟩
      | none =>
          cases samples with
          | nil => exact .inr ⟨rfl, rfl, rfl, rfl⟩
          | cons sample rest =>
              obtain ⟨low, lowest⟩ := Option.isSome_iff_exists.mp
                (List.isSome_min?_of_ne_nil (List.cons_ne_nil sample.timestamp
                  (rest.map (·.timestamp))))
              obtain ⟨high, highest⟩ := Option.isSome_iff_exists.mp
                (List.isSome_max?_of_ne_nil (List.cons_ne_nil sample.timestamp
                  (rest.map (·.timestamp))))
              refine .inl ⟨low, max high low, ?_, Std.right_le_max⟩
              simp [lowest, highest]

theorem isShortest_eq (floor : Duration) (g : Granularity) :
    (g.withFloor floor).isShortest = g.isShortest := by
  cases g with
  | shortest => rfl
  | interval unit count => exact isShortest_withFloor floor unit count

/-- The floor leaves no interval without units. -/
theorem pos_of_withFloor {g : Granularity} {floor : Duration} {unit : IntervalUnit} {count : Nat}
    (nonempty : emptyInterval? g = none) (floored : g.withFloor floor = .interval unit count) :
    0 < count := by
  cases g with
  | shortest => cases floored
  | interval unit' count' =>
      have given : 0 < count' := by
        cases count' with
        | zero => cases nonempty
        | succ n => exact Nat.succ_pos n
      cases unit' with
      | millisecond =>
          cases floored
          exact Nat.lt_of_lt_of_le given (Nat.le_max_left _ _)
      | _ =>
          cases floored
          exact given

theorem refusal_scan {σ ν : Type} [Arithmetic ν] {ev : Evaluator σ ν} {initial : σ}
    {settings : AggregationSettings} {q : Query} {target : Option TrendTarget}
    (checked : checkBounds q = .ok ())
    (fails : ∀ state samples, refusal? (ev.evaluate state samples) =
      samples.findSome? (unconvertible? settings.coercion target))
    (samples : List Sample) (failures : σ → Nat) :
    refusal? (scan ev initial settings q samples failures) =
      (unbounded? q samples).or (scanFault? settings q target samples) := by
  rcases resolveBounds_cases checked samples with ⟨start, stop, bounds, ordered⟩ | ⟨bounds, free⟩
  · have bounded : unbounded? q samples = none := by
      refine if_neg ?_
      rintro ⟨-, no_start, no_stop, rfl⟩
      simp [resolveBounds, no_start, no_stop] at bounds
    rw [bounded, Option.none_or, scan_of_bounds ordered bounds, refusal?_map,
      refusal_scanRange fails ordered, scanFault?, bounds]
  · have unbounded : unbounded? q samples =
        if q.granularity.isShortest then none else some (.range .unbounded) := by
      cases coarse : q.granularity.isShortest <;> simp [unbounded?, coarse, free]
    rw [unbounded, scan, scanFault?]
    simp only [bounds, isShortest_eq, Option.or_none]
    cases q.granularity.isShortest with
    | true => rfl
    | false => rfl

/-! ### The column -/

/-- A search for what one number at most can be. -/
theorem find?_eq_of_unique {p : Nat → Bool} {serials : List Nat} {answer : Option Nat}
    (unique : ∀ serial, answer = some serial ↔ serial ∈ serials ∧ p serial = true) :
    serials.find? p = answer := by
  cases answer with
  | none =>
      refine List.find?_eq_none.mpr fun serial listed holds => ?_
      cases (unique serial).mpr ⟨listed, holds⟩
  | some serial =>
      obtain ⟨listed, holds⟩ := (unique serial).mp rfl
      have some_found : (serials.find? p).isSome := List.find?_isSome.mpr ⟨serial, listed, holds⟩
      obtain ⟨other, found⟩ := Option.isSome_iff_exists.mp some_found
      rw [found]
      exact ((unique other).mpr
        ⟨List.mem_of_find?_eq_some found, List.find?_some found⟩).symm

section Columns

variable {columns : ColumnSet} {d : Definition} {serial : Nat}

theorem selected?_named (consistent : columns.Consistent) (name : String) :
    selected? columns (.named name) = columns.serialOf? name := by
  refine find?_eq_of_unique fun serial => ?_
  rw [ColumnSet.serialOf?, consistent.named, beq_iff_eq]

theorem selected?_column (consistent : columns.Consistent) (ref : ColumnRef) :
    selected? columns (.column ref) = if columns.contains ref then some ref.serial else none := by
  simp only [selected?, ColumnSet.contains]
  by_cases own : ref.definition = columns.definition
  · rw [if_pos own]
    refine find?_eq_of_unique fun serial => ?_
    have named : columns.serialOf? ref.name = some ref.serial ↔ _ := consistent.named
    simp only [own, beq_self_eq_true, Bool.true_and, Bool.and_eq_true, beq_iff_eq, named,
      Option.ite_none_right_eq_some, Option.some.injEq]
    constructor
    · rintro ⟨⟨listed, name⟩, rfl⟩
      exact ⟨listed, rfl, name⟩
    · rintro ⟨listed, rfl, name⟩
      exact ⟨⟨listed, name⟩, rfl⟩
  · simp [own]

/-- The selector leads to the listed column it means, or is refused for a column that is unknown. -/
theorem resolve_eq (consistent : ∀ s, d.columns? = some s → s.Consistent)
    (owned : ∀ s, d.columns? = some s → s.owner = d.key.text) (selector : Selector) :
    resolve d selector = (unknownColumn? d selector).elim
      (.ok (d.columns?.bind (selected? · selector))) .error := by
  unfold resolve unknownColumn?
  cases event : d.columns? with
  | none => cases selector <;> rfl
  | some columns =>
      have consistent := consistent columns event
      cases selector with
      | occurrences => rfl
      | default => rfl
      | named name =>
          simp only [Option.bind_some, selected?_named consistent]
          cases named : columns.serialOf? name with
          | none =>
              simp [ColumnSet.get, named, Except.map, ColumnSet.unknown, owned columns event]
          | some serial =>
              obtain ⟨listed, -⟩ := consistent.named.mp named
              have held := consistent.known serial listed
              simp [ColumnSet.get, named, Except.map, held]
      | column ref =>
          simp only [Option.bind_some, selected?_column consistent]
          cases columns.contains ref with
          | true => simp
          | false => simp [ColumnSet.unknown, owned columns event]

theorem selected?_mem (consistent : columns.Consistent) {selector : Selector}
    (found : selected? columns selector = some serial) : serial ∈ columns.order := by
  cases selector with
  | occurrences => cases found
  | default => exact consistent.default found
  | named name => exact List.mem_of_find?_eq_some found
  | column ref =>
      simp only [selected?] at found
      split at found
      · exact List.mem_of_find?_eq_some found
      · cases found

/-- Once the columns are locked, every listed one can be trended. -/
theorem targetOf_lock_eq_ok (consistent : columns.Consistent) (listed : serial ∈ columns.order) :
    ∃ column index, columns.columns[serial]? = some column ∧
      columns.order.idxOf? serial = some index ∧
      targetOf columns.lock serial = .ok ⟨{ column with index := some index }, index⟩ := by
  obtain ⟨column, held⟩ : ∃ column, columns.columns[serial]? = some column :=
    ⟨_, Array.getElem?_eq_getElem (consistent.known serial listed)⟩
  obtain ⟨index, place⟩ : ∃ index, columns.order.idxOf? serial = some index :=
    Option.isSome_iff_exists.mp (List.isSome_idxOf?.mpr listed)
  refine ⟨column, index, held, place, ?_⟩
  rw [targetOf, ColumnSet.getElem?_columns_lock, held, place]
  rfl

end Columns

/-! ### Queries -/

section Compute

variable {ν : Type} [Arithmetic ν] {settings : AggregationSettings} {q : Query} {d : Definition}
  {i : Instance} {columns : ColumnSet}

theorem refusal_checkGranularity (g : Granularity) :
    refusal? (checkGranularity g) = emptyInterval? g := by
  cases g with
  | shortest => rfl
  | interval unit count =>
      cases count with
      | zero => rfl
      | succ n => rfl

theorem refusal_checkBounds (q : Query) : refusal? (checkBounds q) = reversed? q := by
  unfold checkBounds reversed?
  cases q.start with
  | none => rfl
  | some start =>
      cases q.stop with
      | none => rfl
      | some stop =>
          simp only [checkRange]
          split
          · rfl
          · rfl

/-- A start that is open cuts nothing off. -/
theorem unbounded?_samples (q : Query) (store : Store) :
    unbounded? q (q.samples store) = unbounded? q store.samples := by
  unfold unbounded? Query.samples
  cases q.start with
  | none => rfl
  | some start => simp

theorem refusal_eventSeries (checked : checkBounds q = .ok ()) (target : Option TrendTarget)
    (store : Store) :
    refusal? (eventSeries settings q target store : Except Error (Series ν)) =
      (unbounded? q store.samples).or (scanFault? settings q target (q.samples store)) := by
  rw [← unbounded?_samples]
  exact refusal_scan checked (refusal_trendWindow target settings.coercion) (q.samples store) _

theorem refusal_counterSeries (checked : checkBounds q = .ok ()) (type : SamplingType)
    (store : Store) :
    refusal? (counterSeries settings q type store : Except Error (Series ν)) =
      (unbounded? q store.samples).or (scanFault? settings q none store.samples) := by
  refine refusal_scan checked (fun state samples => ?_) store.samples _
  rw [List.findSome?_eq_none_iff.mpr fun sample _ => unconvertible?_none settings.coercion sample]
  rfl

/-- The column that is trended is found, so that it is the scan alone that can fail. -/
theorem refusal_instanceSeries (consistent : ∀ s, d.columns? = some s → s.Consistent)
    (checked : checkBounds q = .ok ()) (i : Instance) :
    refusal? (instanceSeries settings q d (d.columns?.bind (selected? · q.selector)) i :
        Except Error (Series ν)) =
      (unbounded? q i.store.samples).or
        (scanFault? settings q (trended? d q.selector) (consulted q d i)) := by
  unfold instanceSeries trended? consulted
  cases body : d.body with
  | counterSampled type =>
      have counter : d.columns? = none := by rw [Definition.columns?, body]
      simp only [counter, Option.bind_none, Option.bind_eq_bind]
      exact refusal_counterSeries checked type i.store
  | event columns =>
      have event := Definition.columns?_eq_some_iff.mpr body
      rw [event]
      simp only [Option.bind_some, Option.bind_eq_bind]
      cases selected : selected? columns q.selector with
      | none => exact refusal_eventSeries checked none i.store
      | some serial =>
          have consistent := consistent columns event
          obtain ⟨column, index, held, place, found⟩ :=
            targetOf_lock_eq_ok consistent (selected?_mem consistent selected)
          simp only [found, Option.bind_some, held, place]
          refine (refusal_eventSeries checked _ i.store).trans ?_
          rw [scanFault?, unconvertible?_position]
          rfl

/-- A query is refused for the first of its faults. -/
theorem refusal_compute (consistent : ∀ s, d.columns? = some s → s.Consistent)
    (owned : ∀ s, d.columns? = some s → s.owner = d.key.text) (settings : AggregationSettings)
    (q : Query) (i : Instance) :
    refusal? (compute settings q d i : Except Error (Series ν)) = fault? settings q d i := by
  unfold compute plan fault?
  rw [← refusal_checkGranularity, ← refusal_checkBounds]
  cases checkGranularity q.granularity with
  | error e => rfl
  | ok _ =>
      cases checked : checkBounds q with
      | error e => simp [Except.bind, refusal?]
      | ok _ =>
          simp only [Except.bind, refusal?, Option.none_or, resolve_eq consistent owned]
          cases unknownColumn? d q.selector with
          | some e => rfl
          | none => exact refusal_instanceSeries consistent checked i

end Compute

end Series

namespace Session

open Series

variable {s : Session} {settings : Settings} {lastSequence : Nat} {r : InstanceRef} {d : Definition}
  {i : Instance}

/-- **When a query is refused.** After any run a query of any instance is refused just for the first
of its faults. What is refused as an overflow is a window of the range that would end past the last
instant. The check of the bounds that were resolved never refuses, and neither does the look-up of
the position of the column. -/
theorem run_compute_error_iff {ν : Type} [Arithmetic ν]
    (created : create settings lastSequence = .ok s) (operations : List Operation)
    (found : (s.run operations).telemetry.instance? r = some (d, i))
    (aggregation : AggregationSettings) (q : Query) :
    (∀ e, (compute aggregation q d i : Except Error (Series ν)) = .error e ↔
      fault? aggregation q d i = some e) ∧
    (∀ {unit : IntervalUnit} {count : Nat} {start stop unended : Timestamp},
      emptyInterval? q.granularity = none →
      q.granularity.withFloor aggregation.floor = .interval unit count →
      (tile (.interval unit count) start stop).overflow = some unended →
      start ≤ unended ∧ unended < stop ∧
        Timestamp.latest.nanos < Granularity.endNanos unit count unended) ∧
    (∀ {samples : List Sample} {start stop : Timestamp}, checkBounds q = .ok () →
      resolveBounds q samples = (some start, some stop) → checkRange start stop = .ok ()) ∧
    ∀ {columns : ColumnSet} {serial : Nat}, d.body = .event columns →
      resolve d q.selector = .ok (some serial) →
      ∃ target, targetOf columns.lock serial = .ok target := by
  obtain ⟨defined, -⟩ := Telemetry.instance?_eq_some_iff.mp found
  have sound := run_sound (sound_create created) operations
  have consistent : ∀ columns, d.columns? = some columns → columns.Consistent :=
    fun _ event => sound.columns defined event
  have owned : ∀ columns, d.columns? = some columns → columns.owner = d.key.text :=
    fun columns event => run_owned created operations _ d columns defined event
  refine ⟨fun e => ?_, ?_, ?_, ?_⟩
  · rw [← @refusal_compute ν _ d consistent owned]
    cases (compute aggregation q d i : Except Error (Series ν)) with
    | error e' => simp [refusal?]
    | ok series => simp [refusal?]
  · intro unit count start stop unended nonempty floored overflow
    exact lt_endNanos_of_overflow (pos_of_withFloor nonempty floored) overflow
  · intro samples start stop checked bounds
    rcases resolveBounds_cases checked samples with ⟨_, _, bounds', ordered⟩ | ⟨nothing, -⟩
    · obtain ⟨rfl, rfl⟩ : _ ∧ _ := by simpa [bounds] using bounds'
      exact if_neg (Std.not_lt.mpr ordered)
    · simp [bounds] at nothing
  · intro columns serial event resolved
    have event := Definition.columns?_eq_some_iff.mpr event
    have listed := (consistent columns event).mem_of_resolve event resolved
    obtain ⟨column, index, -, -, target⟩ := targetOf_lock_eq_ok (consistent columns event) listed
    exact ⟨_, target⟩

/-- A latency that is a text, in the second of two windows of five seconds. -/
def unreadableLatency : List Operation :=
  [.define .event ⟨"web", "http", "requests"⟩,
   .addColumn 0 "Latency" .text { trendable := some true, trend := some .sum },
   .openInstance 0 none,
   .writeSample ⟨0, 0⟩ [some (.text "n/a")] (Series.atSecond 7)]

/-- The text is refused where it is asked for, and where it is not a window of a month that starts
with the last instant but one is. -/
theorem run_compute_error_iff_unreadableLatency :
    let s : Session := ⟨{}, []⟩
    let failing : AggregationSettings := { coercion := .fail }
    let q : Query := ⟨.interval .second 5, some ⟨0, by decide⟩, some ⟨10000000000, by decide⟩,
      .named "LATENCY"⟩
    let unended : Timestamp := ⟨8210266876799999999998, by decide⟩
    let q' : Query := ⟨.interval .month 1, some unended, some .latest, .occurrences⟩
    create {} 0 = .ok s ∧
    ∃ d i, (s.run unreadableLatency).telemetry.instance? ⟨0, 0⟩ = some (d, i) ∧
      (compute failing q d i : Except Error (Series Float)) = .error (.coercion "Latency" "n/a") ∧
      (compute failing q' d i : Except Error (Series Float)) =
        .error (.range (.overflow q'.granularity unended)) ∧
      Timestamp.latest.nanos < Granularity.endNanos .month 1 unended := by
  intro s failing q unended q'
  have created : create {} 0 = .ok s := rfl
  have faults : ((s.run unreadableLatency).telemetry.instance? ⟨0, 0⟩).map (fun found =>
      (fault? failing q found.1 found.2, fault? failing q' found.1 found.2)) =
        some (some (.coercion "Latency" "n/a"),
          some (.range (.overflow q'.granularity unended))) := by decide +kernel
  obtain ⟨⟨d, i⟩, found, answers⟩ := Option.map_eq_some_iff.mp faults
  obtain ⟨unreadable, past⟩ := Prod.mk.inj answers
  obtain ⟨refused, -⟩ :=
    @run_compute_error_iff _ _ _ _ _ _ Float _ created unreadableLatency found failing q
  obtain ⟨refused', overflows, -⟩ :=
    @run_compute_error_iff _ _ _ _ _ _ Float _ created unreadableLatency found failing q'
  obtain ⟨-, -, lies_past⟩ := @overflows .month 1 unended .latest unended rfl rfl (by decide +kernel)
  exact ⟨created, d, i, found, (refused _).mpr unreadable, (refused' _).mpr past, lies_past⟩

end Session

end Metering
