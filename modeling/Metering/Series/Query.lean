import Metering.Definition
import Metering.Series.CounterWindow
import Metering.Series.EventTrend
import Metering.Settings

/-!
Queries for a series: a granularity, bounds that may be left open, and the column to trend.

An open bound is taken from the samples, but never crosses the other bound. Computing a series
changes nothing. A query that trends a column does need the columns to be locked, and reads the
definition as if they were; whoever keeps the definition locks it if `trendsColumn` holds, also when
the query is refused later on.
-/

namespace Metering

open Metering.Time

/-- The answer to a query. -/
structure Series (ν : Type) where
  values : Series.ValueSet ν
  /-- The granularity after the floor was applied. -/
  granularity : Granularity
  /-- The bounds that were used; none if nothing bounds the series. -/
  range : Option (Timestamp × Timestamp)
  /-- Values that were taken as zero. -/
  coercionFailures : Nat
  /-- Samples in the range that came too late for their window. -/
  skipped : Nat

namespace Series

/-- Which column a query trends. -/
inductive Selector where
  /-- None: windows count their samples. -/
  | occurrences
  /-- The default column of the definition, if it has one. -/
  | default
  | named (name : String)
  | column (ref : ColumnRef)
deriving DecidableEq, Repr

structure Query where
  granularity : Granularity
  start : Option Timestamp := none
  stop : Option Timestamp := none
  selector : Selector := .occurrences
deriving DecidableEq, Repr

/-! ### Checks -/

/-- An interval has at least one unit. -/
def checkGranularity : Granularity → Except Error Unit
  | .interval unit 0 => .error (.range (.emptyInterval unit))
  | _ => .ok ()

def checkRange (start stop : Timestamp) : Except Error Unit :=
  if stop < start then .error (.range (.reversed start stop)) else .ok ()

/-- Bounds that are both given are in order. -/
def checkBounds (q : Query) : Except Error Unit :=
  match q.start, q.stop with
  | some start, some stop => checkRange start stop
  | _, _ => .ok ()

/-! ### The trended column -/

/-- The serial number of the column that the selector asks for. A counter has no columns to
ask for. -/
def resolve (d : Definition) (selector : Selector) : Except Error (Option Nat) :=
  match d.columns? with
  | some columns =>
    match selector with
    | .occurrences => .ok none
    | .default => .ok columns.default
    | .named name => (columns.get name).map fun found => some found.1
    | .column ref =>
      if columns.contains ref then .ok (some ref.serial) else .error (columns.unknown ref.name)
  | none =>
    match selector with
    | .occurrences | .default => .ok none
    | .named name => .error (.unknownColumn d.key.text name)
    | .column ref => .error (.unknownColumn d.key.text ref.name)

/-- The checks that need no sample, and the serial number of the column to trend. -/
def plan (q : Query) (d : Definition) : Except Error (Option Nat) :=
  match (checkGranularity q.granularity).bind fun () => checkBounds q with
  | .error e => .error e
  | .ok () => resolve d q.selector

/-- The query trends a column, for which the columns have to be locked. -/
def trendsColumn (q : Query) (d : Definition) : Bool :=
  match plan q d with
  | .ok (some _) => true
  | _ => false

/-- The column with the given serial number and its position in a locked set. -/
def targetOf (columns : ColumnSet) (serial : Nat) : Except Error TrendTarget :=
  match columns.columns[serial]? with
  | none => .error (columns.unknown (toString serial))
  | some column =>
    match column.index with
    | none => .error (columns.unknown column.name)
    | some index => .ok ⟨column, index⟩

/-! ### The bounds -/

/-- The bounds of a series: those given, and for an open one the least or greatest timestamp,
moved up to the other bound if it lies beyond it. Without any sample an open bound is the
other bound. -/
def resolveBounds (q : Query) (samples : List Sample) : Option Timestamp × Option Timestamp :=
  let stamps := samples.map (·.timestamp)
  let start := q.start
    <|> stamps.min?.map (fun low => q.stop.elim low (min low))
    <|> q.stop
  let stop := q.stop
    <|> stamps.max?.map (fun high => start.elim high (max high))
    <|> start
  (start, stop)

/-! ### The series -/

variable {ν : Type} [Arithmetic ν]

/-- The series of the samples under an evaluator. -/
def scan {σ : Type} (ev : Evaluator σ ν) (initial : σ) (settings : AggregationSettings) (q : Query)
    (samples : List Sample) (failures : σ → Nat) : Except Error (Series ν) :=
  let granularity := q.granularity.withFloor settings.floor
  let p : Progress σ ν := ⟨initial, .empty settings.percentile, 0⟩
  match resolveBounds q samples with
  | (some start, some stop) =>
    match checkRange start stop with
    | .error e => .error e
    | .ok () =>
      let scanned :=
        if granularity.isShortest then scanSamples ev start stop samples p
        else scanIntervals ev granularity start start stop samples p
      match scanned with
      | .error e => .error e
      | .ok p => .ok ⟨p.values, granularity, some (start, stop), failures p.state, p.skipped⟩
  | _ =>
    if granularity.isShortest then .ok ⟨p.values, granularity, none, 0, 0⟩
    else .error (.range .unbounded)

/-- The series of event samples. With a given start the leading run of samples before it is
cut off; it has no part in any window. -/
def eventSeries (settings : AggregationSettings) (q : Query) (target : Option TrendTarget)
    (store : Store) : Except Error (Series ν) :=
  let samples := match q.start with
    | some start => store.samplesFrom start
    | none => store.samples
  scan (trendEvaluator target settings.coercion) .initial settings q samples (·.failures)

/-- The series of counter readings. Readings before the start are kept, as totals start from
them. -/
def counterSeries (settings : AggregationSettings) (q : Query) (type : SamplingType)
    (store : Store) : Except Error (Series ν) :=
  scan (counterEvaluator type) .initial settings q store.samples fun _ => 0

/-- The series of an instance, with the column that was resolved for it. -/
def instanceSeries (settings : AggregationSettings) (q : Query) (d : Definition)
    (trended : Option Nat) (i : Instance) : Except Error (Series ν) :=
  match d.body, trended with
  | .counterSampled type, _ => counterSeries settings q type i.store
  | .event _, none => eventSeries settings q none i.store
  | .event columns, some serial =>
    match targetOf columns.lock serial with
    | .error e => .error e
    | .ok target => eventSeries settings q (some target) i.store

/-- Computes the series of an instance. -/
def compute (settings : AggregationSettings) (q : Query) (d : Definition) (i : Instance) :
    Except Error (Series ν) :=
  match plan q d with
  | .error e => .error e
  | .ok trended => instanceSeries settings q d trended i

end Series

end Metering
