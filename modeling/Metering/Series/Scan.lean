import Metering.Granularity
import Metering.Sample
import Metering.Series.ValueSet

/-!
The forward scan that turns samples into a series.

A range is cut into windows, each starting where the one before it ends. The scan goes once through
the samples in sequence order: a window takes the samples stamped within its bounds, both included,
until a sample stamped after its end is met, which is left for a later window. A sample stamped
before the window that has been reached is skipped; the evaluator still gets to see it.

`tile` gives all windows of a range at once, and `scanWindows` the values of given windows.
`scanIntervals` cuts a window only when the scan has come to it; `scanIntervals_eq` says that this
is the same.
-/

namespace Metering.Series

open Metering.Time

/-- How the samples of a window become a value. The state is carried from window to window. -/
structure Evaluator (σ ν : Type) where
  /-- Notes a sample that belongs to no window. -/
  observe : σ → Sample → σ
  /-- The value of a window. -/
  evaluate : σ → List Sample → Except Error (ν × σ)

/-- What a scan has come to. -/
structure Progress (σ ν : Type) where
  state : σ
  values : ValueSet ν
  /-- Samples in the range that belong to no window. -/
  skipped : Nat

/-! ### Windows -/

structure Window where
  start : Timestamp
  stop : Timestamp
deriving DecidableEq, Repr

/-- The windows of a range, and the start of the first window that has no end, if one of
them would end past the last instant. -/
structure Tiling where
  windows : List Window
  overflow : Option Timestamp
deriving DecidableEq, Repr

/-- Cuts the range from `start` to `stop` into windows; the last one is cut off at `stop`. A
window never ends at or before its start. -/
def tile (g : Granularity) (start stop : Timestamp) : Tiling :=
  if _h : start < stop then
    match g.advance? start with
    | none => ⟨[], some start⟩
    | some next =>
      if _h : start < next then
        let rest := tile g (min next stop) stop
        ⟨⟨start, min next stop⟩ :: rest.windows, rest.overflow⟩
      else ⟨[], some start⟩
  else ⟨[], none⟩
termination_by (stop.nanos - start.nanos).toNat
decreasing_by
  simp only [Timestamp.lt_def, Timestamp.nanos_min] at *
  omega

/-! ### One window -/

/-- What one window takes from the samples. -/
structure Take (σ : Type) where
  state : σ
  /-- The samples within the bounds of the window. -/
  taken : List Sample
  skipped : Nat
  /-- The samples from the first one stamped after the end of the window. -/
  rest : List Sample

variable {σ ν : Type} [Arithmetic ν]

/-- Goes through the samples until one is stamped after the end of the window. -/
def take (ev : Evaluator σ ν) (start : Timestamp) (w : Window) : σ → List Sample → Take σ
  | state, [] => ⟨state, [], 0, []⟩
  | state, sample :: rest =>
    if w.stop < sample.timestamp then ⟨state, [], 0, sample :: rest⟩
    else if sample.timestamp < w.start then
      let t := take ev start w (ev.observe state sample) rest
      { t with skipped := t.skipped + if start ≤ sample.timestamp then 1 else 0 }
    else
      let t := take ev start w state rest
      { t with taken := sample :: t.taken }

/-- Takes the samples of the next window, and adds its value, stamped with its end. The answer
holds the samples that are left for later windows. -/
def scanWindow (ev : Evaluator σ ν) (start : Timestamp) (w : Window) (samples : List Sample)
    (p : Progress σ ν) : Except Error (Progress σ ν × List Sample) :=
  let t := take ev start w p.state samples
  match ev.evaluate t.state t.taken with
  | .error e => .error e
  | .ok (value, state) => .ok (⟨state, p.values.add w.stop value, p.skipped + t.skipped⟩, t.rest)

/-! ### Scans -/

/-- One value per window, in order. -/
def scanWindows (ev : Evaluator σ ν) (start : Timestamp) :
    List Window → List Sample → Progress σ ν → Except Error (Progress σ ν)
  | [], _, p => .ok p
  | w :: windows, samples, p =>
    match scanWindow ev start w samples p with
    | .error e => .error e
    | .ok (p, rest) => scanWindows ev start windows rest p

/-- One value per window of an interval granularity, from `current` on in a series that begins
at `start`. A window is cut only when the ones before it have their values, so of two faults the
earlier one is met; a window that would end past the last instant is refused. -/
def scanIntervals (ev : Evaluator σ ν) (g : Granularity) (start current stop : Timestamp)
    (samples : List Sample) (p : Progress σ ν) : Except Error (Progress σ ν) :=
  if _h : current < stop then
    match g.advance? current with
    | none => .error (.range (.overflow g current))
    | some next =>
      if _h : current < next then
        match scanWindow ev start ⟨current, min next stop⟩ samples p with
        | .error e => .error e
        | .ok (p, rest) => scanIntervals ev g start (min next stop) stop rest p
      else .error (.range (.overflow g current))
  else .ok p
termination_by (stop.nanos - current.nanos).toNat
decreasing_by
  simp only [Timestamp.lt_def, Timestamp.nanos_min] at *
  omega

/-- Cutting windows one by one gives what a scan over the whole tiling gives. -/
theorem scanIntervals_eq (ev : Evaluator σ ν) (g : Granularity)
    (start current stop : Timestamp) (samples : List Sample) (p : Progress σ ν) :
    scanIntervals ev g start current stop samples p =
      (scanWindows ev start (tile g current stop).windows samples p).bind fun p =>
        match (tile g current stop).overflow with
        | some unended => .error (.range (.overflow g unended))
        | none => .ok p := by
  fun_induction tile g current stop generalizing samples p with
  | case1 current h none_ =>
    rw [scanIntervals]
    simp [h, none_, scanWindows, Except.bind]
  | case2 current h next some_ later _rest ih =>
    rw [scanIntervals]
    simp only [h, some_, later, dite_true, scanWindows]
    cases scanWindow ev start ⟨current, min next stop⟩ samples p with
    | error e => rfl
    | ok step => exact ih step.2 step.1
  | case3 current h next some_ later =>
    rw [scanIntervals]
    simp [h, some_, later, scanWindows, Except.bind]
  | case4 current h =>
    rw [scanIntervals]
    simp [h, scanWindows, Except.bind]

/-- One value per sample from `start` on, stamped with the timestamp of the sample; the first
sample after `stop` ends the scan. -/
def scanSamples (ev : Evaluator σ ν) (start stop : Timestamp) :
    List Sample → Progress σ ν → Except Error (Progress σ ν)
  | [], p => .ok p
  | sample :: rest, p =>
    if sample.timestamp < start then
      scanSamples ev start stop rest { p with state := ev.observe p.state sample }
    else if stop < sample.timestamp then .ok p
    else
      match ev.evaluate p.state [sample] with
      | .error e => .error e
      | .ok (value, state) =>
        scanSamples ev start stop rest
          { p with state, values := p.values.add sample.timestamp value }

end Metering.Series
