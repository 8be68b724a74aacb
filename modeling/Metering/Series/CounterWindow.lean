import Metering.Series.Scan

/-!
Window values of sampled counters, one rule for each sampling type.

A raw counter repeats its last value through windows without readings; an incremental counter adds
the readings of the window up; a total counter takes the difference between the last reading of
the window and the last reading before it. Fractions divide by the base, by the sum of the bases, or
by the difference of the bases, and are zero where there is nothing to divide by.
-/

namespace Metering.Series

variable {ν : Type} [Arithmetic ν]

/-- What is carried from window to window. -/
structure CounterState (ν : Type) where
  /-- The last reading so far. -/
  lastRaw : Option ν
  lastBase : Option ν
  /-- The last value, repeated by raw counters. -/
  lastValue : ν
deriving DecidableEq, Repr

def CounterState.initial : CounterState ν :=
  ⟨none, none, Arithmetic.zero⟩

/-- The reading of a sample, in the arithmetic of the series. -/
def readingOf? (sample : Sample) : Option (Reading ν) :=
  sample.reading?.map fun r => ⟨Arithmetic.ofFloat r.raw, r.base.map Arithmetic.ofFloat⟩

/-- The value of a single reading. -/
def rawValue (type : SamplingType) (r : Reading ν) : ν :=
  if type.isFraction then Arithmetic.ratio r.raw r.base else r.raw

/-- The difference between two readings; over the difference of the bases for a fraction. -/
def totalValue (type : SamplingType) (first last : Reading ν) : ν :=
  let raw := Arithmetic.sub last.raw first.raw
  if type.isFraction then
    Arithmetic.ratio raw
      (match last.base, first.base with
      | some l, some f => some (Arithmetic.sub l f)
      | _, _ => none)
  else raw

/-- The readings added up; over the sum of the bases present for a fraction. -/
def incrementalValue (type : SamplingType) (readings : List (Reading ν)) : ν :=
  let raw := Arithmetic.sum (readings.map (·.raw))
  if type.isFraction then
    Arithmetic.ratio raw (some (Arithmetic.sum (readings.filterMap (·.base))))
  else raw

/-- The reading that a total starts from: the last one so far, or else the first one of the
window. -/
def CounterState.baseline (state : CounterState ν) (first : Reading ν) : Reading ν :=
  match state.lastRaw with
  | some raw => ⟨raw, state.lastBase⟩
  | none => first

/-- The value of a window with at least one reading. -/
def readingsValue (type : SamplingType) (state : CounterState ν) (readings : List (Reading ν))
    (first last : Reading ν) : ν :=
  match type with
  | .rawCount | .rawFraction => rawValue type last
  | .incrementalCount | .incrementalFraction => incrementalValue type readings
  | .totalCount | .totalFraction => totalValue type (state.baseline first) last

/-- Notes a reading that belongs to no window. -/
def CounterState.observe (type : SamplingType) (state : CounterState ν) (sample : Sample) :
    CounterState ν :=
  match readingOf? sample with
  | none => state
  | some r => ⟨some r.raw, r.base, if type.isRaw then rawValue type r else state.lastValue⟩

/-- The value of a window of readings, and the state after it. A window without readings
leaves the state as it is. -/
def counterWindow (type : SamplingType) (state : CounterState ν) (samples : List Sample) :
    ν × CounterState ν :=
  match samples.filterMap readingOf? with
  | [] => (if type.isRaw then state.lastValue else Arithmetic.zero, state)
  | first :: rest =>
    let last := (first :: rest).getLast (by simp)
    let value := readingsValue type state (first :: rest) first last
    (value, ⟨some last.raw, last.base, value⟩)

def counterEvaluator (type : SamplingType) : Evaluator (CounterState ν) ν where
  observe := CounterState.observe type
  evaluate state samples := .ok (counterWindow type state samples)

end Metering.Series
