import Metering.ColumnSet
import Metering.Series.Scan

/-!
Window values of event metrics. Without a column a window counts its samples; with a column that
is not trended it counts the samples that have a value there; otherwise it adds the values up and,
for an average, divides by the number of samples. A running trend goes on from the sum and the
number that the window before ended with.
-/

namespace Metering.Series

/-- The column to trend, with its position among the slots. -/
structure TrendTarget where
  column : Column
  index : Nat
deriving DecidableEq, Repr

/-- A sum of values and how many samples it covers. -/
structure RunningSum (ν : Type) where
  sum : ν
  count : Nat
deriving DecidableEq, Repr

/-- What is carried from window to window. -/
structure TrendState (ν : Type) where
  carried : RunningSum ν
  /-- How many values were taken as zero because they are no numbers. -/
  failures : Nat
deriving DecidableEq, Repr

variable {ν : Type} [Arithmetic ν]

def RunningSum.zero : RunningSum ν :=
  ⟨Arithmetic.zero, 0⟩

def TrendState.initial : TrendState ν :=
  ⟨.zero, 0⟩

/-- The column is only counted. -/
def TrendTarget.isCounted (t : TrendTarget) : Bool :=
  !t.column.trendable || t.column.trend == .count

/-- What a sample contributes, and whether a value had to be taken as zero. A sample without
a value contributes zero. -/
def contribution (t : TrendTarget) (policy : CoercionPolicy) (sample : Sample) :
    Except Error (ν × Bool) :=
  match sample.value? t.index with
  | none => .ok (Arithmetic.zero, false)
  | some value =>
    match value.number?, policy with
    | some x, _ => .ok (Arithmetic.ofFloat x, false)
    | none, .substituteZero => .ok (Arithmetic.zero, true)
    | none, .fail => .error (.coercion t.column.name value.written)

/-- Adds the contributions of the samples, in order, to a sum; the number in the answer
counts the values taken as zero. -/
def accumulate (t : TrendTarget) (policy : CoercionPolicy) :
    List Sample → RunningSum ν → Nat → Except Error (RunningSum ν × Nat)
  | [], acc, failures => .ok (acc, failures)
  | sample :: rest, acc, failures =>
    match contribution t policy sample with
    | .error e => .error e
    | .ok (x, substituted) =>
      accumulate t policy rest ⟨Arithmetic.add acc.sum x, acc.count + 1⟩
        (if substituted then failures + 1 else failures)

/-- The value of a trend: the sum, or the mean of two samples and more. -/
def RunningSum.value (trend : Trend) (acc : RunningSum ν) : ν :=
  if trend.isAverage && 1 < acc.count then
    Arithmetic.div acc.sum (Arithmetic.ofNat acc.count)
  else acc.sum

/-- The value of a window of events. -/
def trendWindow (target : Option TrendTarget) (policy : CoercionPolicy) (state : TrendState ν)
    (samples : List Sample) : Except Error (ν × TrendState ν) :=
  match target with
  | none => .ok (Arithmetic.ofNat samples.length, state)
  | some t =>
    if t.isCounted then
      let present := samples.countP fun sample => (sample.value? t.index).isSome
      .ok (Arithmetic.ofNat present, state)
    else
      let trend := t.column.trend
      let initial := if trend.isRunning then state.carried else .zero
      match accumulate t policy samples initial state.failures with
      | .error e => .error e
      | .ok (acc, failures) =>
        .ok (acc.value trend, ⟨if trend.isRunning then acc else state.carried, failures⟩)

/-- Events take no notice of samples outside the windows. -/
def trendEvaluator (target : Option TrendTarget) (policy : CoercionPolicy) :
    Evaluator (TrendState ν) ν where
  observe state _ := state
  evaluate := trendWindow target policy

end Metering.Series
