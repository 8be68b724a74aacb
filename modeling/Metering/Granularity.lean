import Metering.Time.Span
import Metering.Vocabulary

/-!
The resolution of a series: one value per sample, or one value per window of a fixed number
of calendar units.
-/

namespace Metering

open Metering.Time

inductive Granularity where
  | shortest
  | interval (unit : IntervalUnit) (count : Nat)
deriving DecidableEq, Repr

/-- The width of a unit that always has the same width; a month has none. -/
def IntervalUnit.nanos? : IntervalUnit → Option Nat
  | .millisecond => some 1000000
  | .second => some 1000000000
  | .minute => some 60000000000
  | .hour => some 3600000000000
  | .day => some 86400000000000
  | .week => some 604800000000000
  | .month => none

namespace Granularity

/-- The form used in messages and answers. -/
def text : Granularity → String
  | .shortest => "shortest"
  | .interval unit count => toString count ++ " x " ++ Vocabulary.label unit

def isShortest : Granularity → Bool
  | .shortest => true
  | .interval .. => false

/-- The largest count an interval can have. -/
def maxCount : Nat := UInt32.size - 1

/-- Raises a window given in milliseconds to at least the whole milliseconds of the floor,
and to at least one. -/
def withFloor (floor : Duration) : Granularity → Granularity
  | .interval .millisecond count =>
    .interval .millisecond (max count (max 1 (min floor.millis maxCount)))
  | g => g

/-- The end of the window that starts at the given instant: `none` for the shortest
granularity, and when the end lies past the last instant. -/
def advance? : Granularity → Timestamp → Option Timestamp
  | .shortest, _ => none
  | .interval unit count, t =>
    match unit.nanos? with
    | some width => t.addNanos? (count * width)
    | none => t.addMonths? count

end Granularity

end Metering
