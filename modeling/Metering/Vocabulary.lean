/-!
The closed vocabularies of metering: value types, trends, sampling types, interval units,
metric kinds, coercion policies and log levels.

Every word has two spellings: its name, used in requests and settings, and its label, used
in descriptions.
-/

namespace Metering

/-- A finite list of words. -/
class Vocabulary (α : Type) where
  all : List α
  name : α → String
  label : α → String

/-- The word with the given name. -/
def Vocabulary.ofName? {α : Type} [Vocabulary α] (name : String) : Option α :=
  (Vocabulary.all (α := α)).find? fun word => Vocabulary.name word == name

/-- The declared type of a value column. -/
inductive ValueType where
  | bool | int | uint | float | duration | datetime | text
deriving DecidableEq, Repr

/-- How the samples of one window become one value: their number, their sum or their mean,
the last two either afresh for every window or carried through all windows of a series. -/
inductive Trend where
  | count | sum | average | runningSum | runningAverage
deriving DecidableEq, Repr

/-- What a counter reading means: the value itself, a change since the reading before, or a
running total; each either alone or over a base. -/
inductive SamplingType where
  | rawCount | rawFraction | incrementalCount | incrementalFraction | totalCount | totalFraction
deriving DecidableEq, Repr

/-- The unit of an interval window. -/
inductive IntervalUnit where
  | millisecond | second | minute | hour | day | week | month
deriving DecidableEq, Repr

/-- Whether a metric records events or samples a counter. -/
inductive MetricKind where
  | event | counterSampled
deriving DecidableEq, Repr

/-- What happens to a value that is no number where a number is needed. -/
inductive CoercionPolicy where
  | substituteZero | fail
deriving DecidableEq, Repr

inductive LogLevel where
  | trace | debug | info | warn | error
deriving DecidableEq, Repr

/-! ### Names and labels -/

instance : Vocabulary ValueType where
  all := [.bool, .int, .uint, .float, .duration, .datetime, .text]
  name
    | .bool => "bool" | .int => "int" | .uint => "uint" | .float => "float"
    | .duration => "duration" | .datetime => "datetime" | .text => "text"
  label
    | .bool => "Bool" | .int => "Int" | .uint => "UInt" | .float => "Float"
    | .duration => "Duration" | .datetime => "DateTime" | .text => "Text"

instance : Vocabulary Trend where
  all := [.count, .sum, .average, .runningSum, .runningAverage]
  name
    | .count => "count" | .sum => "sum" | .average => "average"
    | .runningSum => "running_sum" | .runningAverage => "running_average"
  label
    | .count => "Count" | .sum => "Sum" | .average => "Average"
    | .runningSum => "RunningSum" | .runningAverage => "RunningAverage"

instance : Vocabulary SamplingType where
  all := [.rawCount, .rawFraction, .incrementalCount, .incrementalFraction, .totalCount,
    .totalFraction]
  name
    | .rawCount => "raw_count" | .rawFraction => "raw_fraction"
    | .incrementalCount => "incremental_count" | .incrementalFraction => "incremental_fraction"
    | .totalCount => "total_count" | .totalFraction => "total_fraction"
  label
    | .rawCount => "RawCount" | .rawFraction => "RawFraction"
    | .incrementalCount => "IncrementalCount" | .incrementalFraction => "IncrementalFraction"
    | .totalCount => "TotalCount" | .totalFraction => "TotalFraction"

instance : Vocabulary IntervalUnit where
  all := [.millisecond, .second, .minute, .hour, .day, .week, .month]
  name
    | .millisecond => "millisecond" | .second => "second" | .minute => "minute"
    | .hour => "hour" | .day => "day" | .week => "week" | .month => "month"
  label
    | .millisecond => "Millisecond" | .second => "Second" | .minute => "Minute"
    | .hour => "Hour" | .day => "Day" | .week => "Week" | .month => "Month"

instance : Vocabulary MetricKind where
  all := [.event, .counterSampled]
  name
    | .event => "Event" | .counterSampled => "CounterSampled"
  label
    | .event => "Event" | .counterSampled => "CounterSampled"

instance : Vocabulary CoercionPolicy where
  all := [.substituteZero, .fail]
  name
    | .substituteZero => "substitute_zero" | .fail => "fail"
  label
    | .substituteZero => "SubstituteZero" | .fail => "Fail"

instance : Vocabulary LogLevel where
  all := [.trace, .debug, .info, .warn, .error]
  name
    | .trace => "trace" | .debug => "debug" | .info => "info" | .warn => "warn"
    | .error => "error"
  label
    | .trace => "Trace" | .debug => "Debug" | .info => "Info" | .warn => "Warn"
    | .error => "Error"

/-- How messages call the kind of a metric. -/
def MetricKind.text : MetricKind → String
  | .event => "event"
  | .counterSampled => "counter-sampled"

/-! ### Properties -/

/-- Numbers and durations can be trended without being asked to. -/
def ValueType.isTrendable : ValueType → Bool
  | .int | .uint | .float | .duration => true
  | .bool | .datetime | .text => false

/-- The trend of a column of this type that names none. -/
def ValueType.defaultTrend (type : ValueType) : Trend :=
  if type.isTrendable then .average else .count

/-- The trend starts each window with the sum and the count of the window before. -/
def Trend.isRunning : Trend → Bool
  | .runningSum | .runningAverage => true
  | _ => false

def Trend.isAverage : Trend → Bool
  | .average | .runningAverage => true
  | _ => false

/-- Readings are divided by their base. -/
def SamplingType.isFraction : SamplingType → Bool
  | .rawFraction | .incrementalFraction | .totalFraction => true
  | _ => false

/-- Each reading is the value itself. -/
def SamplingType.isRaw : SamplingType → Bool
  | .rawCount | .rawFraction => true
  | _ => false

/-! ### Reading a name back -/

theorem CoercionPolicy.ofName?_name (p : CoercionPolicy) :
    Vocabulary.ofName? (Vocabulary.name p) = some p := by
  cases p <;> decide

theorem LogLevel.ofName?_name (l : LogLevel) :
    Vocabulary.ofName? (Vocabulary.name l) = some l := by
  cases l <;> decide

end Metering
