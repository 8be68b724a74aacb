import Metering.Decimal.Layout
import Metering.Decimal.Numeral
import Metering.Text.Blank
import Metering.Time.Span
import Metering.Vocabulary

/-!
Recorded values: what a sample holds in one column. A value has a type, a written form for
messages, and, unless it is text that is no numeral, a number that trends compute with.
-/

namespace Metering

open Metering.Time

inductive Value where
  | bool (b : Bool)
  | int (n : Int64)
  | uint (n : UInt64)
  | float (x : Float)
  | duration (span : Span)
  | datetime (instant : Timestamp)
  | text (s : String)
deriving DecidableEq, Repr

namespace Value

def type : Value → ValueType
  | .bool _ => .bool
  | .int _ => .int
  | .uint _ => .uint
  | .float _ => .float
  | .duration _ => .duration
  | .datetime _ => .datetime
  | .text _ => .text

/-- The written form used in messages. -/
def written : Value → String
  | .bool b => if b then "true" else "false"
  | .int n => toString n.toInt
  | .uint n => toString n.toNat
  | .float x => Decimal.Layout.plain.write x
  | .duration span => span.text
  | .datetime instant => instant.offsetText
  | .text s => s

end Value

/-- A span in milliseconds: to the microsecond if the microseconds fit in a signed 64-bit
word, otherwise to the millisecond. Either way the rest is cut off toward zero. -/
def spanMillis (span : Span) : Float :=
  let micros := span.nanos.tdiv 1000
  if Int64.minValue.toInt ≤ micros ∧ micros ≤ Int64.maxValue.toInt then
    (Int64.ofInt micros).toFloat / 1000
  else (Int64.ofInt (span.nanos.tdiv 1000000)).toFloat

/-- A text read as a numeral, blanks around it left out. -/
def textNumber? (s : String) : Option Float :=
  (Decimal.Numeral.read? (Text.trim s.toList)).bind Decimal.Numeral.toFloat?

/-- What the value contributes to a trend: a duration its milliseconds, an instant one
occurrence, a text the number it spells. -/
def Value.number? : Value → Option Float
  | .bool b => some (if b then 1 else 0)
  | .int n => some n.toFloat
  | .uint n => some n.toFloat
  | .float x => some x
  | .duration span => some (spanMillis span)
  | .datetime _ => some 1
  | .text s => textNumber? s

end Metering
