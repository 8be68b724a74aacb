import Metering.Time.Timestamp

/-!
Spans of time. A `Duration` is a length, as settings hold it: any number of nanoseconds whose
whole seconds fit in 64 bits. A `Span` is a signed difference, as samples hold it: at most
`2 ^ 63 - 1` milliseconds either way.
-/

namespace Metering.Time

/-- A length of time in nanoseconds. -/
structure Duration where
  nanos : Nat
  inRange : nanos < UInt64.size * 1000000000
deriving DecidableEq, Repr

namespace Duration

@[ext] theorem ext {a b : Duration} (h : a.nanos = b.nanos) : a = b := by
  cases a; cases b; cases h; rfl

def ofNanos? (nanos : Nat) : Option Duration :=
  if h : nanos < UInt64.size * 1000000000 then some ⟨nanos, h⟩ else none

def zero : Duration := ⟨0, by decide⟩

def isZero (d : Duration) : Bool := d.nanos == 0

/-- Whole seconds. -/
def seconds (d : Duration) : Nat := d.nanos / nanosPerSecond

/-- Nanoseconds past the whole second. -/
def subsecond (d : Duration) : Nat := d.nanos % nanosPerSecond

/-- Whole milliseconds. -/
def millis (d : Duration) : Nat := d.nanos / 1000000

end Duration

/-- A signed difference of time in nanoseconds. -/
structure Span where
  nanos : Int
  inRange : -9223372036854775807000000 ≤ nanos ∧ nanos ≤ 9223372036854775807000000
deriving DecidableEq, Repr

namespace Span

def ofNanos? (nanos : Int) : Option Span :=
  if h : -9223372036854775807000000 ≤ nanos ∧ nanos ≤ 9223372036854775807000000 then
    some ⟨nanos, h⟩
  else none

/-- The longest span. -/
def longest : Span := ⟨9223372036854775807000000, by decide⟩

/-- A length of time as a span; one that is too long becomes the longest span. -/
def ofDuration (d : Duration) : Span :=
  (ofNanos? d.nanos).getD longest

/-- The written form: `PT`, the seconds with as many fraction digits as needed, and `S`;
the empty span is `P0D`. -/
def text (s : Span) : String :=
  if s.nanos = 0 then "P0D"
  else
    let n := s.nanos.natAbs
    let sign := if s.nanos < 0 then ['-'] else []
    let fraction := (padded 9 (n % nanosPerSecond)).reverse.dropWhile (· == '0') |>.reverse
    let point := if fraction.isEmpty then [] else ['.']
    String.ofList (sign ++ "PT".toList ++ Nat.toDigits 10 (n / nanosPerSecond)
      ++ point ++ fraction ++ ['S'])

end Span

example : (⟨-1500000000, by decide⟩ : Span).text = "-PT1.5S" := by decide +kernel

end Metering.Time
