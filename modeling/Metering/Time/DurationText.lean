import Metering.Decimal.Digits
import Metering.Text.Blank
import Metering.Time.Span

/-!
Durations as people write them: a list of terms, each a number and a unit, as in
`1h 30m` or `1.5s`. The value of the list is the sum of its terms.

`Duration.text` writes the calendar-like parts from years down to nanoseconds and leaves out
those that are zero. `Duration.read?` accepts more: any units in any order, long unit
names, fractions, and blanks anywhere except inside a unit name.
-/

namespace Metering.Time

open Metering.Decimal (natOfDigits)

/-- A unit in which a term of a duration can be given. A month is the twelfth part of a
year, and a year has 365.25 days. -/
inductive DurationUnit where
  | nanosecond | microsecond | millisecond | second | minute | hour | day | week | month | year
deriving DecidableEq, Repr

namespace DurationUnit

/-- The accepted names; `µs` is spelled with the micro sign. -/
def names : DurationUnit → List String
  | .nanosecond => ["ns", "nsec", "nanos"]
  | .microsecond => ["us", "usec", "µs"]
  | .millisecond => ["ms", "msec", "millis"]
  | .second => ["s", "sec", "secs", "second", "seconds"]
  | .minute => ["m", "min", "mins", "minute", "minutes"]
  | .hour => ["h", "hr", "hrs", "hour", "hours"]
  | .day => ["d", "day", "days"]
  | .week => ["w", "wk", "wks", "week", "weeks"]
  | .month => ["M", "month", "months"]
  | .year => ["y", "yr", "yrs", "year", "years"]

def all : List DurationUnit :=
  [.nanosecond, .microsecond, .millisecond, .second, .minute, .hour, .day, .week, .month, .year]

def ofName? (name : String) : Option DurationUnit :=
  all.find? fun unit => unit.names.contains name

/-- Nanoseconds of a unit below the second; `none` for the others. -/
def subsecondScale? : DurationUnit → Option Nat
  | .nanosecond => some 1
  | .microsecond => some 1000
  | .millisecond => some 1000000
  | _ => none

/-- Seconds of a unit from the second up. -/
def secondScale : DurationUnit → Nat
  | .nanosecond | .microsecond | .millisecond => 0
  | .second => 1
  | .minute => 60
  | .hour => 3600
  | .day => 86400
  | .week => 604800
  | .month => 2630016
  | .year => 31557600

/-- The grain in which a fraction of the unit is counted, in nanoseconds, and the number of
grains in one unit: whole nanoseconds up to the minute, whole seconds above. A nanosecond
has no fraction. -/
def fractionGrain? : DurationUnit → Option (Nat × Nat)
  | .nanosecond => none
  | .microsecond => some (1, 1000)
  | .millisecond => some (1, 1000000)
  | .second => some (1, 1000000000)
  | .minute => some (1, 60000000000)
  | unit => some (1000000000, unit.secondScale)

end DurationUnit

/-- One number with its unit; the fraction holds the digits after the point. -/
structure DurationTerm where
  whole : List Char
  fraction : Option (List Char)
  unit : DurationUnit
deriving DecidableEq, Repr

/-- The number that fits in a 64-bit word. -/
def word? (n : Nat) : Option Nat :=
  if n < UInt64.size then some n else none

/-- Adds nanoseconds to a total. The part below the second is counted in a word of its own
while it is added, so it must not overflow there. -/
def addNanos? (total : Duration) (nanos : Nat) : Option Duration := do
  let _ ← word? (total.subsecond + nanos)
  Duration.ofNanos? (total.nanos + nanos)

def addSeconds? (total : Duration) (seconds : Nat) : Option Duration :=
  Duration.ofNanos? (total.nanos + seconds * nanosPerSecond)

namespace DurationTerm

/-- Adds the whole units of the term. -/
def addWhole? (term : DurationTerm) (total : Duration) : Option Duration := do
  let n ← word? (natOfDigits term.whole)
  match term.unit.subsecondScale? with
  | some scale =>
    let nanos ← word? (n * scale)
    addNanos? total nanos
  | none =>
    let seconds ← word? (n * term.unit.secondScale)
    addSeconds? total seconds

/-- Adds the fraction of a unit, which must come out as a whole number of grains. -/
def addFraction? (term : DurationTerm) (total : Duration) : Option Duration :=
  match term.fraction with
  | none => some total
  | some digits => do
    let numerator ← word? (natOfDigits digits)
    let denominator ← word? (Nat.pow 10 digits.length)
    let (grain, count) ← term.unit.fractionGrain?
    let scaled ← word? (numerator * count)
    if scaled % denominator ≠ 0 then none
    else if grain = 1 then addNanos? total (scaled / denominator)
    else addSeconds? total (scaled / denominator)

def addTo? (term : DurationTerm) (total : Duration) : Option Duration := do
  let total ← term.addWhole? total
  term.addFraction? total

end DurationTerm

/-! ### Reading -/

/-- The digits at the front, without the blanks among them, and what follows. -/
def takeDigits : List Char → List Char × List Char
  | [] => ([], [])
  | c :: rest =>
    if c.isDigit then (c :: (takeDigits rest).1, (takeDigits rest).2)
    else if Text.isBlank c then takeDigits rest
    else ([], c :: rest)

/-- A character that can stand in a unit name. -/
def isUnitChar (c : Char) : Bool :=
  c.isAlpha || c == 'µ'

theorem length_takeDigits_le (cs : List Char) :
    (takeDigits cs).1.length + (takeDigits cs).2.length ≤ cs.length := by
  induction cs with
  | nil => simp [takeDigits]
  | cons c rest ih =>
    unfold takeDigits
    split
    · simp only [List.length_cons]; omega
    · split
      · simp only [List.length_cons]; omega
      · simp

/-- The fraction after a point, if there is a point; it has at least one digit. -/
def takeFraction? : List Char → Option (Option (List Char) × List Char)
  | '.' :: rest =>
    match takeDigits rest with
    | ([], _) => none
    | (digits, rest) => some (some digits, rest)
  | cs => some (none, cs)

theorem length_takeFraction?_le {cs rest : List Char} {fraction : Option (List Char)}
    (h : takeFraction? cs = some (fraction, rest)) : rest.length ≤ cs.length := by
  unfold takeFraction? at h
  split at h
  · rename_i tail
    have := length_takeDigits_le tail
    revert h this
    rcases takeDigits tail with ⟨digits, after⟩
    cases digits with
    | nil => intro h; cases h
    | cons d ds =>
      intro h this
      cases h
      simp only [List.length_cons] at this ⊢
      omega
  · cases h; exact Nat.le_refl _

/-- One term and what follows it. -/
def readTerm? (cs : List Char) : Option (DurationTerm × List Char) :=
  match takeDigits cs with
  | ([], _) => none
  | (whole, rest) => do
    let (fraction, rest) ← takeFraction? rest
    let unit ← DurationUnit.ofName? (String.ofList (rest.takeWhile isUnitChar))
    some (⟨whole, fraction, unit⟩, rest.dropWhile isUnitChar)

theorem length_readTerm?_lt {cs rest : List Char} {term : DurationTerm}
    (h : readTerm? cs = some (term, rest)) : rest.length < cs.length := by
  unfold readTerm? at h
  have hcs := length_takeDigits_le cs
  revert h hcs
  rcases takeDigits cs with ⟨whole, after⟩
  cases whole with
  | nil => intro h; cases h
  | cons d ds =>
    intro h hcs
    simp only [Option.bind_eq_bind, Option.bind_eq_some_iff, Prod.exists, Option.some.injEq,
      Prod.mk.injEq] at h
    obtain ⟨fraction, tail, htail, unit, -, -, rfl⟩ := h
    have h₁ := length_takeFraction?_le htail
    have h₂ := (List.dropWhile_sublist (p := isUnitChar) (l := tail)).length_le
    simp only [List.length_cons] at hcs
    omega

/-- The terms of a text, in order. -/
def readTerms? (cs : List Char) : Option (List DurationTerm) :=
  if cs.all Text.isBlank then some []
  else match _h : readTerm? cs with
    | none => none
    | some (term, rest) => (readTerms? rest).map (term :: ·)
termination_by cs.length
decreasing_by exact length_readTerm?_lt _h

namespace Duration

/-- Reads a duration: at least one term, or the text `0` alone. -/
def read? (s : String) : Option Duration :=
  if s = "0" then some zero
  else match readTerms? s.toList with
    | none | some [] => none
    | some terms => terms.foldlM (fun total term => term.addTo? total) zero

/-! ### Writing -/

/-- The parts of a duration from years down to nanoseconds, each with the name it is
written with. -/
def parts (d : Duration) : List (Nat × String) :=
  let s := d.seconds
  let n := d.subsecond
  let plural (count : Nat) (name : String) := if count > 1 then name ++ "s" else name
  let years := s / 31557600
  let months := s % 31557600 / 2630016
  let days := s % 31557600 % 2630016 / 86400
  let clock := s % 31557600 % 2630016 % 86400
  [(years, plural years "year"), (months, plural months "month"), (days, plural days "day"),
    (clock / 3600, "h"), (clock % 3600 / 60, "m"), (clock % 60, "s"),
    (n / 1000000, "ms"), (n / 1000 % 1000, "us"), (n % 1000, "ns")]

/-- The written form: the parts that are not zero, with spaces between. -/
def text (d : Duration) : String :=
  let shown := d.parts.filter (·.1 ≠ 0)
  if shown.isEmpty then "0s"
  else " ".intercalate (shown.map fun part => toString part.1 ++ part.2)

end Duration

end Metering.Time
