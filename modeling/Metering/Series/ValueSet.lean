import Metering.Decimal.Binary
import Metering.Series.Arithmetic
import Metering.Time.Timestamp

/-!
The values of a series with their running statistics. Least, greatest and mean are kept up to
date by every addition; the percentile is looked up in the sorted values when it is asked for, and
remembered until the next addition.
-/

namespace Metering.Series

open Metering.Time

/-- One value of a series. -/
structure Entry (ν : Type) where
  /-- The place in the series, counted from one. -/
  sequence : Nat
  timestamp : Timestamp
  value : ν
deriving DecidableEq, Repr

structure ValueSet (ν : Type) where
  /-- Which percentile is reported. -/
  percentile : Float
  entries : Array (Entry ν)
  least : Option (Entry ν)
  greatest : Option (Entry ν)
  mean : ν
  /-- The percentile, if it was looked up since the last addition. -/
  lookedUp : Option (Option ν)

namespace ValueSet

variable {ν : Type} [Arithmetic ν]

def empty (percentile : Float) : ValueSet ν :=
  ⟨percentile, #[], none, none, Arithmetic.zero, none⟩

def size (s : ValueSet ν) : Nat :=
  s.entries.size

/-- The numbers alone, in order. -/
def numbers (s : ValueSet ν) : List ν :=
  s.entries.toList.map (·.value)

/-- Whether `candidate` takes the place of `held`: there is none yet, it is `better`, or the
number held is the result of an undefined operation. -/
def replaces (better : ν → ν → Bool) (candidate : ν) (held : Option (Entry ν)) : Bool :=
  match held with
  | none => true
  | some held => better candidate held.value || Arithmetic.isNaN held.value

/-- Adds a value at the end. The mean moves by the distance of the value from it, divided by
the number of values. -/
def add (s : ValueSet ν) (timestamp : Timestamp) (value : ν) : ValueSet ν :=
  let entry : Entry ν := ⟨s.entries.size + 1, timestamp, value⟩
  { s with
    entries := s.entries.push entry
    least := if replaces Arithmetic.less value s.least then some entry else s.least
    greatest :=
      if replaces (fun a b => Arithmetic.less b a) value s.greatest then some entry
      else s.greatest
    mean := Arithmetic.add s.mean (Arithmetic.div (Arithmetic.sub value s.mean)
      (Arithmetic.ofNat (s.entries.size + 1)))
    lookedUp := none }

/-- The rank of a percentile among `n` values, counted from one: the product rounded up. -/
def rank (percentile : Float) (n : Nat) : Nat :=
  Decimal.ceiling (percentile * n.toUInt64.toFloat)

/-- The number with the rank of the percentile in the sorted list. -/
def orderStatistic? (percentile : Float) (numbers : List ν) : Option ν :=
  (numbers.mergeSort Arithmetic.totalLe)[rank percentile numbers.length - 1]?

/-- The reported percentile, and the set that remembers it. -/
def reported (s : ValueSet ν) : Option ν × ValueSet ν :=
  match s.lookedUp with
  | some answer => (answer, s)
  | none =>
    let answer := orderStatistic? s.percentile s.numbers
    (answer, { s with lookedUp := some answer })

end ValueSet

end Metering.Series
