import Metering.Error
import Metering.Value

/-!
Samples and the store that holds those of one instance.

A sample has a sequence number, unique among all samples, and a timestamp, which may run
backwards. The store is sorted by sequence number: a new sample goes to the end, and a sample
loaded from elsewhere goes where its number belongs.
-/

namespace Metering

open Metering.Time

/-- One reading of a counter; the base is the denominator of a fraction. -/
structure Reading (ν : Type) where
  raw : ν
  base : Option ν
deriving DecidableEq, Repr

/-- What a sample records: one slot per column of an event, or one reading. -/
inductive Payload where
  | event (slots : List (Option Value))
  | counter (reading : Reading Float)
deriving DecidableEq, Repr

def Payload.kind : Payload → MetricKind
  | .event _ => .event
  | .counter _ => .counterSampled

structure Sample where
  sequence : Nat
  timestamp : Timestamp
  payload : Payload
deriving DecidableEq, Repr

namespace Sample

/-- The slots of an event. -/
def slots? (s : Sample) : Option (List (Option Value)) :=
  match s.payload with
  | .event slots => some slots
  | .counter _ => none

/-- The reading of a counter. -/
def reading? (s : Sample) : Option (Reading Float) :=
  match s.payload with
  | .event _ => none
  | .counter reading => some reading

/-- The value in the slot of a column, if the sample has the slot and it is filled. -/
def value? (s : Sample) (index : Nat) : Option Value :=
  match s.payload with
  | .event slots => slots[index]?.join
  | .counter _ => none

/-- Samples are compared by sequence number alone. -/
def compare (a b : Sample) : Ordering :=
  Ord.compare a.sequence b.sequence

end Sample

/-- The samples of one instance, by ascending sequence number. -/
structure Store where
  samples : List Sample := []
deriving DecidableEq, Repr

namespace Store

def size (s : Store) : Nat :=
  s.samples.length

/-- Puts a sample at the end. -/
def append (s : Store) (sample : Sample) : Store :=
  ⟨s.samples ++ [sample]⟩

/-- Where a sequence number belongs among the samples. -/
inductive Position where
  /-- The sample at this place has the number. -/
  | taken (index : Nat)
  /-- No sample has the number; it would go to this place. -/
  | free (index : Nat)
deriving DecidableEq, Repr

/-- Looks for a sequence number between two places, the second one excluded, halving the
distance between them each time. This relies on the samples being sorted. -/
def search (samples : List Sample) (sequence lo hi : Nat) : Position :=
  if lo < hi then
    match samples[(lo + hi) / 2]? with
    | none => .free lo
    | some middle =>
      if middle.sequence = sequence then .taken ((lo + hi) / 2)
      else if middle.sequence < sequence then search samples sequence ((lo + hi) / 2 + 1) hi
      else search samples sequence lo ((lo + hi) / 2)
  else .free lo
termination_by hi - lo

def position (s : Store) (sequence : Nat) : Position :=
  search s.samples sequence 0 s.size

/-- Puts a sample with a number of its own in its place. -/
def rehydrate (s : Store) (sample : Sample) : Except Error Store :=
  match s.position sample.sequence with
  | .taken _ => .error (.duplicateSequence sample.sequence)
  | .free index => .ok ⟨s.samples.insertIdx index sample⟩

/-- The place of the sample with the same sequence number. -/
def indexOf? (s : Store) (sample : Sample) : Option Nat :=
  match s.position sample.sequence with
  | .taken index => some index
  | .free _ => none

/-- The samples without the leading run of those stamped before the given instant. -/
def samplesFrom (s : Store) (start : Timestamp) : List Sample :=
  s.samples.dropWhile fun sample => sample.timestamp < start

end Store

end Metering
