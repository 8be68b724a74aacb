import Metering.Telemetry

/-!
Runs: telemetry through any number of operations.

A session is telemetry together with the packets that were made and not yet written. A packet is used
up by the attempt to write it, whether it is stored or refused. `Session.step` carries one operation
out and gives its answer; an operation on something that does not exist changes nothing. A run is a
list of operations, and its record the operations with their answers (`Session.run`,
`Session.record`).
-/

namespace Metering

open Metering.Time

structure Session where
  telemetry : Telemetry
  packets : List (Option Packet) := []

/-- What can be asked of telemetry. Packets are numbered in the order in which they were made. -/
inductive Operation where
  | define (schema : Schema) (key : Key)
  | addColumn (id : DefinitionId) (name : String) (type : ValueType) (options : ColumnOptions)
  | rehydrateColumn (id : DefinitionId) (name : String) (type : ValueType)
      (options : ColumnOptions)
  | removeColumn (id : DefinitionId) (name : String)
  | setDefaultColumn (id : DefinitionId) (name : String)
  | lockColumns (id : DefinitionId)
  | lock (id : DefinitionId)
  | openInstance (id : DefinitionId) (name : Option String)
  | createPacket (r : InstanceRef)
  | setSlot (packet index : Nat) (value : Option Value)
  | setNamed (packet : Nat) (name : String) (value : Value)
  | fill (packet : Nat) (values : List (Option Value))
  | writePacket (r : InstanceRef) (packet : Nat) (timestamp : Timestamp)
  | writeSample (r : InstanceRef) (values : List (Option Value)) (timestamp : Timestamp)
  | writeReading (r : InstanceRef) (reading : Reading Float) (timestamp : Timestamp)
  | rehydrate (r : InstanceRef) (sample : Sample)
  | query (r : InstanceRef) (settings : AggregationSettings) (q : Series.Query)
  | takeSequence
  | observe (sequence : Nat)

inductive Answer where
  /-- A reference leads nowhere. -/
  | nowhere
  | done (result : Except Error Unit)
  | definition (result : Except Error DefinitionId)
  | column (result : Except Error ColumnRef)
  | columnCount (result : Except Error Nat)
  | opened (result : Except Error InstanceRef)
  | packet (result : Except Error Nat)
  | sample (result : Except Error Sample)
  | series (result : Except Error (Series Float))
  | sequence (n : Nat)

/-- An operation that was carried out. -/
structure Entry where
  operation : Operation
  answer : Answer

namespace Session

variable {α : Type}

/-- Telemetry with nothing recorded in it yet. -/
def create (settings : Settings) (lastSequence : Nat) : Except Error Session :=
  (Telemetry.create settings lastSequence).map fun t => ⟨t, []⟩

/-- The answer to an operation on telemetry, and the session afterwards. -/
def reply (s : Session) (answer : Except Error α → Answer) :
    Option (Telemetry.Outcome α) → Answer × Session
  | none => (.nowhere, s)
  | some (result, t) => (answer result, { s with telemetry := t })

/-- The packet with the given number, unless it is used up. -/
def packet? (s : Session) (packet : Nat) : Option Packet :=
  s.packets[packet]?.join

/-- Changes a packet. -/
def edit (s : Session) (packet : Nat) : Option (Except Error Packet) → Answer × Session
  | none => (.nowhere, s)
  | some (.error e) => (.done (.error e), s)
  | some (.ok p) => (.done (.ok ()), { s with packets := s.packets.set packet (some p) })

/-- Keeps the packet that was made, and answers with its number. -/
def keep (s : Session) : Option (Telemetry.Outcome Packet) → Answer × Session
  | none => (.nowhere, s)
  | some (.error e, t) => (.packet (.error e), { s with telemetry := t })
  | some (.ok p, t) => (.packet (.ok s.packets.length), ⟨t, s.packets ++ [some p]⟩)

/-- Uses a packet up. -/
def discard (s : Session) (packet : Nat) : Session :=
  { s with packets := s.packets.set packet none }

/-- Carries out one operation. -/
def step (s : Session) : Operation → Answer × Session
  | .define schema key => s.reply .definition (some (s.telemetry.define schema key))
  | .addColumn id name type options =>
    s.reply .column (s.telemetry.addColumn? id name type options)
  | .rehydrateColumn id name type options =>
    s.reply .column (s.telemetry.rehydrateColumn? id name type options)
  | .removeColumn id name => s.reply .column (s.telemetry.removeColumn? id name)
  | .setDefaultColumn id name => s.reply .done (s.telemetry.setDefaultColumn? id name)
  | .lockColumns id => s.reply .columnCount (s.telemetry.lockColumns? id)
  | .lock id => s.reply .done (s.telemetry.lock? id)
  | .openInstance id name => s.reply .opened (s.telemetry.openInstance? id name)
  | .createPacket r => s.keep (s.telemetry.createPacket? r)
  | .setSlot packet index value => s.edit packet ((s.packet? packet).map (·.set index value))
  | .setNamed packet name value =>
    s.edit packet ((s.packet? packet).bind fun p => s.telemetry.setNamed? p name value)
  | .fill packet values => s.edit packet ((s.packet? packet).map (·.fill values))
  | .writePacket r packet timestamp =>
    match (s.packet? packet).bind fun p => s.telemetry.writePacket? r p timestamp with
    | none => (.nowhere, s)
    | some outcome => (s.discard packet).reply .sample (some outcome)
  | .writeSample r values timestamp =>
    s.reply .sample (s.telemetry.writeSample? r values timestamp)
  | .writeReading r reading timestamp =>
    s.reply .sample (s.telemetry.writeReading? r reading timestamp)
  | .rehydrate r sample => s.reply .sample (s.telemetry.rehydrate? r sample)
  | .query r settings q => s.reply .series (s.telemetry.query? r settings q)
  | .takeSequence =>
    (.sequence s.telemetry.takeSequence.1, { s with telemetry := s.telemetry.takeSequence.2 })
  | .observe sequence =>
    (.done (.ok ()), { s with telemetry := s.telemetry.observe sequence })

/-! ### Runs -/

/-- Carries out operations one after the other. -/
def run (s : Session) : List Operation → Session
  | [] => s
  | operation :: rest => (s.step operation).2.run rest

/-- The operations of a run with their answers. -/
def record (s : Session) : List Operation → List Entry
  | [] => []
  | operation :: rest => ⟨operation, (s.step operation).1⟩ :: (s.step operation).2.record rest

/-- What every step keeps, every run keeps; `inv` may speak of what was recorded so far. -/
theorem run_induction (inv : List Entry → Session → Prop)
    (step : ∀ {past s} (operation : Operation), inv past s →
      inv (past ++ [⟨operation, (s.step operation).1⟩]) (s.step operation).2)
    {past : List Entry} {s : Session} (begun : inv past s) (operations : List Operation) :
    inv (past ++ s.record operations) (s.run operations) := by
  induction operations generalizing past s with
  | nil => simpa [record, run] using begun
  | cons operation rest ih =>
      have := ih (step operation begun)
      rw [List.append_assoc] at this
      exact this

/-- The same where what was recorded does not matter. -/
theorem run_keeps (inv : Session → Prop)
    (step : ∀ {s} (operation : Operation), inv s → inv (s.step operation).2)
    {s : Session} (begun : inv s) (operations : List Operation) : inv (s.run operations) :=
  @run_induction (fun _ => inv) (fun operation holds => step operation holds) [] s begun operations

end Session

end Metering
