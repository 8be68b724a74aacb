import Metering.Series.Query

/-!
Telemetry: all definitions, their instances and samples, and the source of sequence numbers.

The whole is one value. An operation is given references to what it works on and answers with
its result and the telemetry afterwards; it answers `none` when a reference leads nowhere. A
refused operation changes nothing, with two exceptions: writing values and querying a series may
lock the columns of the definition before they are refused.
-/

namespace Metering

open Metering.Time

/-- A reference to an instance. -/
@[ext] structure InstanceRef where
  definition : DefinitionId
  id : InstanceId
deriving DecidableEq, Repr

structure Telemetry where
  settings : Settings := {}
  /-- The last sequence number handed out or seen. -/
  lastSequence : Nat := 0
  definitions : Catalog Definition := ∅
  nextDefinition : DefinitionId := 0
  nextInstance : InstanceId := 0

namespace Telemetry

/-- An answer, and the telemetry afterwards. -/
abbrev Outcome (α : Type) := Except Error α × Telemetry

/-- Telemetry with the given settings, if they are usable, and sequence numbers that go on
after the given one. -/
def create (settings : Settings) (lastSequence : Nat) : Except Error Telemetry :=
  settings.validate.map fun settings => { settings, lastSequence }

/-! ### Sequence numbers -/

/-- Takes the next sequence number. -/
def takeSequence (t : Telemetry) : Nat × Telemetry :=
  (t.lastSequence + 1, { t with lastSequence := t.lastSequence + 1 })

/-- Makes sure that later numbers are larger than the given one. -/
def observe (t : Telemetry) (sequence : Nat) : Telemetry :=
  { t with lastSequence := max t.lastSequence sequence }

/-! ### Looking things up -/

def definition? (t : Telemetry) (id : DefinitionId) : Option Definition :=
  t.definitions.get? id

/-- The definition with the same key. -/
def find? (t : Telemetry) (key : Key) : Option Definition :=
  t.definitions.find? key.normalized

/-- An instance along with its definition. -/
def instance? (t : Telemetry) (r : InstanceRef) : Option (Definition × Instance) := do
  let d ← t.definition? r.definition
  let i ← d.instances.get? r.id
  some (d, i)

/-- A column, also one that was removed. -/
def column? (t : Telemetry) (r : ColumnRef) : Option Column := do
  let d ← t.definition? r.definition
  let columns ← d.columns?
  columns.columns[r.serial]?

/-! ### Definitions -/

/-- The telemetry with other content for one definition. -/
def withDefinition (t : Telemetry) (d : Definition) : Telemetry :=
  { t with definitions := t.definitions.set d.id d }

/-- The definition with the given key, made if there is none. A definition that exists must
measure the same thing. -/
def define (t : Telemetry) (schema : Schema) (key : Key) : Outcome DefinitionId :=
  match t.find? key with
  | some d => (if d.schema = schema then .ok d.id else .error (d.incompatible schema.text), t)
  | none =>
    let id := t.nextDefinition
    (.ok id, { t with
      definitions := t.definitions.insert id key.normalized (.ofSchema id key schema)
      nextDefinition := id + 1 })

/-- Works on one definition. -/
def onDefinition? {α : Type} (t : Telemetry) (id : DefinitionId)
    (work : Definition → Except Error (α × Definition)) : Option (Outcome α) :=
  (t.definition? id).map fun d =>
    match work d with
    | .error e => (.error e, t)
    | .ok (answer, d) => (.ok answer, t.withDefinition d)

/-! ### Columns -/

/-- Works on the columns of one event definition, and answers with a reference to the column
that was worked on. -/
def onColumn? (t : Telemetry) (id : DefinitionId)
    (edit : ColumnSet → Except Error (Nat × ColumnSet)) : Option (Outcome ColumnRef) :=
  t.onDefinition? id fun d => d.editColumns fun columns =>
    (edit columns).map fun (serial, edited) =>
      (⟨id, serial, (edited.columns[serial]?.map (·.name)).getD ""⟩, edited)

def addColumn? (t : Telemetry) (id : DefinitionId) (name : String) (type : ValueType)
    (options : ColumnOptions) : Option (Outcome ColumnRef) :=
  t.onColumn? id (·.add name type options)

def rehydrateColumn? (t : Telemetry) (id : DefinitionId) (name : String) (type : ValueType)
    (options : ColumnOptions) : Option (Outcome ColumnRef) :=
  t.onColumn? id (·.rehydrate name type options)

def removeColumn? (t : Telemetry) (id : DefinitionId) (name : String) :
    Option (Outcome ColumnRef) :=
  t.onColumn? id (·.remove name)

def setDefaultColumn? (t : Telemetry) (id : DefinitionId) (name : String) :
    Option (Outcome Unit) :=
  t.onDefinition? id fun d => d.editColumns fun columns =>
    (columns.setDefault name).map fun edited => ((), edited)

/-- Locks the columns of an event definition, and answers with their number. -/
def lockColumns? (t : Telemetry) (id : DefinitionId) : Option (Outcome Nat) :=
  t.onDefinition? id fun d => d.editColumns fun columns => .ok (columns.size, columns.lock)

/-- Locks a definition of either kind. -/
def lock? (t : Telemetry) (id : DefinitionId) : Option (Outcome Unit) :=
  t.onDefinition? id fun d => .ok ((), d.lock)

/-! ### Instances -/

/-- The instance with the given name, made if there is none. -/
def openInstance? (t : Telemetry) (id : DefinitionId) (name : Option String) :
    Option (Outcome InstanceRef) :=
  (t.definition? id).map fun d =>
    match d.find? name with
    | some i => (.ok ⟨id, i.id⟩, t)
    | none =>
      let d := d.createInstance name t.nextInstance t.settings.registry.lockOnFirstInstance
      (.ok ⟨id, t.nextInstance⟩,
        { t.withDefinition d with nextInstance := t.nextInstance + 1 })

/-! ### Samples -/

/-- Works on one instance; the number of the sample that it stores is observed. -/
def store? (t : Telemetry) (r : InstanceRef)
    (work : Definition → Instance → Except Error (Sample × Definition)) : Option (Outcome Sample) :=
  (t.instance? r).map fun (d, i) =>
    match work d i with
    | .error e => (.error e, t)
    | .ok (sample, d) => (.ok sample, (t.withDefinition d).observe sample.sequence)

/-- Stores a new reading. -/
def writeReading? (t : Telemetry) (r : InstanceRef) (reading : Reading Float)
    (timestamp : Timestamp) : Option (Outcome Sample) :=
  t.store? r fun d i => d.writeReading i (t.lastSequence + 1) reading timestamp

/-- Stores a sample that already has a sequence number. -/
def rehydrate? (t : Telemetry) (r : InstanceRef) (sample : Sample) : Option (Outcome Sample) :=
  t.store? r fun d i => d.rehydrate i sample

/-! ### Packets -/

/-- An empty packet for an instance. -/
def createPacket? (t : Telemetry) (r : InstanceRef) : Option (Outcome Packet) :=
  (t.instance? r).bind fun _ => t.onDefinition? r.definition (·.createPacket)

/-- Fills the slot of a named column; the name is looked up among the present columns of the
definition the packet was made for. -/
def setNamed? (t : Telemetry) (p : Packet) (name : String) (value : Value) :
    Option (Except Error Packet) := do
  let d ← t.definition? p.definition
  let columns ← d.columns?
  some (p.setNamed columns name value)

/-- Stores a packet as a new event. -/
def writePacket? (t : Telemetry) (r : InstanceRef) (p : Packet) (timestamp : Timestamp) :
    Option (Outcome Sample) :=
  t.store? r fun d i => d.writePacket i (t.lastSequence + 1) p timestamp

/-- Stores a new event with values in column order; columns without a value stay empty. The
columns are locked even when there are too many values. -/
def writeSample? (t : Telemetry) (r : InstanceRef) (values : List (Option Value))
    (timestamp : Timestamp) : Option (Outcome Sample) :=
  (t.createPacket? r).bind fun
    | (.error e, t) => some (.error e, t)
    | (.ok p, t) =>
      match p.fill values with
      | .error e => some (.error e, t)
      | .ok p => t.writePacket? r p timestamp

/-! ### Series -/

/-- Computes a series under the given settings, which may differ from those of the
telemetry. -/
def query? (t : Telemetry) (r : InstanceRef) (settings : AggregationSettings)
    (q : Series.Query) : Option (Outcome (Series Float)) :=
  (t.instance? r).map fun (d, i) =>
    (Series.compute settings q d i,
      if Series.trendsColumn q d then t.withDefinition d.lock else t)

end Telemetry

end Metering
