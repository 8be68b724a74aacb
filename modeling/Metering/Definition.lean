import Metering.Catalog
import Metering.Key
import Metering.Packet

/-!
Definitions and their instances.

A definition fixes what a metric measures: an event with value columns, or a counter sampled in
one of six ways. An instance is one series of samples under a definition; it is found by name,
and the instance without a name is the default instance. All instances of an event definition
share its column set.

An operation gives its answer along with the definition afterwards; one that is refused gives
neither, so a refusal never leaves a definition half changed.
-/

namespace Metering

open Metering.Time

abbrev DefinitionId := Nat

abbrev InstanceId := Nat

/-- What a definition is asked to measure. -/
inductive Schema where
  | event
  | counterSampled (type : SamplingType)
deriving DecidableEq, Repr

def Schema.kind : Schema → MetricKind
  | .event => .event
  | .counterSampled _ => .counterSampled

/-- How messages show a schema. -/
def Schema.text : Schema → String
  | .event => "event"
  | .counterSampled type => "counter-sampled(" ++ Vocabulary.label type ++ ")"

/-- One series of samples. -/
structure Instance where
  id : InstanceId
  definition : DefinitionId
  key : String
  /-- Absent for the default instance. -/
  name : Option String
  store : Store := {}

/-- What a definition measures, with its columns if it is an event. -/
inductive Body where
  | event (columns : ColumnSet)
  | counterSampled (type : SamplingType)

structure Definition where
  id : DefinitionId
  key : Key
  body : Body
  instances : Catalog Instance := ∅

namespace Definition

/-- A definition without columns and instances. -/
def ofSchema (id : DefinitionId) (key : Key) : Schema → Definition
  | .event => { id, key, body := .event { definition := id, owner := key.text } }
  | .counterSampled type => { id, key, body := .counterSampled type }

def schema (d : Definition) : Schema :=
  match d.body with
  | .event _ => .event
  | .counterSampled type => .counterSampled type

def kind (d : Definition) : MetricKind :=
  d.schema.kind

def columns? (d : Definition) : Option ColumnSet :=
  match d.body with
  | .event columns => some columns
  | .counterSampled _ => none

def samplingType? (d : Definition) : Option SamplingType :=
  match d.body with
  | .event _ => none
  | .counterSampled type => some type

/-- The definition exists, but as something else than what was requested. -/
def incompatible (d : Definition) (requested : String) : Error :=
  .incompatible d.key.text d.schema.text requested

/-! ### Columns -/

/-- The columns of an event definition. -/
def columns (d : Definition) : Except Error ColumnSet :=
  match d.columns? with
  | some columns => .ok columns
  | none => .error (d.incompatible MetricKind.event.text)

/-- The definition with other columns. -/
def withColumns (d : Definition) (columns : ColumnSet) : Definition :=
  match d.body with
  | .event _ => { d with body := .event columns }
  | .counterSampled _ => d

/-- Changes the columns of an event definition. -/
def editColumns {α : Type} (d : Definition) (edit : ColumnSet → Except Error (α × ColumnSet)) :
    Except Error (α × Definition) :=
  match d.columns with
  | .error e => .error e
  | .ok columns => (edit columns).map fun (answer, edited) => (answer, d.withColumns edited)

/-- Locks the columns, if there are any. -/
def lock (d : Definition) : Definition :=
  match d.columns? with
  | some columns => d.withColumns columns.lock
  | none => d

/-- The shape of samples can no longer change; that of a counter never can. -/
def isLocked (d : Definition) : Bool :=
  d.columns?.all (·.locked)

/-! ### Instances -/

/-- The text the instance with the given name is filed under. -/
def instanceKey (d : Definition) (name : Option String) : String :=
  Metering.instanceKey d.key.normalized name

/-- The instance with the given name. -/
def find? (d : Definition) (name : Option String) : Option Instance :=
  d.instances.find? (d.instanceKey name)

/-- Makes the instance with the given name, under the given id. The columns are locked first if
`lockFirst` says so. -/
def createInstance (d : Definition) (name : Option String) (id : InstanceId) (lockFirst : Bool) :
    Definition :=
  let d := if lockFirst then d.lock else d
  let key := d.instanceKey name
  let name := name.filter (· ≠ "")
  { d with instances := d.instances.insert id key { id, definition := d.id, key, name } }

/-- The definition with another store for one instance. -/
def withStore (d : Definition) (i : Instance) (store : Store) : Definition :=
  { d with instances := d.instances.set i.id { i with store } }

/-! ### Samples

The kind of an instance is that of its definition, and messages name that kind without the
sampling type. -/

/-- The instance holds samples of another kind than requested. -/
def refuses (d : Definition) (requested : String) : Error :=
  .incompatible d.key.text d.kind.text requested

/-- An empty packet for an instance of an event definition. Making a packet locks the
columns, as the shape of samples is fixed from then on. -/
def createPacket (d : Definition) : Except Error (Packet × Definition) :=
  match d.columns? with
  | none => .error (d.refuses MetricKind.event.text)
  | some columns =>
    let columns := if columns.locked then columns else columns.lock
    .ok (.ofColumns columns, d.withColumns columns)

/-- The packet was made for the columns of this definition. -/
def checkPacket (d : Definition) (p : Packet) : Except Error Unit :=
  match d.columns? with
  | none => .error (d.refuses MetricKind.event.text)
  | some _ =>
    if p.definition = d.id then .ok ()
    else .error (d.refuses ("packet for " ++ p.owner))

/-- Readings are stored only by a counter. -/
def checkPayload (d : Definition) (payload : Payload) : Except Error Unit :=
  if payload.kind = d.kind then .ok () else .error (d.refuses payload.kind.text)

/-- Stores a new sample under the given number. -/
def append (d : Definition) (i : Instance) (sequence : Nat) (timestamp : Timestamp)
    (payload : Payload) : Sample × Definition :=
  let sample : Sample := ⟨sequence, timestamp, payload⟩
  (sample, d.withStore i (i.store.append sample))

/-- Stores the slots of a packet as a new sample. -/
def writePacket (d : Definition) (i : Instance) (sequence : Nat) (p : Packet)
    (timestamp : Timestamp) : Except Error (Sample × Definition) :=
  (d.checkPacket p).map fun () => d.append i sequence timestamp (.event p.slots)

/-- Stores a reading as a new sample. -/
def writeReading (d : Definition) (i : Instance) (sequence : Nat) (reading : Reading Float)
    (timestamp : Timestamp) : Except Error (Sample × Definition) :=
  (d.checkPayload (.counter reading)).map fun () => d.append i sequence timestamp (.counter reading)

/-- Stores a sample that already has a number. -/
def rehydrate (d : Definition) (i : Instance) (sample : Sample) :
    Except Error (Sample × Definition) :=
  match d.checkPayload sample.payload with
  | .error e => .error e
  | .ok () => (i.store.rehydrate sample).map fun store => (sample, d.withStore i store)

end Definition

end Metering
