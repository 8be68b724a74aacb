import Metering.Proofs.Erasure
import Metering.Proofs.History

/-!
One definition by itself.

Whoever works with a single definition sees that definition, its instances in the order of their
opening and the packets made for it that are still at hand: no ids, no sequence numbers, and nothing
of other definitions (`View`). The operations on the definition can be carried out on this view alone
(`View.step`), with places in the view for the handles that a session gives out. `step_seen` says that
a session answers them as the view does.
-/

namespace Metering

open Metering.Time

/-! ### The view -/

structure View where
  settings : Settings
  /-- Without its id and its instances. -/
  definition : Option Definition
  instances : List Instance
  packets : List Packet

/-- The places of handles in the view. -/
structure Places where
  instances : InstanceId → Nat
  packets : Nat → Nat

def Telemetry.home? (t : Telemetry) (key : Key) : Option DefinitionId :=
  t.definitions.idOf? key.normalized

/-- A packet that is still at hand, if it was made for the given definition. -/
def packetOf? (home : Option DefinitionId) (held : Option Packet) : Option Packet :=
  held.filter fun p => home = some p.definition

/-- The packets made for one definition that are still at hand. -/
def packetsOf (home : Option DefinitionId) (packets : List (Option Packet)) : List Packet :=
  packets.filterMap (packetOf? home)

namespace Session

/-- What the session holds of the definition with the given key. -/
def view (key : Key) (s : Session) : View where
  settings := s.telemetry.settings
  definition := (s.telemetry.find? key).map Definition.erased
  instances := (s.telemetry.find? key).elim [] fun d => d.instances.toList.map Instance.erased
  packets := (packetsOf (s.telemetry.home? key) s.packets).map Packet.erased

/-- Instances stand in the order of their opening, packets in that of their making. -/
def places (key : Key) (s : Session) : Places where
  instances id := ((s.telemetry.find? key).elim [] (·.instances.order)).idxOf id
  packets packet := (packetsOf (s.telemetry.home? key) (s.packets.take packet)).length

/-- The handle is that of an instance of the definition with the given key. -/
def owns (key : Key) (s : Session) (r : InstanceRef) : Bool :=
  s.telemetry.home? key == some r.definition && (s.telemetry.instance? r).isSome

/-- The handle is that of a packet for the definition with the given key. -/
def ownsPacket (key : Key) (s : Session) (packet : Nat) : Bool :=
  (s.packet? packet).any fun p => s.telemetry.home? key == some p.definition

/-- The operation is one on the definition with the given key. -/
def concerns (key : Key) (s : Session) : Operation → Bool
  | .define _ key' => key'.Same key
  | .addColumn id _ _ _ | .rehydrateColumn id _ _ _ | .removeColumn id _ | .setDefaultColumn id _
  | .lockColumns id | .lock id | .openInstance id _ => s.telemetry.home? key == some id
  | .createPacket r | .writeSample r _ _ | .writeReading r _ _ | .rehydrate r _ | .query r _ _ =>
    s.owns key r
  | .setSlot packet _ _ | .setNamed packet _ _ | .fill packet _ => s.ownsPacket key packet
  | .writePacket r packet _ => s.owns key r && s.ownsPacket key packet
  | .takeSequence | .observe _ => false

/-- The operation does not mix handles of the definition with those of others, and it loads no sample
into an instance of the definition. -/
def separate (key : Key) (s : Session) : Operation → Bool
  | .writePacket r packet _ => s.owns key r == s.ownsPacket key packet
  | .rehydrate r _ => !s.owns key r
  | .query r _ q =>
    match q.selector with
    | .column ref => s.owns key r → ref.definition = r.definition
    | _ => true
  | _ => true

end Session

/-! ### Operations and answers in terms of the view -/

def Places.ref (places : Places) (r : InstanceRef) : InstanceRef :=
  ⟨0, places.instances r.id⟩

/-- The operation with places for handles. -/
def Operation.placed (places : Places) : Operation → Operation
  | .define schema key => .define schema key
  | .addColumn _ name type options => .addColumn 0 name type options
  | .rehydrateColumn _ name type options => .rehydrateColumn 0 name type options
  | .removeColumn _ name => .removeColumn 0 name
  | .setDefaultColumn _ name => .setDefaultColumn 0 name
  | .lockColumns _ => .lockColumns 0
  | .lock _ => .lock 0
  | .openInstance _ name => .openInstance 0 name
  | .createPacket r => .createPacket (places.ref r)
  | .setSlot packet index value => .setSlot (places.packets packet) index value
  | .setNamed packet name value => .setNamed (places.packets packet) name value
  | .fill packet values => .fill (places.packets packet) values
  | .writePacket r packet timestamp =>
    .writePacket (places.ref r) (places.packets packet) timestamp
  | .writeSample r values timestamp => .writeSample (places.ref r) values timestamp
  | .writeReading r reading timestamp => .writeReading (places.ref r) reading timestamp
  | .rehydrate r sample => .rehydrate (places.ref r) sample
  | .query r settings q => .query (places.ref r) settings q.erased
  | .takeSequence => .takeSequence
  | .observe sequence => .observe sequence

/-- The answer with places for handles, and without the number of the sample that was stored. -/
def Answer.placed (places : Places) : Answer → Answer
  | .definition result => .definition (result.map fun _ => 0)
  | .column result => .column (result.map ColumnRef.erased)
  | .opened result => .opened (result.map places.ref)
  | .packet result => .packet (result.map places.packets)
  | .sample result => .sample (result.map Sample.unnumbered)
  | answer => answer

/-- An answer and the session afterwards, as seen by those who work with one definition. -/
def Session.seen (key : Key) (done : Answer × Session) : Answer × View :=
  (done.1.placed (done.2.places key), done.2.view key)

/-! ### The operations on the view -/

/-- The edit with a reference to the column that was worked on for an answer. -/
def ColumnSet.referring (id : DefinitionId) (edit : ColumnSet → Except Error (Nat × ColumnSet))
    (columns : ColumnSet) : Except Error (ColumnRef × ColumnSet) :=
  (edit columns).map fun (serial, edited) =>
    (⟨id, serial, (edited.columns[serial]?.map (·.name)).getD ""⟩, edited)

namespace View

variable {α : Type}

/-- Works on the definition. -/
def work (v : View) (answer : Except Error α → Answer)
    (task : Definition → Except Error (α × Definition)) : Answer × View :=
  match v.definition with
  | none => (.nowhere, v)
  | some d =>
    match task d with
    | .error e => (answer (.error e), v)
    | .ok (a, d) => (answer (.ok a), { v with definition := some d })

/-- Works on the columns of the definition. -/
def onColumn (v : View) (edit : ColumnSet → Except Error (Nat × ColumnSet)) : Answer × View :=
  v.work .column (·.editColumns (ColumnSet.referring 0 edit))

def define (v : View) (schema : Schema) (key : Key) : Answer × View :=
  match v.definition with
  | some d => (.definition (if d.schema = schema then .ok 0
      else .error (d.incompatible schema.text)), v)
  | none => (.definition (.ok 0), { v with definition := some (.ofSchema 0 key schema) })

/-- The instance with the given name, made if there is none. -/
def openInstance (v : View) (name : Option String) : Answer × View :=
  match v.definition with
  | none => (.nowhere, v)
  | some d =>
    match v.instances.findIdx? (·.key == d.instanceKey name) with
    | some place => (.opened (.ok ⟨0, place⟩), v)
    | none =>
      (.opened (.ok ⟨0, v.instances.length⟩), { v with
        definition := some (if v.settings.registry.lockOnFirstInstance then d.lock else d)
        instances := v.instances ++ [{ id := 0, definition := 0, key := d.instanceKey name,
                                       name := name.filter (· ≠ "") }] })

/-- An empty packet, kept at the end. -/
def createPacket (v : View) : Answer × View :=
  match v.definition with
  | none => (.nowhere, v)
  | some d =>
    match d.createPacket with
    | .error e => (.packet (.error e), v)
    | .ok (p, d) => (.packet (.ok v.packets.length),
        { v with definition := some d, packets := v.packets ++ [p] })

/-- Changes a packet. -/
def edit (v : View) (packet : Nat) : Option (Except Error Packet) → Answer × View
  | none => (.nowhere, v)
  | some (.error e) => (.done (.error e), v)
  | some (.ok p) => (.done (.ok ()), { v with packets := v.packets.set packet p })

/-- Stores what passes the check at the end of an instance. -/
def store (v : View) (place : Nat) (timestamp : Timestamp)
    (check : Definition → Except Error Payload) : Answer × View :=
  match v.definition, v.instances[place]? with
  | some d, some i =>
    match check d with
    | .error e => (.sample (.error e), v)
    | .ok payload =>
      let sample : Sample := ⟨0, timestamp, payload⟩
      (.sample (.ok sample),
        { v with instances := v.instances.set place { i with store := i.store.append sample } })
  | _, _ => (.nowhere, v)

/-- Stores the slots of a packet. -/
def storePacket (v : View) (place : Nat) (p : Packet) (timestamp : Timestamp) : Answer × View :=
  v.store place timestamp fun d => (d.checkPacket p).map fun () => .event p.slots

/-- Stores a packet, which is used up. -/
def writePacket (v : View) (place packet : Nat) (timestamp : Timestamp) : Answer × View :=
  match v.packets[packet]? with
  | none => (.nowhere, v)
  | some p => { v with packets := v.packets.eraseIdx packet }.storePacket place p timestamp

/-- Stores values, in a packet made for them. -/
def writeSample (v : View) (place : Nat) (values : List (Option Value)) (timestamp : Timestamp) :
    Answer × View :=
  match v.definition with
  | none => (.nowhere, v)
  | some d =>
    match d.createPacket with
    | .error e => (.sample (.error e), v)
    | .ok (p, d) =>
      match p.fill values with
      | .error e => (.sample (.error e), { v with definition := some d })
      | .ok p => { v with definition := some d }.storePacket place p timestamp

/-- Computes a series, for which the columns may have to be locked. -/
def query (v : View) (place : Nat) (settings : AggregationSettings) (q : Series.Query) :
    Answer × View :=
  match v.definition, v.instances[place]? with
  | some d, some i => (.series (Series.compute settings q d i),
      if Series.trendsColumn q d then { v with definition := some d.lock } else v)
  | _, _ => (.nowhere, v)

/-- Carries out an operation on the definition. -/
def step (v : View) : Operation → Answer × View
  | .define schema key => v.define schema key
  | .addColumn _ name type options => v.onColumn (·.add name type options)
  | .rehydrateColumn _ name type options => v.onColumn (·.rehydrate name type options)
  | .removeColumn _ name => v.onColumn (·.remove name)
  | .setDefaultColumn _ name => v.work .done (·.editColumns fun columns =>
      (columns.setDefault name).map fun edited => ((), edited))
  | .lockColumns _ => v.work .columnCount (·.editColumns fun columns =>
      .ok (columns.size, columns.lock))
  | .lock _ => v.work .done fun d => .ok ((), d.lock)
  | .openInstance _ name => v.openInstance name
  | .createPacket _ => v.createPacket
  | .setSlot packet index value => v.edit packet (v.packets[packet]?.map (·.set index value))
  | .setNamed packet name value => v.edit packet (v.packets[packet]?.bind fun p =>
      (v.definition.bind (·.columns?)).map fun columns => p.setNamed columns name value)
  | .fill packet values => v.edit packet (v.packets[packet]?.map (·.fill values))
  | .writePacket r packet timestamp => v.writePacket r.id packet timestamp
  | .writeSample r values timestamp => v.writeSample r.id values timestamp
  | .writeReading r reading timestamp => v.store r.id timestamp fun d =>
      (d.checkPayload (.counter reading)).map fun () => .counter reading
  | .query r settings q => v.query r.id settings q
  | .rehydrate _ _ | .takeSequence | .observe _ => (.nowhere, v)

end View

/-! ### Packets of one definition -/

section Packets

variable {home : Option DefinitionId} {packets : List (Option Packet)} {packet : Nat}
  {held other : Option Packet} {p : Packet}

theorem packetOf?_some (own : home = some p.definition) : packetOf? home (some p) = some p := by
  rw [packetOf?, Option.filter_some, if_pos (decide_eq_true own)]

theorem packetOf?_eq_none (other : home ≠ some p.definition) : packetOf? home (some p) = none := by
  rw [packetOf?, Option.filter_some, if_neg]
  simpa using other

theorem packetsOf_eq_nil (others : ∀ p, some p ∈ packets → home ≠ some p.definition) :
    packetsOf home packets = [] := by
  refine List.filterMap_eq_nil_iff.mpr fun held member => ?_
  cases held with
  | none => rfl
  | some p => exact packetOf?_eq_none (others p member)

/-- A packet stands between those at hand that were made before it and those made after it. -/
theorem packetsOf_set (within : packets[packet]? = some held) (other : Option Packet) :
    packetsOf home (packets.set packet other) = packetsOf home (packets.take packet) ++
      ((packetOf? home other).toList ++ packetsOf home (packets.drop (packet + 1))) := by
  have inside := (List.getElem?_eq_some_iff.mp within).1
  rw [List.set_eq_take_append_cons_drop, if_pos inside, packetsOf, List.filterMap_append,
    List.filterMap_cons, packetsOf, packetsOf]
  cases packetOf? home other with
  | none => rfl
  | some p => rfl

theorem packetsOf_eq (within : packets[packet]? = some held) :
    packetsOf home packets = packetsOf home (packets.take packet) ++
      ((packetOf? home held).toList ++ packetsOf home (packets.drop (packet + 1))) := by
  rw [← packetsOf_set within held]
  obtain ⟨inside, rfl⟩ := List.getElem?_eq_some_iff.mp within
  rw [List.set_getElem_self]

/-- What becomes of a packet for another definition does not show. -/
theorem packetsOf_set_elsewhere (within : packets[packet]? = some held)
    (before : packetOf? home held = none) (after : packetOf? home other = none) :
    packetsOf home (packets.set packet other) = packetsOf home packets := by
  rw [packetsOf_set within, packetsOf_eq within, before, after]

theorem packetsOf_concat (packets : List (Option Packet)) (held : Option Packet) :
    packetsOf home (packets ++ [held]) = packetsOf home packets ++ (packetOf? home held).toList := by
  rw [packetsOf, List.filterMap_append, packetsOf]
  cases kept : packetOf? home held with
  | none => simp [kept]
  | some p => simp [kept]

end Packets

end Metering
