import Metering.ColumnSet
import Metering.Sample

/-!
Packets: the slots of one event sample while they are being filled, by position, by column name,
or from the front. A packet has one slot for each column that its set had when the packet was
made; a column added later has no slot in it.
-/

namespace Metering

structure Packet where
  /-- The id of the definition whose columns the slots stand for. -/
  definition : Nat
  /-- The key of that definition, as messages show it. -/
  owner : String
  slots : List (Option Value)
deriving DecidableEq, Repr

namespace Packet

/-- A packet with an empty slot for every column. -/
def ofColumns (s : ColumnSet) : Packet :=
  ⟨s.definition, s.owner, List.replicate s.size none⟩

def size (p : Packet) : Nat :=
  p.slots.length

/-- The value in a slot, if there is one. -/
def get? (p : Packet) (index : Nat) : Option Value :=
  p.slots[index]?.join

/-- Fills a slot, or clears it. -/
def set (p : Packet) (index : Nat) (value : Option Value) : Except Error Packet :=
  if index < p.slots.length then .ok { p with slots := p.slots.set index value }
  else .error (.unknownColumn p.owner (toString index))

/-- Fills the slot of the column with the given name. -/
def setNamed (p : Packet) (columns : ColumnSet) (name : String) (value : Value) :
    Except Error Packet :=
  match columns.get name with
  | .error e => .error e
  | .ok (_, column) =>
    match column.index with
    | none => .error (.unknownColumn p.owner name)
    | some index => p.set index (some value)

/-- Fills slots from the front, clearing those whose value is absent. More values than slots
are refused. -/
def fill (p : Packet) (values : List (Option Value)) : Except Error Packet :=
  if values.length ≤ p.slots.length then
    .ok { p with slots := values ++ p.slots.drop values.length }
  else .error (.unknownColumn p.owner (toString p.slots.length))

end Packet

end Metering
