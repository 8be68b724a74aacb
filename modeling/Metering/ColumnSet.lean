import Metering.Error
import Metering.Text.Casing
import Std.Data.TreeMap

/-!
The value columns of an event definition. A set starts open: columns are added, removed and
nominated as the default. Locking gives every column its position among the slots of a sample;
from then on columns come only from stored definitions, at the end.

Columns are compared by folded name. A column is addressed by a serial number that is never
reused, so a reference to a removed column still says which column it was.
-/

namespace Metering

/-- What a new column may say about itself beyond its name and type. -/
structure ColumnOptions where
  caption : Option String := none
  description : Option String := none
  unit : Option String := none
  trendable : Option Bool := none
  trend : Option Trend := none
deriving DecidableEq, Repr

/-- One named, typed field of an event. -/
structure Column where
  name : String
  type : ValueType
  trendable : Bool
  trend : Trend
  caption : String
  description : Option String
  unit : Option String
  /-- The position among the slots of a sample, once the set is locked. -/
  index : Option Nat
deriving DecidableEq, Repr

/-- A column without a position. What the options leave open follows from the type, and the
caption is the name. -/
def Column.ofOptions (name : String) (type : ValueType) (options : ColumnOptions) : Column where
  name := name
  type := type
  trendable := options.trendable.getD type.isTrendable
  trend := options.trend.getD type.defaultTrend
  caption := options.caption.getD name
  description := options.description
  unit := options.unit
  index := none

/-- A reference to a column. The name of a column never changes, so the reference holds it. -/
structure ColumnRef where
  definition : Nat
  serial : Nat
  name : String
deriving DecidableEq, Repr

structure ColumnSet where
  /-- The id of the definition the set belongs to. -/
  definition : Nat
  /-- The key of that definition, as messages show it. -/
  owner : String
  locked : Bool := false
  /-- Every column ever accepted; the place in the array is the serial number. -/
  columns : Array Column := #[]
  /-- The serial numbers of the present columns in the order of their arrival. -/
  order : List Nat := []
  /-- The serial numbers of the present columns by folded name. -/
  byName : Std.TreeMap String Nat := ∅
  /-- The column trended when a query asks for the default. -/
  default : Option Nat := none

namespace ColumnSet

def size (s : ColumnSet) : Nat :=
  s.order.length

/-- The reference to the column with the given serial number. -/
def ref? (s : ColumnSet) (serial : Nat) : Option ColumnRef :=
  s.columns[serial]?.map fun c => ⟨s.definition, serial, c.name⟩

/-- The present columns in order. -/
def toList (s : ColumnSet) : List Column :=
  s.order.filterMap fun serial => s.columns[serial]?

/-- The column with the given name, present in the set. -/
def serialOf? (s : ColumnSet) (name : String) : Option Nat :=
  s.byName[Text.fold name]?

/-- The reference is to a column present in the set. -/
def contains (s : ColumnSet) (r : ColumnRef) : Bool :=
  r.definition == s.definition && s.serialOf? r.name == some r.serial

/-- A column that a name, a position or a reference was meant to select is not there. -/
def unknown (s : ColumnSet) (column : String) : Error :=
  .unknownColumn s.owner column

/-- Puts a new column at the end, under a name that is still free. -/
def append (s : ColumnSet) (column : Column) : Except Error (Nat × ColumnSet) :=
  match s.serialOf? column.name with
  | some _ => .error (.duplicateColumn s.owner column.name)
  | none =>
    let serial := s.columns.size
    .ok (serial, { s with
      columns := s.columns.push column
      order := s.order ++ [serial]
      byName := s.byName.insert (Text.fold column.name) serial })

/-- Adds a column to an open set. -/
def add (s : ColumnSet) (name : String) (type : ValueType) (options : ColumnOptions) :
    Except Error (Nat × ColumnSet) :=
  if s.locked then .error (.locked s.owner)
  else s.append (.ofOptions name type options)

/-- Adds a column of a stored definition, also to a locked set, where it gets the next
position at once. -/
def rehydrate (s : ColumnSet) (name : String) (type : ValueType) (options : ColumnOptions) :
    Except Error (Nat × ColumnSet) :=
  let column := Column.ofOptions name type options
  s.append { column with index := if s.locked then some s.order.length else none }

/-- Takes a column out of an open set. -/
def remove (s : ColumnSet) (name : String) : Except Error (Nat × ColumnSet) :=
  if s.locked then .error (.locked s.owner)
  else match s.serialOf? name with
    | none => .error (s.unknown name)
    | some serial =>
      .ok (serial, { s with
        order := s.order.filter (· != serial)
        byName := s.byName.erase (Text.fold name)
        default := if s.default = some serial then none else s.default })

/-- Closes the set: the position of every present column is its place in the order. Locking
a locked set changes nothing. -/
def lock (s : ColumnSet) : ColumnSet :=
  { s with
    locked := true
    columns := s.columns.mapIdx fun serial column =>
      match s.order.idxOf? serial with
      | some index => { column with index := some index }
      | none => column }

/-- Nominates the default column of an open set. -/
def setDefault (s : ColumnSet) (name : String) : Except Error ColumnSet :=
  if s.locked then .error (.locked s.owner)
  else match s.serialOf? name with
    | none => .error (s.unknown name)
    | some serial => .ok { s with default := some serial }

/-- The serial number and the column with the given name. -/
def get (s : ColumnSet) (name : String) : Except Error (Nat × Column) :=
  match s.serialOf? name with
  | none => .error (s.unknown name)
  | some serial =>
    match s.columns[serial]? with
    | none => .error (s.unknown name)
    | some column => .ok (serial, column)

/-- The column at the given position of a locked set. -/
def getIndex (s : ColumnSet) (index : Nat) : Except Error Column :=
  let missing := s.unknown (toString index)
  if !s.locked then .error missing
  else match s.order[index]? with
    | none => .error missing
    | some serial =>
      match s.columns[serial]? with
      | none => .error missing
      | some column => .ok column

end ColumnSet

end Metering
