import Metering.Telemetry
import Metering.Text.Quoted

/-!
Diagnostic descriptions: the name of a structure followed by its fields in braces, texts quoted,
numbers in the diagnostic layout, and what may be absent as `Some(..)` or `None`.
-/

namespace Metering.Description

/-- A structure with named fields. -/
def record (name : String) (fields : List (String × String)) : String :=
  let shown := fields.map fun field => field.1 ++ ": " ++ field.2
  name ++ " \x7b " ++ ", ".intercalate shown ++ " \x7d"

/-- A constructor applied to one argument. -/
def applied (name argument : String) : String :=
  name ++ "(" ++ argument ++ ")"

def optional {α : Type} (describe : α → String) : Option α → String
  | some x => applied "Some" (describe x)
  | none => "None"

def list (items : List String) : String :=
  "[" ++ ", ".intercalate items ++ "]"

def truth (b : Bool) : String :=
  if b then "true" else "false"

def number (x : Float) : String :=
  Decimal.Layout.diagnostic.write x

def valueSet (s : Series.ValueSet Float) : String :=
  record "ValueSet" [
    ("len", toString s.size),
    ("min", optional (number ·.value) s.least),
    ("max", optional (number ·.value) s.greatest),
    ("average", number s.mean)]

def column (c : Column) : String :=
  record "ValueColumn" [
    ("name", Text.quote c.name),
    ("value_type", Vocabulary.label c.type),
    ("trendable", truth c.trendable),
    ("default_trend", Vocabulary.label c.trend),
    ("index", optional toString c.index)]

def columnSet (s : ColumnSet) : String :=
  record "ValueColumnSet" [
    ("definition", Text.quote s.owner),
    ("locked", truth s.locked),
    ("columns", list (s.toList.map column))]

def store (s : Store) : String :=
  record "SampleStore" [("len", toString s.size)]

def body : Body → String
  | .event columns =>
    applied "Event" (record "EventDefinition" [("columns", columnSet columns)])
  | .counterSampled type =>
    applied "CounterSampled"
      (record "SampledDefinition" [("sampling_type", Vocabulary.label type)])

def definition (d : Definition) : String :=
  record "MetricDefinition" [
    ("id", applied "DefinitionId" (toString d.id)),
    ("key", Text.quote d.key.text),
    ("payload", body d.body),
    ("instances", toString d.instances.size)]

/-- An instance of the given definition. -/
def inst (d : Definition) (i : Instance) : String :=
  record "MetricInstance" [
    ("id", applied "InstanceId" (toString i.id)),
    ("definition", Text.quote d.key.text),
    ("name", optional Text.quote i.name),
    ("kind", Vocabulary.label d.kind),
    ("samples", toString i.store.size)]

def registry (t : Telemetry) : String :=
  record "DefinitionRegistry" [
    ("definitions", toString t.definitions.size),
    ("sequence", toString t.lastSequence)]

end Metering.Description
