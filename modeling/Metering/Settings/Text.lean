import Metering.Decimal.Numeral
import Metering.Settings
import Metering.Document.Node
import Metering.Time.DurationText

/-!
Settings as text. The document has three sections, each with fields of its own; sections and fields
that are left out keep their defaults, and unknown ones are ignored.

`Settings.read?` reads a document, `Settings.written` writes one with every field in it.
-/

namespace Metering

open Metering.Time
open Metering.Document (Node Style hexValue?)

namespace Settings

/-! ### Scalars -/

/-- The text of a scalar, however it is written. -/
def scalarText? : Node → Option String
  | .scalar text _ _ => some text
  | _ => none

/-- The text of a scalar that can stand for a value of the given kind: a plain one, or a literal
one that is tagged with the kind. -/
def valueText? (kind : String) : Node → Option String
  | .scalar text .plain _ => some text
  | .scalar text .literal tag =>
    if tag == some ("tag:yaml.org,2002:" ++ kind) then some text else none
  | _ => none

/-- A scalar that stands for nothing. -/
def isNull (text : String) (style : Style) : Bool :=
  style == .plain && ["", "~", "null", "Null", "NULL"].contains text

/-- The name of a word: a tag of the document's own, with nothing after it, or the text of a
scalar. -/
def wordName? : Node → Option String
  | .scalar text style tag =>
    match tag.map String.toList with
    | some ('!' :: name) => if isNull text style then some (String.ofList name) else none
    | _ => some text
  | _ => none

/-- A word of a vocabulary. -/
def readWord? {α : Type} [Vocabulary α] (node : Node) : Option α :=
  (wordName? node).bind Vocabulary.ofName?

def readDuration? (node : Node) : Option Duration :=
  (scalarText? node).bind Duration.read?

def readTruth? (node : Node) : Option Bool :=
  match valueText? "bool" node with
  | some "true" | some "True" | some "TRUE" => some true
  | some "false" | some "False" | some "FALSE" => some false
  | _ => none

/-- Takes a leading plus sign away, which no further sign may follow. -/
def dropPlus? : List Char → Option (List Char)
  | '+' :: '+' :: _ | '+' :: '-' :: _ => none
  | '+' :: rest => some rest
  | cs => some cs

/-- A decimal number, or one of the words for infinity and for an undefined result. -/
def number? (text : String) : Option Float := do
  let unsigned ← dropPlus? text.toList
  if [".inf", ".Inf", ".INF"].contains (String.ofList unsigned) then some (1 / 0)
  else if ["-.inf", "-.Inf", "-.INF"].contains text then some (-1 / 0)
  else if [".nan", ".NaN", ".NAN"].contains text then some (0 / 0)
  else if unsigned.contains ',' then none
  else
    let numeral ← Decimal.Numeral.read? unsigned
    numeral.toFloat?

def readFloat? (node : Node) : Option Float :=
  (valueText? "float" node).bind number?

/-- The number that digits of the given base denote. -/
def natOfBase? (base : Nat) (cs : List Char) : Option Nat := do
  let values ← cs.mapM hexValue?
  if cs.isEmpty || values.any (base ≤ ·) then none
  else some (values.foldl (fun n d => base * n + d) 0)

/-- A whole number: decimal without leading zeros, or marked as hexadecimal, octal or
binary. -/
def natural? (text : String) : Option Nat := do
  let unsigned ← dropPlus? text.toList
  match unsigned with
  | '0' :: 'x' :: digits => natOfBase? 16 digits
  | '0' :: 'o' :: digits => natOfBase? 8 digits
  | '0' :: 'b' :: digits => natOfBase? 2 digits
  | ['0'] => some 0
  | '0' :: _ => none
  | digits => natOfBase? 10 digits

def readCapacity? (node : Node) : Option UInt64 := do
  let n ← (valueText? "int" node).bind natural?
  if n < UInt64.size then some n.toUInt64 else none

/-! ### Sections -/

/-- The entries of a section by name, as they stand for themselves or for other nodes of the
document. A section without content has none; names are scalars. -/
def fieldsOf? (root node : Node) : Option (List (String × Node)) :=
  match root.resolve node with
  | .map entries => entries.mapM fun (key, value) =>
    (scalarText? (root.resolve key)).map (·, root.resolve value)
  | .scalar "" .plain _ => some []
  | _ => none

/-- Reads the field with the given name, which keeps its default when it is left out and must
not be given twice. -/
def field? {α : Type} (fields : List (String × Node)) (name : String) (read : Node → Option α)
    (default : α) : Option α :=
  match fields.filter (·.1 == name) with
  | [] => some default
  | [(_, node)] => read node
  | _ => none

def readAggregation? (root node : Node) : Option AggregationSettings := do
  let fields ← fieldsOf? root node
  let default : AggregationSettings := {}
  let floor ← field? fields "min_millisecond_interval" readDuration? default.floor
  let coercion ← field? fields "coercion" readWord? default.coercion
  let percentile ← field? fields "percentile" readFloat? default.percentile
  some { floor, coercion, percentile }

def readRegistry? (root node : Node) : Option RegistrySettings := do
  let fields ← fieldsOf? root node
  let default : RegistrySettings := {}
  let capacity ← field? fields "initial_capacity" readCapacity? default.capacity
  let lockOnFirstInstance ←
    field? fields "lock_on_first_instance" readTruth? default.lockOnFirstInstance
  some { capacity, lockOnFirstInstance }

def readLogging? (root node : Node) : Option LoggingSettings := do
  let fields ← fieldsOf? root node
  let default : LoggingSettings := {}
  let level ← field? fields "level" readWord? default.level
  let threadIds ← field? fields "with_thread_ids" readTruth? default.threadIds
  some { level, threadIds }

/-- The settings that the document with the given root gives. -/
def ofNode? (root : Node) : Option Settings := do
  let sections ← fieldsOf? root root
  let aggregation ← field? sections "aggregation" (fun node => readAggregation? root node) {}
  let registry ← field? sections "registry" (fun node => readRegistry? root node) {}
  let logging ← field? sections "logging" (fun node => readLogging? root node) {}
  some { aggregation, registry, logging }

/-- Reads a settings document. -/
def read? (text : String) : Option Settings :=
  (Document.read? text).bind ofNode?

/-! ### Writing -/

def truthText (b : Bool) : String :=
  if b then "true" else "false"

/-- The settings as a document, every section and every field in order. -/
def written (s : Settings) : String :=
  "aggregation:\n"
    ++ "  min_millisecond_interval: " ++ s.aggregation.floor.text ++ "\n"
    ++ "  coercion: " ++ Vocabulary.name s.aggregation.coercion ++ "\n"
    ++ "  percentile: " ++ Decimal.Layout.document.write s.aggregation.percentile ++ "\n"
    ++ "registry:\n"
    ++ "  initial_capacity: " ++ toString s.registry.capacity.toNat ++ "\n"
    ++ "  lock_on_first_instance: " ++ truthText s.registry.lockOnFirstInstance ++ "\n"
    ++ "logging:\n"
    ++ "  level: " ++ Vocabulary.name s.logging.level ++ "\n"
    ++ "  with_thread_ids: " ++ truthText s.logging.threadIds ++ "\n"

end Settings

end Metering
