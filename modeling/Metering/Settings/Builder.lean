import Metering.Settings.Text

/-!
Building settings in layers. A change sets one field; a document or a file replaces everything set
before it, fields it does not mention by their defaults. What is built in the end is checked as a
whole, so a value that was overwritten on the way may have been unusable.
-/

namespace Metering.Settings

open Metering.Time

/-- One field set to a value. -/
inductive Change where
  | floor (d : Duration)
  | coercion (p : CoercionPolicy)
  | percentile (p : Float)
  | capacity (n : UInt64)
  | lockOnFirstInstance (b : Bool)
  | level (l : LogLevel)
deriving DecidableEq, Repr

def Change.apply (s : Settings) : Change → Settings
  | .floor d => { s with aggregation := { s.aggregation with floor := d } }
  | .coercion p => { s with aggregation := { s.aggregation with coercion := p } }
  | .percentile p => { s with aggregation := { s.aggregation with percentile := p } }
  | .capacity n => { s with registry := { s.registry with capacity := n } }
  | .lockOnFirstInstance b => { s with registry := { s.registry with lockOnFirstInstance := b } }
  | .level l => { s with logging := { s.logging with level := l } }

/-- What is found where a settings file is looked for. -/
inductive FileContent where
  /-- Nothing can be read there. -/
  | fault (f : FileFault)
  | bytes (content : ByteArray)

/-- One step of building settings. -/
inductive Layer where
  | change (c : Change)
  | document (text : String)
  | file (content : FileContent)

/-- The settings that a document gives on its own. -/
def ofDocument (text : String) : Except Error Settings :=
  match read? text with
  | some s => .ok s
  | none => .error (.settings .unreadable)

/-- The settings that a file gives on its own. -/
def ofFile : FileContent → Except Error Settings
  | .fault f => .error (.file f)
  | .bytes content =>
    match String.fromUTF8? content with
    | some text => ofDocument text
    | none => .error (.file .encoding)

def Layer.apply (s : Settings) : Layer → Except Error Settings
  | .change c => .ok (c.apply s)
  | .document text => ofDocument text
  | .file content => ofFile content

/-- The settings that the layers give, one after the other, starting from the defaults. -/
def layered (layers : List Layer) : Except Error Settings :=
  layers.foldlM Layer.apply {}

/-- The settings that the layers give, if they can be used. -/
def build (layers : List Layer) : Except Error Settings :=
  (layered layers).bind validate

end Metering.Settings
