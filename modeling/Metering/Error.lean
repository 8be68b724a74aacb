import Metering.Decimal.Layout
import Metering.Granularity

/-!
Everything that can be refused, by cause. `Error.message` words a cause for people,
`Error.category` groups causes for logs, and only a failed conversion of a single value is
recoverable.
-/

namespace Metering

open Metering.Time

/-- Why a time range or a granularity cannot be used. -/
inductive RangeFault where
  /-- An interval of zero units. -/
  | emptyInterval (unit : IntervalUnit)
  | reversed (start stop : Timestamp)
  /-- Neither bound is given, and there is no sample to take one from. -/
  | unbounded
  /-- The window that starts at `start` would end past the last instant. -/
  | overflow (granularity : Granularity) (start : Timestamp)
deriving DecidableEq, Repr

/-- Why settings cannot be used. -/
inductive SettingsFault where
  | zeroInterval
  | percentile (given : Float)
  /-- The document is malformed, or a field has an unusable value. -/
  | unreadable
deriving DecidableEq, Repr

/-- Why a settings file cannot be read. -/
inductive FileFault where
  | missing
  | directory
  /-- A step of the path goes on from something that is no directory. -/
  | notDirectory
  /-- The path, or a name in it, is too long. -/
  | tooLong
  /-- The path holds a null character. -/
  | nullCharacter
  | encoding
deriving DecidableEq, Repr

inductive Error where
  /-- A definition or instance of one kind was used as another. -/
  | incompatible (key existing requested : String)
  | duplicateColumn (definition column : String)
  | locked (definition : String)
  /-- No column has the name, or the position. -/
  | unknownColumn (definition column : String)
  | range (fault : RangeFault)
  /-- A value that should be trended is no number, and the policy is to fail. -/
  | coercion (column value : String)
  | duplicateSequence (sequence : Nat)
  | settings (fault : SettingsFault)
  | file (fault : FileFault)
deriving DecidableEq, Repr

def RangeFault.message : RangeFault → String
  | .emptyInterval unit =>
    "interval count must be at least 1 for " ++ Vocabulary.label unit ++ " granularity"
  | .reversed start stop => "start " ++ start.zoneText ++ " is after end " ++ stop.zoneText
  | .unbounded => "interval aggregation over an empty store needs an explicit start and end"
  | .overflow granularity start => granularity.text ++ " overflows after " ++ start.zoneText

def SettingsFault.message : SettingsFault → String
  | .zeroInterval => "min_millisecond_interval must be greater than 0"
  | .percentile given => "percentile must be in (0, 1], got " ++ Decimal.Layout.plain.write given
  | .unreadable => "Failed to parse YAML config"

def FileFault.message : FileFault → String
  | .missing => "No such file or directory (os error 2)"
  | .directory => "Is a directory (os error 21)"
  | .notDirectory => "Not a directory (os error 20)"
  | .tooLong => "File name too long (os error 36)"
  | .nullCharacter => "file name contained an unexpected NUL byte"
  | .encoding => "stream did not contain valid UTF-8"

namespace Error

def message : Error → String
  | .incompatible key existing requested =>
    "Incompatible definition for '" ++ key ++ "': registered as " ++ existing ++ ", requested "
      ++ requested
  | .duplicateColumn definition column =>
    "Duplicate value column '" ++ column ++ "' on definition '" ++ definition ++ "'"
  | .locked definition => "Definition is locked: " ++ definition
  | .unknownColumn definition column =>
    "Unknown value column '" ++ column ++ "' on definition '" ++ definition ++ "'"
  | .range fault => "Range error: " ++ fault.message
  | .coercion column value =>
    "Cannot convert value '" ++ value ++ "' of column '" ++ column ++ "' to a number"
  | .duplicateSequence sequence =>
    "Sequence number " ++ toString sequence ++ " is already present"
  | .settings fault => "Configuration error: " ++ fault.message
  | .file fault => "IO error: " ++ fault.message

def category : Error → String
  | .incompatible .. => "definition"
  | .duplicateColumn .. | .locked _ => "column"
  | .unknownColumn .. => "not_found"
  | .range _ => "validation"
  | .coercion .. => "coercion"
  | .duplicateSequence _ => "sequence"
  | .settings _ => "config"
  | .file _ => "io"

/-- The cause spoils one value only. -/
def isRecoverable : Error → Bool
  | .coercion .. => true
  | _ => false

end Error

end Metering
