import Metering.Error

/-!
Settings: how series are aggregated, how definitions are registered, and what is logged.
Every field has a default; `Settings.validate` refuses an interval floor of zero and a percentile
outside `(0, 1]`.
-/

namespace Metering

open Metering.Time

/-- Sixteen milliseconds. -/
def defaultFloor : Duration := ⟨16000000, by decide⟩

/-- How series are computed. -/
structure AggregationSettings where
  /-- The least width of a window given in milliseconds. -/
  floor : Duration := defaultFloor
  coercion : CoercionPolicy := .substituteZero
  /-- The percentile reported for a series. -/
  percentile : Float := 0.95
deriving DecidableEq, Repr

structure RegistrySettings where
  /-- How many definitions to make room for. -/
  capacity : UInt64 := 64
  /-- Whether the first instance of an event definition locks its columns. -/
  lockOnFirstInstance : Bool := true
deriving DecidableEq, Repr

structure LoggingSettings where
  level : LogLevel := .info
  threadIds : Bool := false
deriving DecidableEq, Repr

structure Settings where
  aggregation : AggregationSettings := {}
  registry : RegistrySettings := {}
  logging : LoggingSettings := {}
deriving DecidableEq, Repr

/-- The percentile lies in `(0, 1]`; a percentile that is not a number does not. -/
def isPercentile (p : Float) : Bool :=
  0 < p && p ≤ 1

/-- The settings, if they can be used. -/
def Settings.validate (s : Settings) : Except Error Settings :=
  if s.aggregation.floor.isZero then .error (.settings .zeroInterval)
  else if isPercentile s.aggregation.percentile then .ok s
  else .error (.settings (.percentile s.aggregation.percentile))

end Metering
