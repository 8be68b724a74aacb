import Mathlib.Data.List.Induction
import Metering.Series.ValueSet

/-!
What is done with a set of values in the course of time.

Values are added, and between them the set is read. Most readings look at a field and leave the set
as it is; asking for the percentile leaves the answer behind, and nothing else (`reported_snd`). So
what holds of an empty set and is kept by these two operations holds after every course of them
(`run_rule`), and the entries are the values that were added, counted from one (`entries_run`).
-/

namespace Metering.Series

open Metering.Time

variable {ν : Type}

/-- What is done with a set of values: one is added, or the percentile is asked for. -/
inductive Use (ν : Type) where
  | add (timestamp : Timestamp) (value : ν)
  | ask
deriving DecidableEq, Repr

def Use.added? : Use ν → Option (Timestamp × ν)
  | .add timestamp value => some (timestamp, value)
  | .ask => none

/-- The values that were added, with their timestamps, in order. -/
def added (uses : List (Use ν)) : List (Timestamp × ν) :=
  uses.filterMap Use.added?

/-- The entries of the values, counted from one. -/
def entriesOf (values : List (Timestamp × ν)) : List (Entry ν) :=
  values.mapIdx fun place value => ⟨place + 1, value.1, value.2⟩

namespace ValueSet

variable [Arithmetic ν]

def use (s : ValueSet ν) : Use ν → ValueSet ν
  | .add timestamp value => s.add timestamp value
  | .ask => s.reported.2

def run (s : ValueSet ν) (uses : List (Use ν)) : ValueSet ν :=
  uses.foldl use s

/-- Asking for the percentile leaves the answer behind, and nothing else. -/
theorem reported_snd (s : ValueSet ν) :
    s.reported.2 = { s with lookedUp := some s.reported.1 } := by
  unfold reported
  cases known : s.lookedUp with
  | some answer => simp only [← known]
  | none => rfl

/-- A rule for what is done with a set: `inv` relates the values added so far to the set. -/
theorem run_rule (inv : List (Timestamp × ν) → ValueSet ν → Prop) {percentile : Float}
    (empty : inv [] (.empty percentile))
    (add : ∀ {values s} timestamp value, inv values s →
      inv (values ++ [(timestamp, value)]) (s.add timestamp value))
    (ask : ∀ {values s}, inv values s → inv values s.reported.2) (uses : List (Use ν)) :
    inv (added uses) ((ValueSet.empty percentile).run uses) := by
  induction uses using List.reverseRecOn with
  | nil => exact empty
  | append_singleton earlier last ih =>
      rw [run, List.foldl_append, added, List.filterMap_append]
      cases last with
      | add timestamp value => exact add timestamp value ih
      | ask =>
          rw [List.filterMap_cons_none rfl, List.filterMap_nil, List.append_nil]
          exact ask ih

theorem toList_entries_add (s : ValueSet ν) (timestamp : Timestamp) (value : ν) :
    (s.add timestamp value).entries.toList =
      s.entries.toList ++ [⟨s.entries.size + 1, timestamp, value⟩] := by
  simp [add]

/-- The values are those that were added, in order, counted from one. -/
theorem entries_run (percentile : Float) (uses : List (Use ν)) :
    ((ValueSet.empty percentile).run uses).entries.toList = entriesOf (added uses) := by
  refine run_rule (fun values s => s.entries.toList = entriesOf values) rfl ?_ ?_ uses
  · intro values s timestamp value same
    have counted : s.entries.size = values.length := by
      rw [← Array.length_toList, same, entriesOf, List.length_mapIdx]
    rw [toList_entries_add, same, counted, entriesOf, entriesOf, List.mapIdx_concat]
  · intro values s same
    rw [reported_snd]
    exact same

theorem percentile_run (percentile : Float) (uses : List (Use ν)) :
    ((ValueSet.empty percentile : ValueSet ν).run uses).percentile = percentile := by
  refine run_rule (fun _ s => s.percentile = percentile) rfl ?_ ?_ uses
  · exact fun _ _ same => same
  · intro _ s same
    rw [reported_snd]
    exact same

theorem numbers_run (percentile : Float) (uses : List (Use ν)) :
    ((ValueSet.empty percentile).run uses).numbers = (added uses).map (·.2) := by
  rw [numbers, entries_run, entriesOf]
  refine List.ext_getElem (by simp) fun place _ _ => ?_
  rw [List.getElem_map, List.getElem_mapIdx, List.getElem_map]

end ValueSet

end Metering.Series
