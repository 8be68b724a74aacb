import Metering.Proofs.Numbering
import Metering.Proofs.Revision

/-!
Column sets over whole runs.

Every set that a run comes to is consistent, as each operation keeps it so (`Telemetry.Sound`,
`step_sound`). From the moment it is locked a set only grows, by the stored columns that are loaded
and in the order in which they are (`run_extends`).
-/

namespace Metering

open Metering.Time

/-! ### What holds between operations -/

/-- Everything is filed under its id, and every column set is consistent. -/
structure Telemetry.Sound (t : Telemetry) : Prop where
  filed : t.Filed
  columns : ∀ {id : DefinitionId} {d : Definition} {s : ColumnSet},
    t.definition? id = some d → d.columns? = some s → s.Consistent

/-- The columns of a definition are shown under its key in messages. -/
def Telemetry.Owned (t : Telemetry) : Prop :=
  ∀ id d s, t.definition? id = some d → d.columns? = some s → s.owner = d.key.text

/-- The serial numbers of the stored columns that a run loaded into a definition. -/
def loadedColumns (id : DefinitionId) (past : List Entry) : List Nat :=
  past.filterMap (Entry.loadedColumn? id)

section Step

variable {e : Entry} {id : DefinitionId} {s s' : ColumnSet}

theorem loadedColumns_append (past : List Entry) (e : Entry) :
    loadedColumns id (past ++ [e]) = loadedColumns id past ++ (e.loadedColumn? id).toList := by
  rw [loadedColumns, List.filterMap_append, loadedColumns]
  cases loaded : e.loadedColumn? id with
  | none => simp [loaded]
  | some serial => simp [loaded]

theorem ColumnStep.consistent (step : ColumnStep e id s s') (consistent : s.Consistent) :
    s'.Consistent := by
  cases step with
  | edits _ edit => exact edit.consistent consistent
  | loads _ done => exact consistent.rehydrate done

/-- Of a locked set, one operation leaves everything as it was but for the column it loads. -/
theorem ColumnStep.extends (step : ColumnStep e id s s') (consistent : s.Consistent)
    (locked : s.locked = true) : s.Extends s' (e.loadedColumn? id).toList := by
  cases step with
  | edits nothing edit =>
      rw [nothing, edit.eq_of_locked consistent locked]
      exact .refl s
  | loads loaded done =>
      rw [loaded]
      exact ColumnSet.extends_of_rehydrate done

theorem ColumnStep.owner (step : ColumnStep e id s s') : s'.owner = s.owner := by
  cases step with
  | edits _ edit => exact edit.owner
  | @loads name type options serial _ done =>
      obtain ⟨column, -, same⟩ := ColumnSet.rehydrate_eq_append s name type options
      obtain ⟨-, -, rfl⟩ := ColumnSet.append_eq_ok (same ▸ done)
      rfl

end Step

/-- A column that a query asks for is one of the set. -/
theorem ColumnSet.Consistent.mem_of_resolve {d : Definition} {s : ColumnSet}
    (consistent : s.Consistent) (event : d.columns? = some s) {selector : Series.Selector} {serial : Nat}
    (resolved : Series.resolve d selector = .ok (some serial)) : serial ∈ s.order := by
  unfold Series.resolve at resolved
  rw [event] at resolved
  cases selector with
  | occurrences => cases resolved
  | default => exact consistent.default (Except.ok.inj resolved)
  | named name =>
      cases named : s.serialOf? name with
      | none => simp [ColumnSet.get, named, Except.map] at resolved
      | some there =>
          cases held : s.columns[there]? with
          | none => simp [ColumnSet.get, named, held, Except.map] at resolved
          | some column =>
              obtain rfl : there = serial := by
                simpa [ColumnSet.get, named, held, Except.map] using resolved
              exact (consistent.named.mp named).1
  | column ref =>
      by_cases contained : s.contains ref = true
      · simp only [contained, if_true, Except.ok.injEq, Option.some.injEq] at resolved
        obtain ⟨-, named⟩ := Bool.and_eq_true_iff.mp contained
        rw [← resolved]
        exact (consistent.named.mp (eq_of_beq named)).1
      · simp [contained] at resolved

theorem Telemetry.Revises.owned {edit : DefinitionId → ColumnSet → ColumnSet → Prop}
    {t t' : Telemetry} (revises : t.Revises edit t')
    (keeps : ∀ {id s s'}, edit id s s' → s'.owner = s.owner) (owned : t.Owned) : t'.Owned := by
  intro id d' s' found event
  cases before : t.definition? id with
  | none =>
      obtain ⟨key, schema, made⟩ := revises.new before found
      obtain ⟨s, columns, rfl⟩ := made.columns?_before event
      rw [made.key]
      cases schema with
      | event =>
          obtain rfl := Option.some.inj columns
          rfl
      | counterSampled type => cases columns
  | some d =>
      obtain ⟨d'', found', revised⟩ := revises.kept before
      obtain rfl : d'' = d' := Option.some.inj (found'.symm.trans found)
      obtain ⟨s, columns, edited⟩ := revised.columns?_before event
      rw [keeps edited, owned id d s before columns, revised.key]

/-! ### Whole runs -/

namespace Session

variable {s : Session} {settings : Settings} {lastSequence : Nat} {id : DefinitionId}
  {d : Definition} {columns : ColumnSet}

theorem step_sound (sound : s.telemetry.Sound) (operation : Operation) :
    (s.step operation).2.telemetry.Sound :=
  ⟨(step_effect sound.filed operation).filed,
    (step_revises sound.filed operation).forall_columns (fun _ => ColumnSet.Consistent)
      (fun id key => ColumnSet.consistent_empty id key.text) ColumnStep.consistent sound.columns⟩

theorem sound_create (created : create settings lastSequence = .ok s) : s.telemetry.Sound := by
  refine ⟨(numbered_create created).filed, fun found _ => ?_⟩
  rw [definition?_create created] at found
  cases found

theorem run_sound (sound : s.telemetry.Sound) (operations : List Operation) :
    (s.run operations).telemetry.Sound :=
  run_keeps (fun s => s.telemetry.Sound) (fun operation sound => step_sound sound operation) sound
    operations

theorem run_owned (created : create settings lastSequence = .ok s) (operations : List Operation) :
    (s.run operations).telemetry.Owned := by
  have begun : s.telemetry.Owned := by
    intro id d columns found
    rw [definition?_create created] at found
    cases found
  have whole := run_keeps (fun s => s.telemetry.Sound ∧ s.telemetry.Owned)
    (fun operation ⟨sound, owned⟩ => ⟨step_sound sound operation,
      (step_revises sound.filed operation).owned ColumnStep.owner owned⟩)
    ⟨sound_create created, begun⟩ operations
  exact whole.2

/-- From the moment it is locked, a set only grows at its end, by the columns that are loaded. -/
theorem run_extends (sound : s.telemetry.Sound) (found : s.telemetry.definition? id = some d)
    (event : d.columns? = some columns) (locked : columns.locked = true)
    (operations : List Operation) :
    ∃ d' columns', (s.run operations).telemetry.definition? id = some d' ∧
      d'.columns? = some columns' ∧
      columns.Extends columns' (loadedColumns id (s.record operations)) := by
  have begun : columns.Extends columns (loadedColumns id []) := .refl columns
  have whole := run_induction
    (fun past s => s.telemetry.Sound ∧ ∃ d' columns', s.telemetry.definition? id = some d' ∧
      d'.columns? = some columns' ∧ columns.Extends columns' (loadedColumns id past))
    (fun {past s} operation ⟨sound, d', columns', found, event, grown⟩ => by
      refine ⟨step_sound sound operation, ?_⟩
      obtain ⟨d'', found', revised⟩ := (step_revises sound.filed operation).kept found
      obtain ⟨columns'', event', step⟩ := revised.columns? event
      refine ⟨d'', columns'', found', event', ?_⟩
      rw [loadedColumns_append]
      exact grown.trans (step.extends (sound.columns found event) (grown.locked.trans locked)))
    ⟨sound, d, columns, found, event, begun⟩ operations
  exact whole.2

/-- **Column sets over a run.** The views of every set agree. In a locked set the position of a
column is its place, every column that can be asked for has one, and whatever is done later the
columns stay as they are, with those that are loaded after them. -/
theorem run_columns (created : create settings lastSequence = .ok s) (operations : List Operation)
    (found : (s.run operations).telemetry.definition? id = some d)
    (event : d.columns? = some columns) :
    columns.Consistent ∧
    (columns.locked = true →
      (∀ {i serial : Nat}, columns.order[i]? = some serial →
        ∃ column, columns.getIndex i = .ok column ∧ columns.columns[serial]? = some column ∧
          column.index = some i) ∧
      (∀ {selector : Series.Selector} {serial : Nat},
        Series.resolve d selector = .ok (some serial) →
        ∃ column i, columns.columns[serial]? = some column ∧ column.index = some i ∧
          columns.order[i]? = some serial) ∧
      ∀ later : List Operation, ∃ d' columns',
        ((s.run operations).run later).telemetry.definition? id = some d' ∧
        d'.columns? = some columns' ∧
        columns.Extends columns' (loadedColumns id ((s.run operations).record later))) := by
  have sound := run_sound (sound_create created) operations
  have consistent := sound.columns found event
  refine ⟨consistent, fun locked => ⟨?_, ?_, run_extends sound found event locked⟩⟩
  · intro i serial listed
    obtain ⟨column, held, position⟩ := consistent.exists_at locked listed
    have found := (consistent.getIndex_eq_ok_iff locked).mpr ⟨serial, listed, held⟩
    exact ⟨column, found, held, position⟩
  · intro selector serial resolved
    obtain ⟨i, listed⟩ := List.mem_iff_getElem?.mp (consistent.mem_of_resolve event resolved)
    obtain ⟨column, held, position⟩ := consistent.exists_at locked listed
    exact ⟨column, i, held, position, listed⟩

/-- An event whose first column was removed, and whose other two an instance locked. -/
def removedColumn : List Operation :=
  [.define .event ⟨"web", "http", "requests"⟩, .addColumn 0 "Method" .text {},
   .addColumn 0 "Status" .int {}, .addColumn 0 "Latency" .float {},
   .setDefaultColumn 0 "LATENCY", .removeColumn 0 "method", .openInstance 0 none]

/-- The default column keeps its position while stored columns, one of them under the name of the
removed one, are loaded after it. -/
theorem run_columns_removedColumn :
    let s : Session := ⟨{}, []⟩
    let later : List Operation :=
      [.rehydrateColumn 0 "method" .text {}, .addColumn 0 "Size" .int {},
       .rehydrateColumn 0 "status" .int {}, .rehydrateColumn 0 "Bytes" .int {}]
    create {} 0 = .ok s ∧
    ∃ d columns, (s.run removedColumn).telemetry.definition? 0 = some d ∧
      d.columns? = some columns ∧ columns.locked = true ∧ columns.order = [1, 2] ∧
      (∃ column, columns.columns[2]? = some column ∧ column.index = some 1) ∧
      (∃ column, columns.getIndex 0 = .ok column ∧ column.index = some 0) ∧
      ∃ d' columns', ((s.run removedColumn).run later).telemetry.definition? 0 = some d' ∧
        d'.columns? = some columns' ∧ columns.Extends columns' [3, 4] := by
  intro s later
  have created : create {} 0 = .ok s := rfl
  have seen : (((s.run removedColumn).telemetry.definition? 0).bind (·.columns?)).map
      (fun columns => (columns.locked, columns.order, columns.default)) =
        some (true, [1, 2], some 2) := by decide +kernel
  have loaded : loadedColumns 0 ((s.run removedColumn).record later) = [3, 4] := by decide +kernel
  obtain ⟨columns, held, views⟩ := Option.map_eq_some_iff.mp seen
  obtain ⟨d, found, event⟩ := Option.bind_eq_some_iff.mp held
  obtain ⟨locked, order, default⟩ : columns.locked = true ∧ columns.order = [1, 2] ∧
      columns.default = some 2 := by simpa using views
  obtain ⟨-, whenLocked⟩ := run_columns created removedColumn found event
  obtain ⟨places, resolved, extended⟩ := whenLocked locked
  have status : columns.order[0]? = some 1 := by rw [order]; rfl
  have latency : Series.resolve d .default = .ok (some 2) := by
    rw [Series.resolve, event, ← default]
  obtain ⟨first, at_first, -, position⟩ := places status
  obtain ⟨trended, i, trended_held, trended_index, listed⟩ := resolved latency
  obtain rfl : i = 1 := by
    rw [order] at listed
    match i, listed with
    | 1, _ => rfl
  have grown := extended later
  rw [loaded] at grown
  exact ⟨created, d, columns, found, event, locked, order, ⟨trended, trended_held, trended_index⟩,
    ⟨first, at_first, position⟩, grown⟩

end Session

end Metering
