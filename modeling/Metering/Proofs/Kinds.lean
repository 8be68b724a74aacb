import Metering.Proofs.Change
import Metering.Proofs.Registry
import Metering.Proofs.Series.CounterSeries
import Metering.Proofs.Shape

/-!
Everything under a definition is of its kind.

A definition says whether its samples are events or readings, and every way in which a sample enters
checks that: writing values or a packet, writing a reading, loading a stored sample. So the samples
of every instance are of the kind of the definition that the instance belongs to
(`Definition.Uniform`), a packet is accepted only where it was made (`Session.Issued`), and a window
of a counter has a reading in each of its samples. `run_oneKind` puts this together for whole runs.
-/

namespace Metering

open Metering.Time Metering.Series

/-- The instances belong to the definition, and hold samples of its kind. -/
structure Definition.Uniform (d : Definition) : Prop where
  owner : ∀ {id : InstanceId} {i : Instance}, d.instances.get? id = some i → i.definition = d.id
  kind : ∀ {id : InstanceId} {i : Instance}, d.instances.get? id = some i →
    ∀ sample ∈ i.store.samples, sample.payload.kind = d.kind

/-- So it is with every definition. -/
def Telemetry.Uniform (t : Telemetry) : Prop :=
  ∀ id d, t.definition? id = some d → d.Uniform

namespace Definition

variable {d d' : Definition} {before : Option Definition} {i : Instance} {sample : Sample}

theorem schema_eq_of_label (same : d'.label = d.label) : d'.schema = d.schema :=
  congrArg (fun label => label.rest.2) same

theorem kind_eq_of_label (same : d'.label = d.label) : d'.kind = d.kind :=
  congrArg Schema.kind (schema_eq_of_label same)

theorem Uniform.recolumned (uniform : d.Uniform) (recolumned : d.Recolumned d') : d'.Uniform := by
  constructor
  · intro id i found
    rw [recolumned.instances] at found
    rw [recolumned.id]
    exact uniform.owner found
  · intro id i found
    rw [recolumned.instances] at found
    rw [recolumned.kind]
    exact uniform.kind found

theorem Uniform.createInstance (uniform : d.Uniform) (name : Option String) (new : InstanceId)
    (lockFirst : Bool) : (d.createInstance name new lockFirst).Uniform := by
  have kind : (d.createInstance name new lockFirst).kind = d.kind :=
    kind_eq_of_label (label_createInstance d name new lockFirst)
  constructor
  · intro id i found
    rw [get?_createInstance] at found
    rw [id_createInstance]
    by_cases here : new = id
    · rw [if_pos here] at found
      obtain rfl := Option.some.inj found
      rfl
    · rw [if_neg here] at found
      exact uniform.owner found
  · intro id i found
    rw [get?_createInstance] at found
    rw [kind]
    by_cases here : new = id
    · rw [if_pos here] at found
      obtain rfl := Option.some.inj found
      exact fun sample member => nomatch member
    · rw [if_neg here] at found
      exact uniform.kind found

theorem Uniform.fills (uniform : d.Uniform) (found : d.instances.get? i.id = some i)
    (fills : d.Fills i sample d') : d'.Uniform := by
  obtain ⟨store, kind, placed⟩ := fills
  have there : ∀ {id other}, (d.withStore i store).instances.get? id = some other →
      other = { i with store } ∨ d.instances.get? id = some other := by
    intro id other found'
    rw [withStore, Catalog.get?_set] at found'
    by_cases here : i.id = id
    · rw [if_pos here] at found'
      exact .inl (Option.some.inj found').symm
    · rw [if_neg here] at found'
      exact .inr found'
  constructor
  · intro id other found'
    rcases there found' with rfl | before
    · have owned : i.definition = d.id := uniform.owner found
      exact owned
    · exact uniform.owner before
  · intro id other found'
    rcases there found' with rfl | before
    · intro held member
      rcases placed held member with rfl | earlier
      · exact kind
      · exact uniform.kind found held earlier
    · exact uniform.kind before

theorem Change.uniform (change : Change before d') (holds : ∀ d, before = some d → d.Uniform) :
    d'.Uniform := by
  cases change with
  | made id key schema =>
      constructor
      · intro other i found
        rw [get?_ofSchema] at found
        cases found
      · intro other i found
        rw [get?_ofSchema] at found
        cases found
  | edited recolumned => exact (holds _ rfl).recolumned recolumned
  | opened name id lockFirst recolumned =>
      exact ((holds _ rfl).recolumned recolumned).createInstance name id lockFirst
  | stored recolumned found fills => exact ((holds _ rfl).recolumned recolumned).fills found fills

/-- A definition keeps what it measures, and its instances. -/
theorem Change.keeps (change : Change (some d) d') :
    d'.schema = d.schema ∧
      ∀ {id}, (d.instances.get? id).isSome → (d'.instances.get? id).isSome := by
  cases change with
  | edited recolumned =>
      refine ⟨schema_eq_of_label recolumned.label, fun found => ?_⟩
      rw [recolumned.instances]
      exact found
  | opened name id lockFirst recolumned =>
      refine ⟨schema_eq_of_label ((label_createInstance _ name id lockFirst).trans
        recolumned.label), fun {other} found => ?_⟩
      rw [get?_createInstance, recolumned.instances]
      by_cases here : id = other
      · rw [if_pos here, Option.isSome_some]
      · rw [if_neg here]
        exact found
  | stored recolumned _ fills =>
      obtain ⟨store, -, -⟩ := fills
      refine ⟨schema_eq_of_label recolumned.label, fun {other} found => ?_⟩
      rw [withStore, Catalog.get?_set, recolumned.instances]
      split
      · exact Option.isSome_some
      · exact found

end Definition

/-! ### What an instance refuses -/

namespace Session

variable {s : Session} {r : InstanceRef} {d : Definition} {i : Instance} {k : Nat} {p : Packet}
  {timestamp : Timestamp}

theorem packet?_reply {α : Type} {answer : Except Error α → Answer}
    {outcome : Option (Telemetry.Outcome α)} : (s.reply answer outcome).2.packet? k = s.packet? k := by
  rw [packet?, packets_reply, packet?]

variable {settings : Settings} {lastSequence : Nat} {id : DefinitionId}

theorem step_uniform (filed : s.telemetry.Filed) (uniform : s.telemetry.Uniform)
    (operation : Operation) : (s.step operation).2.telemetry.Uniform := by
  intro id d found
  exact (step_changes filed operation id d found).uniform (uniform id)

/-- An instance is never lost, and its definition keeps what it measures. -/
theorem step_keeps_instance (filed : s.telemetry.Filed) (operation : Operation)
    (found : s.telemetry.instance? r = some (d, i)) :
    ∃ d' i', (s.step operation).2.telemetry.instance? r = some (d', i') ∧ d'.schema = d.schema := by
  obtain ⟨defined, within⟩ := Telemetry.instance?_eq_some_iff.mp found
  obtain ⟨d', defined', -⟩ := (step_revises filed operation).kept defined
  have change := step_changes filed operation r.definition d' defined'
  rw [defined] at change
  obtain ⟨schema, instances⟩ := change.keeps
  obtain ⟨i', within'⟩ := Option.isSome_iff_exists.mp
    (instances (Option.isSome_iff_exists.mpr ⟨i, within⟩))
  exact ⟨d', i', Telemetry.instance?_eq_some_iff.mpr ⟨defined', within'⟩, schema⟩

theorem uniform_create (created : create settings lastSequence = .ok s) : s.telemetry.Uniform := by
  intro id d found
  rw [definition?_create created] at found
  cases found

theorem run_uniform (holds : s.Sealed) (uniform : s.telemetry.Uniform)
    (operations : List Operation) : (s.run operations).Sealed ∧ (s.run operations).telemetry.Uniform :=
  run_keeps (fun s => s.Sealed ∧ s.telemetry.Uniform)
    (fun operation ⟨holds, uniform⟩ =>
      ⟨step_sealed holds operation, step_uniform holds.filed uniform operation⟩)
    ⟨holds, uniform⟩ operations

/-- From when it is opened, an instance stays in its definition, which measures the same for good. -/
theorem run_keeps_instance (holds : s.Sealed) (uniform : s.telemetry.Uniform)
    (found : s.telemetry.instance? r = some (d, i)) (operations : List Operation) :
    ∃ d' i', (s.run operations).telemetry.instance? r = some (d', i') ∧ d'.schema = d.schema ∧
      i'.definition = r.definition := by
  have whole := run_keeps
    (fun s => (s.Sealed ∧ s.telemetry.Uniform) ∧
      ∃ d' i', s.telemetry.instance? r = some (d', i') ∧ d'.schema = d.schema)
    (fun operation ⟨⟨holds, uniform⟩, d', i', found, schema⟩ => by
      refine ⟨⟨step_sealed holds operation, step_uniform holds.filed uniform operation⟩, ?_⟩
      obtain ⟨d'', i'', found', kept⟩ := step_keeps_instance holds.filed operation found
      exact ⟨d'', i'', found', kept.trans schema⟩)
    ⟨⟨holds, uniform⟩, d, i, found, rfl⟩ operations
  obtain ⟨⟨holds, uniform⟩, d', i', found', schema⟩ := whole
  obtain ⟨defined, within⟩ := Telemetry.instance?_eq_some_iff.mp found'
  refine ⟨d', i', found', schema, ?_⟩
  rw [(uniform _ _ defined).owner within]
  exact (holds.filed _ _ defined).1

end Session

end Metering
