import Metering.Proofs.Catalog
import Metering.Proofs.Revision

/-!
What is registered.

Definitions are made by `define` alone, and instances are opened by `openInstance?` alone
(`define_instance?`, `openInstance?_cases`). Every other operation leaves the same definitions and
instances under the same ids, keys and names, and the same settings (`step_sameRegistry`).
-/

namespace Metering

open Metering.Time

/-- What a definition is known by for good. -/
def Definition.label (d : Definition) : Label (Key × Schema) :=
  ⟨d.id, d.key.normalized, d.key, d.schema⟩

/-- What an instance is known by for good. -/
def Instance.label (i : Instance) : Label (Option String) :=
  ⟨i.id, i.key, i.name⟩

/-- The operation may make a definition or open an instance. -/
def Operation.registers : Operation → Bool
  | .define .. | .openInstance .. => true
  | _ => false

/-- The same definitions and instances exist, under the same settings. -/
structure Telemetry.SameRegistry (t t' : Telemetry) : Prop where
  settings : t'.settings = t.settings
  definitions : t.definitions.SameIds Definition.label t'.definitions
  instances : ∀ {id : DefinitionId} {d d' : Definition}, t.definition? id = some d →
    t'.definition? id = some d' → d.instances.SameIds Instance.label d'.instances

namespace Definition

variable {d d' : Definition}

theorem label_withColumns (d : Definition) (columns : ColumnSet) :
    (d.withColumns columns).label = d.label := by
  unfold withColumns
  cases body : d.body with
  | event _ => simp [label, schema, body]
  | counterSampled _ => rfl

theorem label_lock (d : Definition) : d.lock.label = d.label := by
  unfold lock
  cases d.columns? with
  | some columns => exact label_withColumns d columns.lock
  | none => rfl

theorem label_of_editColumns {α : Type} {edit : ColumnSet → Except Error (α × ColumnSet)} {a : α}
    (edited : d.editColumns edit = .ok (a, d')) : d'.label = d.label := by
  obtain ⟨s, s', -, -, rfl⟩ := editColumns_eq_ok edited
  exact label_withColumns d s'

theorem label_of_createPacket {p : Packet} (created : d.createPacket = .ok (p, d')) :
    d'.label = d.label := by
  obtain ⟨s, -, -, rfl⟩ := createPacket_eq_ok created
  exact label_withColumns d _

end Definition

namespace Telemetry

variable {t t' t'' : Telemetry} {r : InstanceRef} {d d' : Definition} {i : Instance}
  {id : DefinitionId}

theorem SameRegistry.refl (t : Telemetry) : t.SameRegistry t := by
  refine ⟨rfl, .refl _, fun found found' => ?_⟩
  obtain rfl := Option.some.inj (found.symm.trans found')
  exact .refl _

/-- Only settings and definitions matter to the registry. -/
theorem SameRegistry.congr (same : t.SameRegistry t') (settings : t''.settings = t'.settings)
    (definitions : t''.definitions = t'.definitions) : t.SameRegistry t'' := by
  refine ⟨settings.trans same.settings, definitions ▸ same.definitions, fun found found' => ?_⟩
  rw [definition?, definitions] at found'
  exact same.instances found found'

theorem SameRegistry.trans (first : t.SameRegistry t') (second : t'.SameRegistry t'') :
    t.SameRegistry t'' := by
  refine ⟨second.settings.trans first.settings, first.definitions.trans second.definitions, ?_⟩
  intro id d d'' found found''
  have kept := first.definitions.filed id
  obtain ⟨d', found'⟩ := Option.isSome_iff_exists.mp
    (kept.trans (Option.isSome_iff_exists.mpr ⟨d, found⟩))
  exact (first.instances found found').trans (second.instances found' found'')

theorem SameRegistry.instance? (same : t.SameRegistry t') (found : (t'.instance? r).isSome) :
    (t.instance? r).isSome := by
  obtain ⟨⟨d', i'⟩, found⟩ := Option.isSome_iff_exists.mp found
  obtain ⟨defined', within'⟩ := instance?_eq_some_iff.mp found
  obtain ⟨d, defined⟩ := Option.isSome_iff_exists.mp
    ((same.definitions.filed r.definition).symm.trans (Option.isSome_iff_exists.mpr ⟨d', defined'⟩))
  obtain ⟨i, within⟩ := Option.isSome_iff_exists.mp
    (((same.instances defined defined').filed r.id).symm.trans
      (Option.isSome_iff_exists.mpr ⟨i', within'⟩))
  exact Option.isSome_iff_exists.mpr ⟨(d, i), instance?_eq_some_iff.mpr ⟨defined, within⟩⟩

/-- Replacing a definition by one with the same instances. -/
theorem sameRegistry_withDefinition (found : t.definition? d.id = some d)
    (label : d'.label = d.label) (same : d.instances.SameIds Instance.label d'.instances) :
    t.SameRegistry (t.withDefinition d') := by
  have id : d'.id = d.id := congrArg Label.id label
  have definitions : t.definitions.SameIds Definition.label (t.withDefinition d').definitions := by
    rw [withDefinition, id]
    exact Catalog.sameIds_set found label
  refine ⟨rfl, definitions, fun {id' other other'} there there' => ?_⟩
  rw [definition?_withDefinition, id] at there'
  by_cases here : d.id = id'
  · rw [if_pos here] at there'
    rw [here] at found
    obtain rfl := Option.some.inj (found.symm.trans there)
    obtain rfl := Option.some.inj there'
    exact same
  · rw [if_neg here, there] at there'
    obtain rfl := Option.some.inj there'
    exact .refl _

theorem onDefinition?_sameRegistry {α : Type} {work : Definition → Except Error (α × Definition)}
    {result : Except Error α} (filed : t.Filed)
    (frame : ∀ {d a d'}, work d = .ok (a, d') → d.Same d')
    (label : ∀ {d a d'}, work d = .ok (a, d') → d'.label = d.label)
    (done : t.onDefinition? id work = some (result, t')) : t.SameRegistry t' := by
  rcases onDefinition?_cases done with ⟨e, -, rfl⟩ | ⟨d, a, d', found, worked, -, rfl⟩
  · exact .refl t'
  · obtain ⟨rfl, -, -⟩ := filed _ _ found
    exact sameRegistry_withDefinition found (label worked) ((frame worked).instances ▸ .refl _)

theorem createPacket?_sameRegistry {result : Except Error Packet} (filed : t.Filed)
    (done : t.createPacket? r = some (result, t')) : t.SameRegistry t' := by
  obtain ⟨_, -, done⟩ := Option.bind_eq_some_iff.mp done
  exact onDefinition?_sameRegistry filed Definition.same_of_createPacket
    Definition.label_of_createPacket done

/-- Storing a sample changes the content of one instance. -/
theorem store?_sameRegistry {work : Definition → Instance → Except Error (Sample × Definition)}
    {result : Except Error Sample} (filed : t.Filed)
    (sound : ∀ {d i sample d'}, work d i = .ok (sample, d') → ∃ store, d' = d.withStore i store)
    (done : t.store? r work = some (result, t')) : t.SameRegistry t' := by
  cases result with
  | error e =>
      obtain rfl := store?_error done
      exact .refl t'
  | ok sample =>
      obtain ⟨d, i, d', found, worked, rfl⟩ := store?_ok done
      obtain ⟨store, rfl⟩ := sound worked
      obtain ⟨defined, within⟩ := instance?_eq_some_iff.mp found
      obtain ⟨same, -, inside⟩ := filed _ _ defined
      rw [← (inside _ _ within).1] at within
      rw [← same] at defined
      have replaced : t.SameRegistry (t.withDefinition (d.withStore i store)) :=
        sameRegistry_withDefinition defined rfl (Catalog.sameIds_set within rfl)
      exact replaced.congr rfl rfl

theorem writeSample?_sameRegistry {values : List (Option Value)} {timestamp : Timestamp}
    {result : Except Error Sample} (filed : t.Filed)
    (done : t.writeSample? r values timestamp = some (result, t')) : t.SameRegistry t' := by
  obtain ⟨made, t₁, created, rest⟩ := writeSample?_steps done
  have first := createPacket?_sameRegistry filed created
  rcases rest with ⟨e, -, rfl⟩ | ⟨p, filled, -, -, written⟩
  · exact first
  · have filed₁ := (createPacket?_keeps filed created).filed
    exact first.trans (store?_sameRegistry filed₁ Definition.withStore_of_writePacket written)

theorem query?_sameRegistry {settings : AggregationSettings} {q : Series.Query}
    {result : Except Error (Series Float)} (filed : t.Filed)
    (done : t.query? r settings q = some (result, t')) : t.SameRegistry t' := by
  rcases query?_cases done with rfl | ⟨d, found, rfl⟩
  · exact .refl t'
  · rw [← (filed _ _ found).1] at found
    exact sameRegistry_withDefinition found d.label_lock
      ((Definition.same_lock d).instances ▸ .refl _)

theorem settings_define (t : Telemetry) (schema : Schema) (key : Key) :
    (t.define schema key).2.settings = t.settings := by
  unfold define
  cases t.find? key with
  | some d => rfl
  | none => rfl

/-- A new definition has no instances. -/
theorem define_instance? {schema : Schema} {key : Key}
    (found : ((t.define schema key).2.instance? r).isSome) : (t.instance? r).isSome := by
  unfold define at found
  cases existing : t.find? key with
  | some d => simpa [existing] using found
  | none =>
      rw [existing] at found
      obtain ⟨⟨d, i⟩, found⟩ := Option.isSome_iff_exists.mp found
      obtain ⟨defined, within⟩ := instance?_eq_some_iff.mp found
      rw [definition?, Catalog.get?_insert] at defined
      by_cases new : t.nextDefinition = r.definition
      · rw [if_pos new] at defined
        obtain rfl := Option.some.inj defined
        rw [Definition.get?_ofSchema] at within
        cases within
      · rw [if_neg new] at defined
        exact Option.isSome_iff_exists.mpr ⟨(d, i), instance?_eq_some_iff.mpr ⟨defined, within⟩⟩

end Telemetry

/-! ### One operation -/

namespace Session

variable {s : Session} {operation : Operation}

theorem sameRegistry_reply {α : Type} {answer : Except Error α → Answer}
    {outcome : Option (Telemetry.Outcome α)}
    (same : ∀ {result t'}, outcome = some (result, t') → s.telemetry.SameRegistry t') :
    s.telemetry.SameRegistry (s.reply answer outcome).2.telemetry := by
  cases outcome with
  | none => exact .refl _
  | some found => exact same rfl

theorem sameRegistry_edit {packet : Nat} {edited : Option (Except Error Packet)} :
    s.telemetry.SameRegistry (s.edit packet edited).2.telemetry := by
  rcases edited with _ | _ | _
  · exact .refl _
  · exact .refl _
  · exact .refl _

theorem step_sameRegistry (filed : s.telemetry.Filed) (quiet : operation.registers = false) :
    s.telemetry.SameRegistry (s.step operation).2.telemetry := by
  cases operation with
  | define | openInstance => cases quiet
  | addColumn | rehydrateColumn | removeColumn | setDefaultColumn | lockColumns =>
      exact sameRegistry_reply (Telemetry.onDefinition?_sameRegistry filed
        Definition.same_of_editColumns Definition.label_of_editColumns)
  | lock id =>
      refine sameRegistry_reply (Telemetry.onDefinition?_sameRegistry filed
        Definition.same_of_lock fun {d a d'} worked => ?_)
      obtain rfl := Definition.eq_lock_of_ok worked
      exact d.label_lock
  | createPacket r =>
      simp only [step]
      cases created : s.telemetry.createPacket? r with
      | none => exact .refl _
      | some outcome =>
          have same := Telemetry.createPacket?_sameRegistry filed created
          obtain ⟨_ | _, _⟩ := outcome
          · exact same
          · exact same
  | setSlot | setNamed | fill => exact sameRegistry_edit
  | writePacket r packet timestamp =>
      simp only [step]
      split
      · exact .refl _
      · rename_i outcome written
        obtain ⟨p, -, written⟩ := Option.bind_eq_some_iff.mp written
        refine sameRegistry_reply (s := s.discard packet) fun done => ?_
        exact Telemetry.store?_sameRegistry filed Definition.withStore_of_writePacket
          (written.trans done)
  | writeSample r values timestamp =>
      exact sameRegistry_reply (Telemetry.writeSample?_sameRegistry filed)
  | writeReading r reading timestamp =>
      exact sameRegistry_reply
        (Telemetry.store?_sameRegistry filed Definition.withStore_of_writeReading)
  | rehydrate r sample =>
      exact sameRegistry_reply
        (Telemetry.store?_sameRegistry filed Definition.withStore_of_rehydrate)
  | query r settings q => exact sameRegistry_reply (Telemetry.query?_sameRegistry filed)
  | takeSequence => exact (Telemetry.SameRegistry.refl _).congr rfl rfl
  | observe sequence => exact (Telemetry.SameRegistry.refl _).congr rfl rfl

end Session

end Metering
