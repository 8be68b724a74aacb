import Mathlib.Data.List.InsertIdx
import Metering.Proofs.Registration

/-!
What an operation makes of one definition.

An operation makes a definition for a schema, changes its columns, opens an instance in it, or
stores a sample in one of its instances, and never does anything else to it (`Definition.Change`,
`step_changes`). So what these four leave true of a definition is true of it after every run.
-/

namespace Metering

open Metering.Time

/-- The definition is the same but for its columns. -/
structure Definition.Recolumned (d d' : Definition) : Prop where
  label : d'.label = d.label
  instances : d'.instances = d.instances

/-- The definition has a sample more in one instance, of its own kind. -/
inductive Definition.Fills (d : Definition) (i : Instance) (sample : Sample) : Definition → Prop where
  | store (store : Store) : sample.payload.kind = d.kind →
      (∀ held ∈ store.samples, held = sample ∨ held ∈ i.store.samples) →
      Fills d i sample (d.withStore i store)

/-- What an operation makes of what was filed under the id of a definition. The columns may change
first, before an instance is opened or a sample is stored. -/
inductive Definition.Change : Option Definition → Definition → Prop where
  | made (id : DefinitionId) (key : Key) (schema : Schema) : Change none (.ofSchema id key schema)
  | edited {d d' : Definition} : d.Recolumned d' → Change (some d) d'
  | opened {d d' : Definition} (name : Option String) (id : InstanceId) (lockFirst : Bool) :
      d.Recolumned d' → Change (some d) (d'.createInstance name id lockFirst)
  | stored {d d' d'' : Definition} {i : Instance} {sample : Sample} :
      d.Recolumned d' → d'.instances.get? i.id = some i → d'.Fills i sample d'' →
      Change (some d) d''

/-- Every definition is the same but for its columns. -/
def Telemetry.Recolumned (t t' : Telemetry) : Prop :=
  ∀ id, Option.Rel Definition.Recolumned (t.definition? id) (t'.definition? id)

/-- Every definition is what an operation makes of the one that had its id before. -/
def Telemetry.Changes (t t' : Telemetry) : Prop :=
  ∀ id d', t'.definition? id = some d' → Definition.Change (t.definition? id) d'

namespace Definition

variable {d d' d'' : Definition}

/-! ### Columns -/

theorem Recolumned.refl (d : Definition) : d.Recolumned d :=
  ⟨rfl, rfl⟩

theorem Recolumned.trans (first : d.Recolumned d') (second : d'.Recolumned d'') :
    d.Recolumned d'' :=
  ⟨second.label.trans first.label, second.instances.trans first.instances⟩

theorem Recolumned.id (recolumned : d.Recolumned d') : d'.id = d.id :=
  congrArg Label.id recolumned.label

theorem Recolumned.kind (recolumned : d.Recolumned d') : d'.kind = d.kind :=
  congrArg (fun label => label.rest.2.kind) recolumned.label

theorem recolumned_lock (d : Definition) : d.Recolumned d.lock :=
  ⟨label_lock d, (same_lock d).instances⟩

theorem recolumned_of_lock {a : Unit}
    (locked : (.ok ((), d.lock) : Except Error (Unit × Definition)) = .ok (a, d')) :
    d.Recolumned d' :=
  eq_lock_of_ok locked ▸ recolumned_lock d

theorem recolumned_of_editColumns {α : Type} {edit : ColumnSet → Except Error (α × ColumnSet)}
    {a : α} (edited : d.editColumns edit = .ok (a, d')) : d.Recolumned d' :=
  ⟨label_of_editColumns edited, (same_of_editColumns edited).instances⟩

theorem recolumned_of_createPacket {p : Packet} (created : d.createPacket = .ok (p, d')) :
    d.Recolumned d' :=
  ⟨label_of_createPacket created, (same_of_createPacket created).instances⟩

/-- A change that follows one of the columns alone. -/
theorem Change.of_recolumned (first : d.Recolumned d') (second : Change (some d') d'') :
    Change (some d) d'' := by
  cases second with
  | edited recolumned => exact .edited (first.trans recolumned)
  | opened name id lockFirst recolumned => exact .opened name id lockFirst (first.trans recolumned)
  | stored recolumned found fills => exact .stored (first.trans recolumned) found fills

/-! ### Samples -/

section Fills

variable {i : Instance} {sequence : Nat} {timestamp : Timestamp} {sample : Sample}

theorem Fills.id (fills : d.Fills i sample d') : d'.id = d.id := by
  cases fills with
  | store store _ _ => rfl

theorem fills_append {payload : Payload} (kind : payload.kind = d.kind)
    (appended : d.append i sequence timestamp payload = (sample, d')) : d.Fills i sample d' := by
  obtain ⟨rfl, rfl⟩ := Prod.mk.inj appended
  refine .store _ kind fun held member => ?_
  rcases List.mem_append.mp member with before | now
  · exact .inr before
  · exact .inl (List.mem_singleton.mp now)

theorem fills_writePacket {p : Packet}
    (written : d.writePacket i sequence p timestamp = .ok (sample, d')) : d.Fills i sample d' := by
  obtain ⟨checked, appended⟩ := writePacket_eq_ok written
  obtain ⟨-, columns, event⟩ := checkPacket_eq_ok checked
  refine fills_append ?_ appended
  rw [kind, schema, columns?_eq_some_iff.mp event]
  rfl

theorem fills_writeReading {reading : Reading Float}
    (written : d.writeReading i sequence reading timestamp = .ok (sample, d')) :
    d.Fills i sample d' := by
  obtain ⟨checked, appended⟩ := writeReading_eq_ok written
  exact fills_append (checkPayload_eq_ok checked) appended

theorem fills_rehydrate {given : Sample} (loaded : d.rehydrate i given = .ok (sample, d')) :
    d.Fills i sample d' := by
  obtain ⟨checked, rfl, store, placed, rfl⟩ := rehydrate_eq_ok loaded
  refine .store store (checkPayload_eq_ok checked) fun held member => ?_
  unfold Store.rehydrate at placed
  cases located : i.store.position sample.sequence with
  | taken index => simp [located] at placed
  | free index =>
      rw [located] at placed
      obtain rfl := Except.ok.inj placed
      exact List.eq_or_mem_of_mem_insertIdx member

end Fills

end Definition

namespace Telemetry

variable {t t' t'' : Telemetry} {d d' : Definition} {id : DefinitionId} {r : InstanceRef}

theorem Recolumned.refl (t : Telemetry) : t.Recolumned t := by
  intro id
  cases t.definition? id with
  | none => exact .none
  | some d => exact .some (.refl d)

theorem recolumned_withDefinition (found : t.definition? d.id = some d)
    (recolumned : d.Recolumned d') : t.Recolumned (t.withDefinition d') := by
  intro id
  rw [definition?_withDefinition, recolumned.id]
  by_cases here : d.id = id
  · rw [if_pos here, ← here, found]
    exact .some recolumned
  · rw [if_neg here]
    exact Recolumned.refl t id

theorem onDefinition?_recolumned {α : Type} {work : Definition → Except Error (α × Definition)}
    {result : Except Error α} (filed : t.Filed)
    (frame : ∀ {d a d'}, work d = .ok (a, d') → d.Recolumned d')
    (done : t.onDefinition? id work = some (result, t')) : t.Recolumned t' := by
  rcases onDefinition?_cases done with ⟨e, -, rfl⟩ | ⟨d, a, d', found, worked, -, rfl⟩
  · exact .refl t'
  · obtain ⟨rfl, -, -⟩ := filed _ _ found
    exact recolumned_withDefinition found (frame worked)

theorem createPacket?_recolumned {result : Except Error Packet} (filed : t.Filed)
    (done : t.createPacket? r = some (result, t')) : t.Recolumned t' := by
  obtain ⟨_, -, done⟩ := Option.bind_eq_some_iff.mp done
  exact onDefinition?_recolumned filed Definition.recolumned_of_createPacket done

theorem query?_recolumned {settings : AggregationSettings} {q : Series.Query}
    {result : Except Error (Series Float)} (filed : t.Filed)
    (done : t.query? r settings q = some (result, t')) : t.Recolumned t' := by
  rcases query?_cases done with rfl | ⟨d, found, rfl⟩
  · exact .refl t'
  · rw [← (filed _ _ found).1] at found
    exact recolumned_withDefinition found d.recolumned_lock

theorem Recolumned.changes (recolumned : t.Recolumned t') : t.Changes t' := by
  intro id d' found
  have here := recolumned id
  rw [found] at here
  generalize t.definition? id = before at here ⊢
  cases here with
  | some same => exact .edited same

theorem Changes.refl (t : Telemetry) : t.Changes t :=
  (Recolumned.refl t).changes

/-- Only the definitions matter. -/
theorem Changes.congr (changes : t.Changes t') (same : t''.definitions = t'.definitions) :
    t.Changes t'' := by
  intro id d'' found
  rw [definition?, same] at found
  exact changes id d'' found

theorem Changes.of_recolumned (first : t.Recolumned t') (second : t'.Changes t'') :
    t.Changes t'' := by
  intro id d'' found
  have change := second id d'' found
  have here := first id
  generalize t.definition? id = before at here ⊢
  generalize t'.definition? id = between at here change
  cases here with
  | none => exact change
  | some same => exact change.of_recolumned same

/-! ### Other operations -/

/-- Replacing a definition that is filed under its id. -/
theorem changes_withDefinition (found : t.definition? d'.id = some d)
    (change : Definition.Change (some d) d') : t.Changes (t.withDefinition d') := by
  intro id other there
  rw [definition?_withDefinition] at there
  by_cases here : d'.id = id
  · rw [if_pos here] at there
    obtain rfl := Option.some.inj there
    rw [← here, found]
    exact change
  · rw [if_neg here] at there
    exact Changes.refl t id other there

theorem define_changes (filed : t.Filed) (schema : Schema) (key : Key) :
    t.Changes (t.define schema key).2 := by
  unfold define
  cases t.find? key with
  | some d => exact .refl t
  | none =>
      intro id d found
      rw [definition?, Catalog.get?_insert] at found
      by_cases new : t.nextDefinition = id
      · rw [if_pos new] at found
        obtain rfl := Option.some.inj found
        cases before : t.definition? id with
        | none => exact .made _ key schema
        | some d => exact absurd (filed _ _ before).2.1 (new ▸ Nat.lt_irrefl _)
      · rw [if_neg new] at found
        exact Changes.refl t id d found

theorem openInstance?_changes {name : Option String} {result : Except Error InstanceRef}
    (filed : t.Filed) (done : t.openInstance? id name = some (result, t')) : t.Changes t' := by
  rcases openInstance?_cases done with rfl | ⟨d, found, rfl⟩
  · exact .refl t'
  · obtain ⟨rfl, -, -⟩ := filed _ _ found
    rw [← d.id_createInstance name t.nextInstance t.settings.registry.lockOnFirstInstance] at found
    exact (changes_withDefinition found (.opened name _ _ (.refl d))).congr rfl

theorem store?_changes {work : Definition → Instance → Except Error (Sample × Definition)}
    {result : Except Error Sample} (filed : t.Filed)
    (fills : ∀ {d i sample d'}, work d i = .ok (sample, d') → d.Fills i sample d')
    (done : t.store? r work = some (result, t')) : t.Changes t' := by
  cases result with
  | error e =>
      obtain rfl := store?_error done
      exact .refl t'
  | ok sample =>
      obtain ⟨d, i, d', found, worked, rfl⟩ := store?_ok done
      obtain ⟨defined, within⟩ := instance?_eq_some_iff.mp found
      obtain ⟨same, -, inside⟩ := filed _ _ defined
      rw [← (inside _ _ within).1] at within
      rw [← same, ← (fills worked).id] at defined
      have change : Definition.Change (some d) d' := .stored (.refl d) within (fills worked)
      exact (changes_withDefinition defined change).congr rfl

theorem writeSample?_changes {values : List (Option Value)} {timestamp : Timestamp}
    {result : Except Error Sample} (filed : t.Filed)
    (done : t.writeSample? r values timestamp = some (result, t')) : t.Changes t' := by
  obtain ⟨made, t₁, created, rest⟩ := writeSample?_steps done
  have first := createPacket?_recolumned filed created
  rcases rest with ⟨e, -, rfl⟩ | ⟨p, filled, -, -, written⟩
  · exact first.changes
  · have filed₁ := (createPacket?_keeps filed created).filed
    exact .of_recolumned first (store?_changes filed₁ Definition.fills_writePacket written)

end Telemetry

/-! ### One operation -/

namespace Session

variable {s : Session}

theorem changes_reply {α : Type} {answer : Except Error α → Answer}
    {outcome : Option (Telemetry.Outcome α)}
    (changes : ∀ {result t'}, outcome = some (result, t') → s.telemetry.Changes t') :
    s.telemetry.Changes (s.reply answer outcome).2.telemetry := by
  cases outcome with
  | none => exact .refl _
  | some found => exact changes rfl

theorem changes_edit {packet : Nat} {edited : Option (Except Error Packet)} :
    s.telemetry.Changes (s.edit packet edited).2.telemetry := by
  rcases edited with _ | _ | _
  · exact .refl _
  · exact .refl _
  · exact .refl _

theorem step_changes (filed : s.telemetry.Filed) (operation : Operation) :
    s.telemetry.Changes (s.step operation).2.telemetry := by
  cases operation with
  | define schema key =>
      refine changes_reply fun done => ?_
      obtain rfl := congrArg Prod.snd (Option.some.inj done)
      exact Telemetry.define_changes filed schema key
  | addColumn | rehydrateColumn | removeColumn | setDefaultColumn | lockColumns =>
      refine changes_reply fun done => ?_
      exact (Telemetry.onDefinition?_recolumned filed Definition.recolumned_of_editColumns
        done).changes
  | lock id =>
      refine changes_reply fun done => ?_
      exact (Telemetry.onDefinition?_recolumned filed Definition.recolumned_of_lock done).changes
  | openInstance id name => exact changes_reply (Telemetry.openInstance?_changes filed)
  | createPacket r =>
      simp only [step]
      cases created : s.telemetry.createPacket? r with
      | none => exact .refl _
      | some outcome =>
          have changes := (Telemetry.createPacket?_recolumned filed created).changes
          obtain ⟨_ | _, _⟩ := outcome
          · exact changes
          · exact changes
  | setSlot | setNamed | fill => exact changes_edit
  | writePacket r packet timestamp =>
      simp only [step]
      split
      · exact .refl _
      · rename_i outcome written
        obtain ⟨p, -, written⟩ := Option.bind_eq_some_iff.mp written
        refine changes_reply (s := s.discard packet) fun done => ?_
        exact Telemetry.store?_changes filed Definition.fills_writePacket (written.trans done)
  | writeSample r values timestamp => exact changes_reply (Telemetry.writeSample?_changes filed)
  | writeReading r reading timestamp =>
      exact changes_reply (Telemetry.store?_changes filed Definition.fills_writeReading)
  | rehydrate r sample =>
      exact changes_reply (Telemetry.store?_changes filed Definition.fills_rehydrate)
  | query r settings q =>
      exact changes_reply fun done => (Telemetry.query?_recolumned filed done).changes
  | takeSequence | observe => exact (Telemetry.Changes.refl _).congr rfl

end Session

end Metering
