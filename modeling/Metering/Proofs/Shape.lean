import Metering.Proofs.ColumnHistory
import Metering.Proofs.Registration

/-!
When the shape of samples is fixed.

A write fixes the shape of its sample first: making a packet locks the columns, and so does writing
values; a counter has no columns. Loading a stored sample locks nothing, so where the settings let
instances leave their definition open, a load can put a sample in an open one. `run_shapeFixed_iff`
says that nothing else can, and that the columns of a locked definition keep their slots for good.
-/

namespace Metering

open Metering.Time

/-! ### Locked definitions -/

/-- The definition with the given id exists, and the shape of its samples is fixed. -/
def Telemetry.Locked (t : Telemetry) (id : DefinitionId) : Prop :=
  ∃ d, t.definition? id = some d ∧ d.isLocked = true

instance (t : Telemetry) (id : DefinitionId) : Decidable (t.Locked id) :=
  decidable_of_iff ((t.definition? id).any (·.isLocked) = true) (Option.any_eq_true _ _)

/-- Whatever has a sample has its columns locked. -/
def Telemetry.ShapeFixed (t : Telemetry) : Prop :=
  ∀ r, t.samples r ≠ [] → t.Locked r.definition

/-- No column can be added or removed, and every slot stays with its column. -/
structure Session.Frozen (s : Session) (id : DefinitionId) (columns : ColumnSet) : Prop where
  added : ∀ name type options, s.step (.addColumn id name type options) =
    (.column (.error (.locked columns.owner)), s)
  removed : ∀ name, s.step (.removeColumn id name) =
    (.column (.error (.locked columns.owner)), s)
  slots : ∀ {i serial : Nat}, columns.order[i]? = some serial → ∀ later : List Operation,
    ∃ d' columns', (s.run later).telemetry.definition? id = some d' ∧ d'.columns? = some columns' ∧
      columns'.order[i]? = some serial ∧ columns'.columns[serial]? = columns.columns[serial]?

/-- Opening the first instance of a definition locks it, and did so for all that have one. -/
structure Telemetry.LocksFirst (t : Telemetry) : Prop where
  settings : t.settings.registry.lockOnFirstInstance = true
  instances : ∀ {r : InstanceRef}, (t.instance? r).isSome → t.Locked r.definition

/-- The operation loads a sample into a definition that is open. -/
def Session.loadsOpen (s : Session) (operation : Operation) : Bool :=
  match operation.isWrite, Entry.stored? ⟨operation, (s.step operation).1⟩ with
  | false, some (r, _) => ¬ s.telemetry.Locked r.definition
  | _, _ => false

/-- No operation of a run loads a sample into a definition that is open. -/
def Session.loadsLocked : Session → List Operation → Bool
  | _, [] => true
  | s, operation :: rest => !s.loadsOpen operation && (s.step operation).2.loadsLocked rest

section Step

variable {e : Entry} {id : DefinitionId} {s s' : ColumnSet} {d d' : Definition} {t t' : Telemetry}

theorem ColumnSet.Edit.locked (edit : s.Edit s') (locked : s.locked = true) : s'.locked = true := by
  cases edit with
  | keeps => exact locked
  | adds added => simp [(add_eq_ok added).1] at locked
  | removes removed => simp [(remove_eq_ok removed).1] at locked
  | nominates nominated => simp [(setDefault_eq_ok nominated).1] at locked
  | locks => rfl

theorem ColumnStep.locked (step : ColumnStep e id s s') (locked : s.locked = true) :
    s'.locked = true := by
  cases step with
  | edits _ edit => exact edit.locked locked
  | loads _ done => exact (ColumnSet.extends_of_rehydrate done).locked.trans locked

/-- A set always knows which definition it belongs to. -/
theorem ColumnSet.Edit.definition (edit : s.Edit s') : s'.definition = s.definition := by
  cases edit with
  | keeps => rfl
  | adds added =>
      obtain ⟨-, -, rfl⟩ := append_eq_ok (add_eq_ok added).2
      rfl
  | removes removed =>
      obtain ⟨-, -, rfl⟩ := remove_eq_ok removed
      rfl
  | nominates nominated =>
      obtain ⟨-, serial, -, rfl⟩ := setDefault_eq_ok nominated
      rfl
  | locks => rfl

theorem ColumnStep.definition (step : ColumnStep e id s s') : s'.definition = s.definition := by
  cases step with
  | edits _ edit => exact edit.definition
  | @loads name type options serial _ done =>
      obtain ⟨column, -, same⟩ := ColumnSet.rehydrate_eq_append s name type options
      obtain ⟨-, -, rfl⟩ := ColumnSet.append_eq_ok (same ▸ done)
      rfl

theorem Definition.isLocked_iff :
    d.isLocked = true ↔ ∀ s, d.columns? = some s → s.locked = true := by
  unfold isLocked
  cases d.columns? with
  | none => simp
  | some s => simp

theorem Telemetry.Revises.locked {edit : DefinitionId → ColumnSet → ColumnSet → Prop}
    (revises : t.Revises edit t')
    (keeps : ∀ {s s'}, edit id s s' → s.locked = true → s'.locked = true)
    (locked : t.Locked id) : t'.Locked id := by
  obtain ⟨d, found, closed⟩ := locked
  obtain ⟨d', found', revised⟩ := revises.kept found
  refine ⟨d', found', Definition.isLocked_iff.mpr fun s' event => ?_⟩
  obtain ⟨s, before, edited⟩ := revised.columns?_before event
  exact keeps edited (Definition.isLocked_iff.mp closed s before)

/-- What leaves the columns as they are leaves an open definition open. -/
theorem Telemetry.Revises.locked_before (same : t.Revises (fun _ => Eq) t')
    (found : t.definition? id = some d) (locked : t'.Locked id) : t.Locked id := by
  obtain ⟨d', found', closed⟩ := locked
  obtain ⟨d'', found'', revised⟩ := same.kept found
  obtain rfl : d'' = d' := Option.some.inj (found''.symm.trans found')
  refine ⟨d, found, Definition.isLocked_iff.mpr fun s event => ?_⟩
  obtain ⟨s', event', rfl⟩ := revised.columns? event
  exact Definition.isLocked_iff.mp closed s event'

theorem Definition.columns?_withColumns (event : d.columns? = some s) (s' : ColumnSet) :
    (d.withColumns s').columns? = some s' := by
  rw [columns?_eq_some_iff] at event ⊢
  unfold withColumns
  rw [event]

theorem Definition.isLocked_lock (d : Definition) : d.lock.isLocked = true := by
  unfold lock
  cases event : d.columns? with
  | none => rw [isLocked, event, Option.all_none]
  | some s => rw [isLocked, columns?_withColumns event, Option.all_some, ColumnSet.lock]

theorem Telemetry.locked_withDefinition (id : d'.id = d.id) (closed : d'.isLocked = true) :
    (t.withDefinition d').Locked d.id := by
  refine ⟨d', ?_, closed⟩
  rw [definition?_withDefinition, id, if_pos rfl]

/-- The columns that a packet was made for are locked. -/
theorem Telemetry.createPacket?_ok {r : InstanceRef} {p : Packet} (filed : t.Filed)
    (created : t.createPacket? r = some (.ok p, t')) :
    t'.Locked r.definition ∧ ∃ d s, t.definition? r.definition = some d ∧ d.columns? = some s ∧
      p.definition = s.definition := by
  rcases createPacket?_cases created with
    ⟨e, refused, -⟩ | ⟨d, s, s', found, event, edit, locked, made, rfl⟩
  · cases refused
  · obtain rfl := Except.ok.inj made
    refine ⟨?_, d, s, found, event, edit.definition⟩
    rw [← (filed _ _ found).1]
    refine locked_withDefinition (Definition.same_withColumns d s').id ?_
    rw [Definition.isLocked, Definition.columns?_withColumns event]
    exact locked

/-- An instance that is opened anew locks its definition. -/
theorem Telemetry.openInstance?_locksFirst {name : Option String}
    {result : Except Error InstanceRef} (filed : t.Filed) (holds : t.LocksFirst)
    (opened : t.openInstance? id name = some (result, t')) : t'.LocksFirst := by
  have revises := openInstance?_revises filed opened
  rcases openInstance?_cases opened with rfl | ⟨d, -, rfl⟩
  · exact holds
  · have same_id := d.id_createInstance name t.nextInstance t.settings.registry.lockOnFirstInstance
    refine ⟨holds.settings, fun {r} found => ?_⟩
    by_cases here : d.id = r.definition
    · rw [← here]
      refine locked_withDefinition (t := t) same_id ?_
      rw [holds.settings]
      exact d.isLocked_lock
    · obtain ⟨⟨d', i⟩, found⟩ := Option.isSome_iff_exists.mp found
      obtain ⟨defined, within⟩ := instance?_eq_some_iff.mp found
      have before : t.definition? r.definition = some d' := by
        have unchanged := definition?_withDefinition t (d.createInstance name t.nextInstance
          t.settings.registry.lockOnFirstInstance) r.definition
        rw [same_id, if_neg here] at unchanged
        exact unchanged.symm.trans defined
      have known := instance?_eq_some_iff.mpr ⟨before, within⟩
      exact revises.locked ColumnSet.Edit.locked
        (holds.instances (Option.isSome_iff_exists.mpr ⟨_, known⟩))

end Step

/-! ### Packets -/

namespace Packet

variable {p p' : Packet}

theorem definition_of_set {index : Nat} {value : Option Value} (done : p.set index value = .ok p') :
    p'.definition = p.definition := by
  unfold set at done
  split at done
  · obtain rfl := Except.ok.inj done
    rfl
  · cases done

theorem definition_of_setNamed {columns : ColumnSet} {name : String} {value : Value}
    (done : p.setNamed columns name value = .ok p') : p'.definition = p.definition := by
  unfold setNamed at done
  split at done
  · cases done
  · split at done
    · cases done
    · exact definition_of_set done

theorem definition_of_fill {values : List (Option Value)} (done : p.fill values = .ok p') :
    p'.definition = p.definition := by
  unfold fill at done
  split at done
  · obtain rfl := Except.ok.inj done
    rfl
  · cases done

end Packet

namespace Session

variable {s : Session} {operation : Operation} {r : InstanceRef} {sample : Sample} {p : Packet}
  {id : DefinitionId} {d : Definition} {columns : ColumnSet}

/-- Between operations, every packet that can still be written was made for locked columns. -/
structure Sealed (s : Session) : Prop where
  filed : s.telemetry.Filed
  owned : ∀ {id : DefinitionId} {d : Definition} {columns : ColumnSet},
    s.telemetry.definition? id = some d → d.columns? = some columns → columns.definition = id
  packets : ∀ {p : Packet}, some p ∈ s.packets → s.telemetry.Locked p.definition

theorem mem_of_packet? {packet : Nat} (found : s.packet? packet = some p) : some p ∈ s.packets := by
  unfold packet? at found
  exact List.mem_of_getElem? (Option.join_eq_some_iff.mp found)

theorem packets_reply {α : Type} {answer : Except Error α → Answer}
    {outcome : Option (Telemetry.Outcome α)} : (s.reply answer outcome).2.packets = s.packets := by
  cases outcome with
  | none => rfl
  | some found => rfl

theorem mem_packets_edit {packet : Nat} {edited : Option (Except Error Packet)}
    (member : some p ∈ (s.edit packet edited).2.packets) :
    some p ∈ s.packets ∨ edited = some (.ok p) := by
  rcases edited with _ | _ | p'
  · exact .inl member
  · exact .inl member
  · rcases List.mem_or_eq_of_mem_set member with before | now
    · exact .inl before
    · exact .inr (by rw [Option.some.inj now])

theorem step_locked (filed : s.telemetry.Filed) (operation : Operation)
    (locked : s.telemetry.Locked id) : (s.step operation).2.telemetry.Locked id :=
  (step_revises filed operation).locked ColumnStep.locked locked

theorem fills_setSlot {packet index : Nat} {value : Option Value} {p' : Packet}
    (filled : (s.packet? packet).map (·.set index value) = some (.ok p')) :
    ∃ p, s.packet? packet = some p ∧ p'.definition = p.definition := by
  obtain ⟨p, found, done⟩ := Option.map_eq_some_iff.mp filled
  exact ⟨p, found, Packet.definition_of_set done⟩

theorem fills_setNamed {packet : Nat} {name : String} {value : Value} {p' : Packet}
    (filled : ((s.packet? packet).bind fun p => s.telemetry.setNamed? p name value) =
      some (.ok p')) : ∃ p, s.packet? packet = some p ∧ p'.definition = p.definition := by
  obtain ⟨p, found, done⟩ := Option.bind_eq_some_iff.mp filled
  obtain ⟨d, -, done⟩ := Option.bind_eq_some_iff.mp done
  obtain ⟨columns, -, done⟩ := Option.bind_eq_some_iff.mp done
  exact ⟨p, found, Packet.definition_of_setNamed (Option.some.inj done)⟩

theorem fills_fill {packet : Nat} {values : List (Option Value)} {p' : Packet}
    (filled : (s.packet? packet).map (·.fill values) = some (.ok p')) :
    ∃ p, s.packet? packet = some p ∧ p'.definition = p.definition := by
  obtain ⟨p, found, done⟩ := Option.map_eq_some_iff.mp filled
  exact ⟨p, found, Packet.definition_of_fill done⟩

/-- Filling the slots of a packet does not change what it was made for. -/
theorem definition_of_edit {packet : Nat} {edited : Option (Except Error Packet)}
    (fills : ∀ {p'}, edited = some (.ok p') →
      ∃ p, s.packet? packet = some p ∧ p'.definition = p.definition)
    (member : some p ∈ (s.edit packet edited).2.packets) :
    ∃ before, some before ∈ s.packets ∧ p.definition = before.definition := by
  rcases mem_packets_edit member with before | now
  · exact ⟨p, before, rfl⟩
  · obtain ⟨before, found, same⟩ := fills now
    exact ⟨before, mem_of_packet? found, same⟩

/-- A packet after an operation is one from before, perhaps with other slots, or was made by the
operation for columns that are locked. -/
theorem step_packets (holds : s.Sealed) (operation : Operation)
    (member : some p ∈ (s.step operation).2.packets) :
    (∃ before, some before ∈ s.packets ∧ p.definition = before.definition) ∨
      (s.step operation).2.telemetry.Locked p.definition := by
  have kept : some p ∈ s.packets → ∃ before, some before ∈ s.packets ∧
      p.definition = before.definition := fun before => ⟨p, before, rfl⟩
  cases operation with
  | createPacket r =>
      simp only [step] at member ⊢
      cases created : s.telemetry.createPacket? r with
      | none =>
          rw [created] at member
          exact .inl (kept member)
      | some outcome =>
          obtain ⟨made, t'⟩ := outcome
          rw [created] at member
          cases made with
          | error e => exact .inl (kept member)
          | ok new =>
              rcases List.mem_append.mp member with before | now
              · exact .inl (kept before)
              · obtain rfl := Option.some.inj (List.mem_singleton.mp now)
                obtain ⟨locked, d, columns, found, event, same⟩ :=
                  Telemetry.createPacket?_ok holds.filed created
                rw [same, holds.owned found event]
                exact .inr locked
  | setSlot => exact .inl (definition_of_edit fills_setSlot member)
  | setNamed => exact .inl (definition_of_edit fills_setNamed member)
  | fill => exact .inl (definition_of_edit fills_fill member)
  | writePacket r packet timestamp =>
      simp only [step] at member
      split at member
      · exact .inl (kept member)
      · rw [packets_reply] at member
        rcases List.mem_or_eq_of_mem_set member with before | used
        · exact .inl (kept before)
        · cases used
  | takeSequence => exact .inl (kept member)
  | observe sequence => exact .inl (kept member)
  | define | addColumn | rehydrateColumn | removeColumn | setDefaultColumn | lockColumns | lock
  | openInstance | writeSample | writeReading | rehydrate | query =>
      simp only [step, packets_reply] at member
      exact .inl (kept member)

theorem step_sealed (holds : s.Sealed) (operation : Operation) : (s.step operation).2.Sealed := by
  refine ⟨(step_effect holds.filed operation).filed, ?_, ?_⟩
  · exact (step_revises holds.filed operation).forall_columns
      (fun id columns => columns.definition = id) (fun _ _ => rfl)
      (fun step own => step.definition.trans own) holds.owned
  · intro p member
    rcases step_packets holds operation member with ⟨before, held, same⟩ | locked
    · rw [same]
      exact step_locked holds.filed operation (holds.packets held)
    · exact locked

/-! ### What stores a sample -/

/-- An answer that says what was stored is that of telemetry. -/
theorem stored_reply {outcome : Option (Telemetry.Outcome Sample)}
    (stored : Entry.stored? ⟨operation, (s.reply .sample outcome).1⟩ = some (r, sample)) :
    operation.target? = some r ∧ ∃ t', outcome = some (.ok sample, t') := by
  rcases outcome with _ | ⟨_ | sample', t'⟩
  · simp [Entry.stored?, reply] at stored
  · simp [Entry.stored?, reply] at stored
  · cases target : operation.target? with
    | none => simp [Entry.stored?, reply, target] at stored
    | some r' =>
        simp only [Entry.stored?, reply, target, Option.some.injEq, Prod.mk.injEq] at stored
        obtain ⟨rfl, rfl⟩ := stored
        exact ⟨rfl, t', rfl⟩

/-- A sample that is written goes to a locked definition. -/
theorem locked_of_write (holds : s.Sealed) (write : operation.isWrite = true)
    (stored : Entry.stored? ⟨operation, (s.step operation).1⟩ = some (r, sample)) :
    (s.step operation).2.telemetry.Locked r.definition := by
  cases operation with
  | writePacket r' packet timestamp =>
      refine step_locked holds.filed _ ?_
      simp only [step] at stored
      split at stored
      · simp [Entry.stored?] at stored
      · rename_i outcome written
        obtain ⟨target, t', answered⟩ := stored_reply stored
        obtain rfl := Option.some.inj target
        rw [answered] at written
        obtain ⟨p, found, written⟩ := Option.bind_eq_some_iff.mp written
        obtain ⟨d, i, d', there, worked, -⟩ := Telemetry.store?_ok written
        obtain ⟨own, -⟩ := Definition.checkPacket_eq_ok (Definition.writePacket_eq_ok worked).1
        obtain ⟨defined, -⟩ := Telemetry.instance?_eq_some_iff.mp there
        rw [← (holds.filed _ _ defined).1, ← own]
        exact holds.packets (mem_of_packet? found)
  | writeSample r' values timestamp =>
      obtain ⟨target, t', written⟩ := stored_reply stored
      obtain rfl := Option.some.inj target
      simp only [step, written, reply]
      obtain ⟨made, t₁, created, rest⟩ := Telemetry.writeSample?_steps written
      rcases rest with ⟨e, refused, -⟩ | ⟨p, filled, rfl, -, written⟩
      · cases refused
      · have filed := (Telemetry.createPacket?_keeps holds.filed created).filed
        exact (Telemetry.writePacket?_revises filed written).locked
          (fun same locked => same ▸ locked) (Telemetry.createPacket?_ok holds.filed created).1
  | writeReading r' reading timestamp =>
      refine step_locked holds.filed _ ?_
      obtain ⟨target, t', written⟩ := stored_reply stored
      obtain rfl := Option.some.inj target
      obtain ⟨d, i, d', there, worked, -⟩ := Telemetry.store?_ok written
      have counter := Definition.checkPayload_eq_ok (Definition.writeReading_eq_ok worked).1
      have none_ := Definition.kind_eq_counterSampled_iff.mp counter.symm
      obtain ⟨defined, -⟩ := Telemetry.instance?_eq_some_iff.mp there
      refine ⟨d, defined, ?_⟩
      rw [Definition.isLocked, none_]
      rfl
  | _ => cases write

/-- What is stored and not written is loaded. -/
theorem rehydrate?_of_load (load : operation.isWrite = false)
    (stored : Entry.stored? ⟨operation, (s.step operation).1⟩ = some (r, sample)) :
    ∃ given, s.telemetry.rehydrate? r given = some (.ok sample, (s.step operation).2.telemetry) := by
  cases operation with
  | rehydrate r' given =>
      obtain ⟨target, t', loaded⟩ := stored_reply stored
      obtain rfl := Option.some.inj target
      refine ⟨given, ?_⟩
      simp only [step, loaded, reply]
  | writePacket | writeSample | writeReading => cases load
  | _ => simp [Entry.stored?, Operation.target?] at stored

/-- A sample that is loaded goes to a definition that is left as it was, open or locked. -/
theorem locked_before_load (filed : s.telemetry.Filed) (load : operation.isWrite = false)
    (stored : Entry.stored? ⟨operation, (s.step operation).1⟩ = some (r, sample))
    (locked : (s.step operation).2.telemetry.Locked r.definition) :
    s.telemetry.Locked r.definition := by
  obtain ⟨given, loaded⟩ := rehydrate?_of_load load stored
  obtain ⟨d, i, d', there, -, -⟩ := Telemetry.store?_ok loaded
  obtain ⟨defined, -⟩ := Telemetry.instance?_eq_some_iff.mp there
  exact (Telemetry.rehydrate?_revises filed loaded).locked_before defined locked

theorem shapeFixed_iff {start : Nat} {past : List Entry} {t : Telemetry}
    (holds : Numbered start past t) :
    t.ShapeFixed ↔ ∀ e ∈ past, ∀ {r : InstanceRef} {sample : Sample},
      e.stored? = some (r, sample) → t.Locked r.definition := by
  constructor
  · intro fixed e member r sample stored
    refine fixed r (List.ne_nil_of_mem (a := sample) (holds.mem_iff.mpr ?_))
    exact List.mem_filterMap.mpr ⟨e, member, stored⟩
  · intro locked r nonempty
    obtain ⟨sample, held⟩ := List.exists_mem_of_ne_nil _ nonempty
    obtain ⟨e, member, stored⟩ := List.mem_filterMap.mp (holds.mem_iff.mp held)
    exact locked e member stored

/-- Of all operations, only a load can store a sample in an open definition. -/
theorem loadsOpen_eq_false_iff (holds : s.Sealed) :
    s.loadsOpen operation = false ↔ ∀ {r : InstanceRef} {sample : Sample},
      Entry.stored? ⟨operation, (s.step operation).1⟩ = some (r, sample) →
        (s.step operation).2.telemetry.Locked r.definition := by
  unfold loadsOpen
  cases stored : Entry.stored? ⟨operation, (s.step operation).1⟩ with
  | none => simp
  | some found =>
      obtain ⟨r, sample⟩ := found
      cases kind : operation.isWrite with
      | true =>
          refine iff_of_true rfl ?_
          intro r' sample' same
          exact locked_of_write holds kind (stored.trans same)
      | false =>
          have locked_iff : (s.step operation).2.telemetry.Locked r.definition ↔
              s.telemetry.Locked r.definition :=
            ⟨locked_before_load holds.filed kind stored, step_locked holds.filed operation⟩
          simp only [decide_eq_false_iff_not, Decidable.not_not, Option.some.injEq, Prod.mk.injEq]
          rw [← locked_iff]
          constructor
          · rintro locked r' sample' ⟨rfl, rfl⟩
            exact locked
          · exact fun locked => locked ⟨rfl, rfl⟩

/-- Where the shape was fixed, an operation leaves it so unless it loads into an open definition. -/
theorem step_shapeFixed_iff {start : Nat} {past : List Entry} (holds : s.Sealed)
    (numbered : Numbered start past s.telemetry) (fixed : s.telemetry.ShapeFixed) :
    (s.step operation).2.telemetry.ShapeFixed ↔ s.loadsOpen operation = false := by
  rw [loadsOpen_eq_false_iff holds,
    shapeFixed_iff (numbered.effect (step_effect holds.filed operation))]
  constructor
  · intro locked r sample stored
    exact locked _ (List.mem_append_right _ (List.mem_singleton_self _)) stored
  · intro locked e member r sample stored
    rcases List.mem_append.mp member with before | now
    · exact step_locked holds.filed operation ((shapeFixed_iff numbered).mp fixed e before stored)
    · obtain rfl := List.mem_singleton.mp now
      exact locked stored

/-- Every operation keeps the instances in locked definitions, if the settings ask for that. -/
theorem step_locksFirst (filed : s.telemetry.Filed) (holds : s.telemetry.LocksFirst)
    (operation : Operation) : (s.step operation).2.telemetry.LocksFirst := by
  have known : ∀ {r : InstanceRef}, (s.telemetry.instance? r).isSome →
      (s.step operation).2.telemetry.Locked r.definition := fun found =>
    step_locked filed operation (holds.instances found)
  cases quiet : operation.registers with
  | false =>
      have same := step_sameRegistry filed quiet
      exact ⟨same.settings ▸ holds.settings, fun found => known (same.instance? found)⟩
  | true =>
      cases operation with
      | define schema key =>
          refine ⟨?_, fun found => known (Telemetry.define_instance? found)⟩
          exact Telemetry.settings_define s.telemetry schema key ▸ holds.settings
      | openInstance id name =>
          simp only [step] at known ⊢
          cases opened : s.telemetry.openInstance? id name with
          | none => exact holds
          | some outcome =>
              obtain ⟨result, t'⟩ := outcome
              exact Telemetry.openInstance?_locksFirst filed holds opened
      | _ => cases quiet

/-! ### Whole runs -/

variable {settings : Settings} {lastSequence : Nat}

theorem sealed_create (created : create settings lastSequence = .ok s) : s.Sealed := by
  refine ⟨(numbered_create created).filed, fun found _ => ?_, fun member => ?_⟩
  · rw [definition?_create created] at found
    cases found
  · obtain rfl := create_eq_ok created
    cases member

theorem always_shapeFixed_iff {start : Nat} {past : List Entry} (holds : s.Sealed)
    (numbered : Numbered start past s.telemetry) (fixed : s.telemetry.ShapeFixed)
    (operations : List Operation) :
    (∀ before, before <+: operations → (s.run before).telemetry.ShapeFixed) ↔
      s.loadsLocked operations = true := by
  induction operations generalizing s past with
  | nil =>
      refine iff_of_true ?_ rfl
      intro before within
      obtain rfl := List.prefix_nil.mp within
      exact fixed
  | cons operation rest ih =>
      have step_iff : (s.step operation).2.telemetry.ShapeFixed ↔ s.loadsOpen operation = false :=
        step_shapeFixed_iff holds numbered fixed
      have later := fun fixed' => ih (step_sealed holds operation)
        (numbered.effect (step_effect holds.filed operation)) fixed'
      rw [loadsLocked, Bool.and_eq_true, Bool.not_eq_true', ← step_iff]
      constructor
      · intro always
        have fixed' := always [operation] (List.prefix_append [operation] rest)
        refine ⟨fixed', (later fixed').mp fun before within => ?_⟩
        exact always (operation :: before) (List.cons_prefix_cons.mpr ⟨rfl, within⟩)
      · rintro ⟨fixed', locked⟩ (_ | ⟨first, before⟩) within
        · exact fixed
        · obtain ⟨rfl, within_rest⟩ := List.cons_prefix_cons.mp within
          exact (later fixed').mpr locked before within_rest

/-- Where the first instance locks its definition, no load finds an open one. -/
theorem loadsLocked_of_locksFirst (holds : s.Sealed) (locksFirst : s.telemetry.LocksFirst)
    (operations : List Operation) : s.loadsLocked operations = true := by
  induction operations generalizing s with
  | nil => rfl
  | cons operation rest ih =>
      rw [loadsLocked, Bool.and_eq_true, Bool.not_eq_true', loadsOpen_eq_false_iff holds]
      refine ⟨fun {r sample} stored => ?_,
        ih (step_sealed holds operation) (step_locksFirst holds.filed locksFirst operation)⟩
      cases kind : operation.isWrite with
      | true => exact locked_of_write holds kind stored
      | false =>
          obtain ⟨given, loaded⟩ := rehydrate?_of_load kind stored
          obtain ⟨d, i, d', there, -, -⟩ := Telemetry.store?_ok loaded
          exact step_locked holds.filed operation
            (locksFirst.instances (Option.isSome_iff_exists.mpr ⟨_, there⟩))

theorem locksFirst_create (created : create settings lastSequence = .ok s)
    (lockFirst : settings.registry.lockOnFirstInstance = true) : s.telemetry.LocksFirst := by
  constructor
  · obtain rfl := create_eq_ok created
    exact lockFirst
  · intro r found
    obtain ⟨⟨d, i⟩, found⟩ := Option.isSome_iff_exists.mp found
    have defined := (Telemetry.instance?_eq_some_iff.mp found).1
    rw [definition?_create created] at defined
    cases defined

/-- What was written over a run is in definitions that are locked at its end. -/
theorem run_locked_of_write (created : create settings lastSequence = .ok s)
    (operations : List Operation) {e : Entry} (member : e ∈ s.record operations)
    (write : e.operation.isWrite = true) (stored : e.stored? = some (r, sample)) :
    (s.run operations).telemetry.Locked r.definition := by
  have begun : ∀ e ∈ ([] : List Entry), e.operation.isWrite = true →
      ∀ {r : InstanceRef} {sample : Sample}, e.stored? = some (r, sample) →
        s.telemetry.Locked r.definition := by simp
  have whole := run_induction
    (fun past s => s.Sealed ∧ ∀ e ∈ past, e.operation.isWrite = true →
      ∀ {r : InstanceRef} {sample : Sample}, e.stored? = some (r, sample) →
        s.telemetry.Locked r.definition)
    (fun {past s} operation ⟨holds, locked⟩ => by
      refine ⟨step_sealed holds operation, fun e member write {r sample} stored => ?_⟩
      rcases List.mem_append.mp member with before | now
      · exact step_locked holds.filed operation (locked e before write stored)
      · obtain rfl := List.mem_singleton.mp now
        exact locked_of_write holds write stored)
    ⟨sealed_create created, begun⟩ operations
  exact whole.2 e member write stored

theorem onColumn?_refused {t : Telemetry} {e : Error}
    (work : ColumnSet → Except Error (Nat × ColumnSet)) (found : t.definition? id = some d)
    (event : d.columns? = some columns)
    (refused : work columns = .error e) : t.onColumn? id work = some (.error e, t) := by
  simp [Telemetry.onColumn?, Telemetry.onDefinition?, found, Definition.editColumns,
    Definition.columns, event, refused, Except.map]

theorem frozen_of_locked (sound : s.telemetry.Sound) (found : s.telemetry.definition? id = some d)
    (event : d.columns? = some columns) (locked : s.telemetry.Locked id) : s.Frozen id columns := by
  have closed : columns.locked = true := by
    obtain ⟨d', found', closed⟩ := locked
    obtain rfl := Option.some.inj (found'.symm.trans found)
    exact Definition.isLocked_iff.mp closed columns event
  constructor
  · intro name type options
    have refused := onColumn?_refused (·.add name type options) found event
      (ColumnSet.add_of_locked closed)
    rw [step, Telemetry.addColumn?, refused, reply]
  · intro name
    have refused := onColumn?_refused (·.remove name) found event
      (ColumnSet.remove_of_locked closed)
    rw [step, Telemetry.removeColumn?, refused, reply]
  · intro i serial listed later
    obtain ⟨d', columns', found', event', grown⟩ := run_extends sound found event closed later
    obtain ⟨column, held, -⟩ := (sound.columns found event).exists_at closed listed
    refine ⟨d', columns', found', event', ?_, (grown.columns held).trans held.symm⟩
    rw [grown.order]
    exact List.getElem?_append_left (List.getElem?_eq_some_iff.mp listed).1 ▸ listed

/-- **When the shape of samples is fixed.** All through a run, everything that has a sample has its
columns locked just if no sample is loaded into a definition that is open, and none is if the
settings let the first instance lock its definition. What is written is always in a locked
definition, and the columns of a locked definition are frozen. -/
theorem run_shapeFixed_iff (created : create settings lastSequence = .ok s)
    (operations : List Operation) :
    ((∀ before, before <+: operations → (s.run before).telemetry.ShapeFixed) ↔
      s.loadsLocked operations = true) ∧
    (settings.registry.lockOnFirstInstance = true → s.loadsLocked operations = true) ∧
    (∀ e ∈ s.record operations, e.operation.isWrite = true →
      ∀ {r : InstanceRef} {sample : Sample}, e.stored? = some (r, sample) →
        (s.run operations).telemetry.Locked r.definition) ∧
    ∀ {id : DefinitionId} {d : Definition} {columns : ColumnSet},
      (s.run operations).telemetry.definition? id = some d → d.columns? = some columns →
      (s.run operations).telemetry.Locked id → (s.run operations).Frozen id columns := by
  have numbered := numbered_create created
  have fixed : s.telemetry.ShapeFixed := by
    rw [shapeFixed_iff numbered]
    intro e member
    cases member
  have holds := sealed_create created
  refine ⟨always_shapeFixed_iff holds numbered fixed operations, ?_, ?_, ?_⟩
  · intro lockFirst
    exact loadsLocked_of_locksFirst holds (locksFirst_create created lockFirst) operations
  · intro e member write r sample stored
    exact run_locked_of_write created operations member write stored
  · intro id d columns found event locked
    exact frozen_of_locked (run_sound (sound_create created) operations) found event locked

/-- Settings under which instances leave their definition open. -/
def instancesOpen : Settings := { registry := { lockOnFirstInstance := false } }

/-- An event with one column and one instance, left open. -/
def openEvent : List Operation :=
  [.define .event ⟨"web", "http", "requests"⟩, .addColumn 0 "Status" .int {}, .openInstance 0 none]

/-- A sample that is written locks the definition, so that a later load finds it locked. -/
theorem run_shapeFixed_iff_openEvent :
    let s : Session := ⟨{ settings := instancesOpen }, []⟩
    let operations : List Operation := openEvent ++
      [.writeSample ⟨0, 0⟩ [some (.int 200)] .earliest,
       .rehydrate ⟨0, 0⟩ ⟨7, .latest, .event [some (.int 404)]⟩]
    create instancesOpen 0 = .ok s ∧
    ¬ (s.run openEvent).telemetry.Locked 0 ∧
    ((s.run operations).telemetry.samples ⟨0, 0⟩).map (·.sequence) = [1, 7] ∧
    (∀ before, before <+: operations → (s.run before).telemetry.ShapeFixed) ∧
    ∃ columns, (s.run operations).Frozen 0 columns := by
  intro s operations
  have created : create instancesOpen 0 = .ok s := rfl
  have locks : s.loadsLocked operations = true := by decide +kernel
  have locked : (s.run operations).telemetry.Locked 0 := by decide +kernel
  have held : (((s.run operations).telemetry.definition? 0).bind (·.columns?)).isSome := by
    decide +kernel
  obtain ⟨columns, held⟩ := Option.isSome_iff_exists.mp held
  obtain ⟨d, found, event⟩ := Option.bind_eq_some_iff.mp held
  obtain ⟨fixed_iff, -, -, frozen⟩ := run_shapeFixed_iff created operations
  exact ⟨created, by decide +kernel, by decide +kernel, fixed_iff.mpr locks, columns,
    frozen found event locked⟩

/-- A sample that is loaded into an open definition leaves it open: its column can still be removed,
and the slot goes to the column that is added next. -/
theorem run_not_shapeFixed :
    let s : Session := ⟨{ settings := instancesOpen }, []⟩
    let operations : List Operation := openEvent ++
      [.rehydrate ⟨0, 0⟩ ⟨1, .earliest, .event [some (.int 200)]⟩]
    let later : List Operation :=
      [.removeColumn 0 "Status", .addColumn 0 "Late" .int {}, .lockColumns 0]
    create instancesOpen 0 = .ok s ∧
    ¬ (s.run operations).telemetry.ShapeFixed ∧
    ((s.run (operations ++ later)).telemetry.samples ⟨0, 0⟩).map (·.value? 0) =
      [some (.int 200)] ∧
    (((s.run (operations ++ later)).telemetry.definition? 0).bind (·.columns?)).map
      (fun columns => columns.toList.map fun column => (column.name, column.index)) =
        some [("Late", some 0)] := by
  intro s operations later
  refine ⟨rfl, fun fixed => ?_, by decide +kernel, by decide +kernel⟩
  have stored : (s.run operations).telemetry.samples ⟨0, 0⟩ ≠ [] := by decide +kernel
  have unlocked : ¬ (s.run operations).telemetry.Locked 0 := by decide +kernel
  exact unlocked (fixed ⟨0, 0⟩ stored)

end Session

end Metering
