import Metering.Proofs.Shape

/-!
What a refusal leaves behind.

An operation that is refused leaves everything as it was (`run_refused`). There are two exceptions.
An attempt to write a packet uses the packet up, stored or not. And writing values, like asking for
the trend of a column, may lock the columns of the definition before it is refused, but does nothing
else (`Telemetry.LocksAtMost`).
-/

namespace Metering

open Metering.Time

/-- Why the operation was refused. -/
def Answer.error? : Answer → Option Error
  | .done (.error e) | .definition (.error e) | .column (.error e) | .columnCount (.error e)
  | .opened (.error e) | .packet (.error e) | .sample (.error e) | .series (.error e) => some e
  | _ => none

/-- The telemetry is the same, but that the open columns of the definition with the given id may
have been locked. -/
structure Telemetry.LocksAtMost (t t' : Telemetry) (id : DefinitionId) : Prop where
  settings : t'.settings = t.settings
  lastSequence : t'.lastSequence = t.lastSequence
  nextDefinition : t'.nextDefinition = t.nextDefinition
  nextInstance : t'.nextInstance = t.nextInstance
  order : t'.definitions.order = t.definitions.order
  index : t'.definitions.index = t.definitions.index
  elsewhere : ∀ other, other ≠ id → t'.definition? other = t.definition? other
  here : t'.definition? id = t.definition? id ∨
    ∃ d, t.definition? id = some d ∧ d.isLocked = false ∧ t'.definition? id = some d.lock

/-- What becomes of a session when the operation is refused. -/
def Session.AfterRefusal (s s' : Session) : Operation → Prop
  | .writePacket _ packet _ => s' = s.discard packet
  | .writeSample r _ _ | .query r _ _ =>
    s'.packets = s.packets ∧ s.telemetry.LocksAtMost s'.telemetry r.definition
  | _ => s' = s

namespace Definition

variable {d d' : Definition} {s : ColumnSet}

theorem withColumns_self (event : d.columns? = some s) : d.withColumns s = d := by
  rw [columns?_eq_some_iff] at event
  obtain ⟨id, key, body, instances⟩ := d
  obtain rfl : body = .event s := event
  rfl

/-- Locking a definition that is locked changes nothing. -/
theorem lock_eq_self (consistent : ∀ {s}, d.columns? = some s → s.Consistent)
    (locked : d.isLocked = true) : d.lock = d := by
  unfold lock
  cases event : d.columns? with
  | none => rfl
  | some s =>
      have closed := isLocked_iff.mp locked s event
      simp only [(consistent event).lock_eq_self closed]
      exact withColumns_self event

/-- Making a packet locks the definition. -/
theorem eq_lock_of_createPacket (consistent : ∀ {s}, d.columns? = some s → s.Consistent)
    {p : Packet} (created : d.createPacket = .ok (p, d')) : d' = d.lock := by
  obtain ⟨s, event, -, rfl⟩ := createPacket_eq_ok created
  unfold lock
  rw [event]
  cases locked : s.locked with
  | true => simp only [if_true, (consistent event).lock_eq_self locked]
  | false => rfl

end Definition

namespace Telemetry

variable {t t' t'' : Telemetry} {r : InstanceRef} {d : Definition} {id : DefinitionId} {e : Error}

theorem LocksAtMost.refl (t : Telemetry) (id : DefinitionId) : t.LocksAtMost t id :=
  ⟨rfl, rfl, rfl, rfl, rfl, rfl, fun _ _ => rfl, .inl rfl⟩

theorem locksAtMost_lock (sound : t.Sound) (found : t.definition? id = some d) :
    t.LocksAtMost (t.withDefinition d.lock) id := by
  have same_id : d.lock.id = id := (Definition.same_lock d).id.trans (sound.filed _ _ found).1
  refine ⟨rfl, rfl, rfl, rfl, rfl, rfl, fun other elsewhere => ?_, ?_⟩
  · rw [definition?_withDefinition, same_id, if_neg (Ne.symm elsewhere)]
  · rw [definition?_withDefinition, if_pos same_id, found]
    cases locked : d.isLocked with
    | true => exact .inl (congrArg some (Definition.lock_eq_self (sound.columns found) locked))
    | false => exact .inr ⟨d, rfl, locked, rfl⟩

/-! ### Operations that change nothing when they are refused -/

theorem define_error {schema : Schema} {key : Key} (refused : t.define schema key = (.error e, t')) :
    t' = t := by
  unfold define at refused
  cases existing : t.find? key with
  | some d =>
      simp only [existing] at refused
      exact (congrArg Prod.snd refused).symm
  | none => simp [existing] at refused

theorem onDefinition?_error {α : Type} {work : Definition → Except Error (α × Definition)}
    (refused : t.onDefinition? id work = some (.error e, t')) : t' = t := by
  rcases onDefinition?_cases refused with ⟨_, -, rfl⟩ | ⟨d, a, d', -, -, done, -⟩
  · rfl
  · cases done

theorem openInstance?_error {name : Option String}
    (refused : t.openInstance? id name = some (.error e, t')) : t' = t := by
  obtain ⟨d, -, done⟩ := Option.map_eq_some_iff.mp refused
  cases existing : d.find? name with
  | some i => simp [existing] at done
  | none => simp [existing] at done

theorem createPacket?_error (refused : t.createPacket? r = some (.error e, t')) : t' = t := by
  obtain ⟨_, -, refused⟩ := Option.bind_eq_some_iff.mp refused
  exact onDefinition?_error refused

/-! ### Operations that may lock the columns before they are refused -/

theorem createPacket?_locksAtMost (sound : t.Sound) {result : Except Error Packet}
    (done : t.createPacket? r = some (result, t')) : t.LocksAtMost t' r.definition := by
  obtain ⟨_, -, done⟩ := Option.bind_eq_some_iff.mp done
  rcases onDefinition?_cases done with ⟨_, -, rfl⟩ | ⟨d, p, d', found, created, -, rfl⟩
  · exact .refl _ _
  · obtain rfl := Definition.eq_lock_of_createPacket (sound.columns found) created
    exact locksAtMost_lock sound found

theorem writeSample?_locksAtMost (sound : t.Sound) {values : List (Option Value)}
    {timestamp : Timestamp} (refused : t.writeSample? r values timestamp = some (.error e, t')) :
    t.LocksAtMost t' r.definition := by
  obtain ⟨made, t₁, created, rest⟩ := writeSample?_steps refused
  have locks := createPacket?_locksAtMost sound created
  rcases rest with ⟨_, -, rfl⟩ | ⟨p, filled, -, -, written⟩
  · exact locks
  · obtain rfl := store?_error written
    exact locks

theorem query?_locksAtMost (sound : t.Sound) {settings : AggregationSettings} {q : Series.Query}
    {result : Except Error (Series Float)} (done : t.query? r settings q = some (result, t')) :
    t.LocksAtMost t' r.definition := by
  rcases query?_cases done with rfl | ⟨d, found, rfl⟩
  · exact .refl _ _
  · exact locksAtMost_lock sound found

end Telemetry

namespace Session

variable {s : Session} {settings : Settings} {lastSequence : Nat} {operation : Operation} {e : Error}

/-- An operation on telemetry that is refused. -/
theorem reply_refused {α : Type} {answer : Except Error α → Answer}
    {outcome : Option (Telemetry.Outcome α)} (accepts : ∀ a, (answer (.ok a)).error? = none)
    (unchanged : ∀ {e t'}, outcome = some (.error e, t') → t' = s.telemetry)
    (refused : (s.reply answer outcome).1.error? = some e) : (s.reply answer outcome).2 = s := by
  rcases outcome with _ | ⟨_ | a, t'⟩
  · rfl
  · obtain rfl := unchanged rfl
    rfl
  · rw [reply, accepts] at refused
    cases refused

theorem reply_locksAtMost {α : Type} {answer : Except Error α → Answer} {id : DefinitionId}
    {outcome : Option (Telemetry.Outcome α)} (accepts : ∀ a, (answer (.ok a)).error? = none)
    (locks : ∀ {e t'}, outcome = some (.error e, t') → s.telemetry.LocksAtMost t' id)
    (refused : (s.reply answer outcome).1.error? = some e) :
    s.telemetry.LocksAtMost (s.reply answer outcome).2.telemetry id := by
  rcases outcome with _ | ⟨_ | a, t'⟩
  · exact .refl _ _
  · exact locks rfl
  · rw [reply, accepts] at refused
    cases refused

/-- A change to a packet that is refused. -/
theorem edit_refused {packet : Nat} {edited : Option (Except Error Packet)}
    (refused : (s.edit packet edited).1.error? = some e) : (s.edit packet edited).2 = s := by
  rcases edited with _ | _ | p
  · rfl
  · rfl
  · cases refused

theorem step_refused (sound : s.telemetry.Sound) (operation : Operation)
    (refused : (s.step operation).1.error? = some e) :
    s.AfterRefusal (s.step operation).2 operation := by
  cases operation with
  | define schema key =>
      refine reply_refused (fun _ => rfl) (fun done => ?_) refused
      exact Telemetry.define_error (Option.some.inj done)
  | addColumn | rehydrateColumn | removeColumn | setDefaultColumn | lockColumns | lock =>
      exact reply_refused (fun _ => rfl) Telemetry.onDefinition?_error refused
  | openInstance id name =>
      exact reply_refused (fun _ => rfl) Telemetry.openInstance?_error refused
  | createPacket r =>
      simp only [step] at refused
      simp only [AfterRefusal, step]
      rcases created : s.telemetry.createPacket? r with _ | ⟨_ | p, t'⟩
      · rfl
      · obtain rfl := Telemetry.createPacket?_error created
        rfl
      · rw [created] at refused
        cases refused
  | setSlot | setNamed | fill => exact edit_refused refused
  | writePacket r packet timestamp =>
      simp only [step] at refused
      simp only [AfterRefusal, step]
      split at refused
      · cases refused
      · rename_i outcome written
        obtain ⟨p, -, written⟩ := Option.bind_eq_some_iff.mp written
        refine reply_refused (s := s.discard packet) (fun _ => rfl) (fun done => ?_) refused
        exact Telemetry.store?_error (written.trans done)
  | writeSample r values timestamp =>
      exact ⟨packets_reply, reply_locksAtMost (fun _ => rfl)
        (Telemetry.writeSample?_locksAtMost sound) refused⟩
  | writeReading r reading timestamp =>
      exact reply_refused (fun _ => rfl) Telemetry.store?_error refused
  | rehydrate r sample => exact reply_refused (fun _ => rfl) Telemetry.store?_error refused
  | query r settings q =>
      exact ⟨packets_reply, reply_locksAtMost (fun _ => rfl)
        (Telemetry.query?_locksAtMost sound) refused⟩
  | takeSequence | observe => cases refused

/-- **Refusals leave no trace** but for the columns that writing values and querying may lock. -/
theorem run_refused (created : create settings lastSequence = .ok s) (operations : List Operation)
    (operation : Operation) {e : Error}
    (refused : ((s.run operations).step operation).1.error? = some e) :
    (s.run operations).AfterRefusal ((s.run operations).step operation).2 operation :=
  step_refused (run_sound (sound_create created) operations) operation refused

/-- More values than there are columns are refused, but the columns are locked by then. -/
theorem run_refused_tooManyValues :
    let s : Session := ⟨{ settings := instancesOpen }, []⟩
    let write : Operation := .writeSample ⟨0, 0⟩ [some (.int 200), some (.int 404)] .earliest
    create instancesOpen 0 = .ok s ∧
    ((s.run openEvent).step write).1.error? = some (.unknownColumn "web~http~requests" "1") ∧
    (s.run openEvent).AfterRefusal ((s.run openEvent).step write).2 write ∧
    ¬ (s.run openEvent).telemetry.Locked 0 ∧
    ((s.run openEvent).step write).2.telemetry.Locked 0 := by
  intro s write
  have created : create instancesOpen 0 = .ok s := rfl
  have refused : ((s.run openEvent).step write).1.error? =
      some (.unknownColumn "web~http~requests" "1") := by decide +kernel
  exact ⟨created, refused, run_refused created openEvent write refused, by decide +kernel,
    by decide +kernel⟩

end Session

end Metering
