import Metering.Proofs.History

/-!
What an operation leaves as it was.

The samples of an instance are read through two catalogs, so an operation that replaces a definition
or an instance could lose them. It does not, as everything is filed under its own id and new ids are
unused (`Filed`). `Keeps` says that all instances hold the same samples, and `Puts` that one of them
holds other samples; every operation of telemetry does one or the other.
-/

namespace Metering

open Metering.Time

/-! ### The samples of an instance -/

/-- The samples of the instance with the given id; none if there is no such instance. -/
def Definition.samples (d : Definition) (id : InstanceId) : List Sample :=
  (d.instances.get? id).elim [] (·.store.samples)

def Telemetry.samples (t : Telemetry) (r : InstanceRef) : List Sample :=
  (t.definition? r.definition).elim [] (·.samples r.id)

/-- Instances are filed under their ids, which have been given out. -/
def Definition.Filed (d : Definition) (next : InstanceId) : Prop :=
  ∀ id i, d.instances.get? id = some i → i.id = id ∧ id < next

/-- Definitions and instances are filed under their ids, which have been given out. -/
def Telemetry.Filed (t : Telemetry) : Prop :=
  ∀ id d, t.definition? id = some d → d.id = id ∧ id < t.nextDefinition ∧ d.Filed t.nextInstance

/-- The definition has the same id, key and instances. -/
structure Definition.Same (d d' : Definition) : Prop where
  id : d'.id = d.id
  key : d'.key = d.key
  instances : d'.instances = d.instances

/-- All instances hold the same samples as before. -/
structure Telemetry.Keeps (t t' : Telemetry) : Prop where
  filed : t'.Filed
  samples : ∀ r, t'.samples r = t.samples r
  number : t.lastSequence ≤ t'.lastSequence

/-- One instance holds the given samples, and all others the same as before. The number of the
sample that was stored has been seen. -/
structure Telemetry.Puts (t t' : Telemetry) (r : InstanceRef) (sample : Sample)
    (samples : List Sample) : Prop where
  filed : t'.Filed
  here : t'.samples r = samples
  elsewhere : ∀ r', r' ≠ r → t'.samples r' = t.samples r'
  number : t'.lastSequence = max t.lastSequence sample.sequence

namespace Definition

variable {d d' : Definition} {next : InstanceId}

theorem Same.refl (d : Definition) : d.Same d :=
  ⟨rfl, rfl, rfl⟩

theorem Same.samples (same : d.Same d') (id : InstanceId) : d'.samples id = d.samples id := by
  rw [Definition.samples, same.instances, Definition.samples]

theorem Same.filed (same : d.Same d') (filed : d.Filed next) : d'.Filed next := by
  rw [Filed, same.instances]
  exact filed

theorem Filed.mono {next' : InstanceId} (filed : d.Filed next) (le : next ≤ next') :
    d.Filed next' := by
  intro id i found
  obtain ⟨same, below⟩ := filed _ _ found
  exact ⟨same, Nat.lt_of_lt_of_le below le⟩

/-! ### What keeps the instances of a definition -/

theorem same_withColumns (d : Definition) (columns : ColumnSet) : d.Same (d.withColumns columns) := by
  unfold withColumns
  cases d.body with
  | event _ => exact ⟨rfl, rfl, rfl⟩
  | counterSampled _ => exact ⟨rfl, rfl, rfl⟩

theorem same_lock (d : Definition) : d.Same d.lock := by
  unfold lock
  cases d.columns? with
  | some columns => exact same_withColumns d columns.lock
  | none => exact .refl d

theorem eq_lock_of_ok {a : Unit}
    (locked : (.ok ((), d.lock) : Except Error (Unit × Definition)) = .ok (a, d')) : d' = d.lock :=
  (congrArg Prod.snd (Except.ok.inj locked)).symm

theorem same_of_lock {a : Unit}
    (locked : (.ok ((), d.lock) : Except Error (Unit × Definition)) = .ok (a, d')) : d.Same d' :=
  eq_lock_of_ok locked ▸ same_lock d

theorem editColumns_eq_ok {α : Type} {edit : ColumnSet → Except Error (α × ColumnSet)} {a : α}
    (edited : d.editColumns edit = .ok (a, d')) :
    ∃ s s', d.columns? = some s ∧ edit s = .ok (a, s') ∧ d' = d.withColumns s' := by
  unfold editColumns columns at edited
  cases found : d.columns? with
  | none => simp [found] at edited
  | some s =>
      rw [found] at edited
      cases changed : edit s with
      | error e => simp [changed, Except.map] at edited
      | ok answer =>
          simp only [changed, Except.map, Except.ok.injEq, Prod.mk.injEq] at edited
          obtain ⟨rfl, rfl⟩ := edited
          exact ⟨s, answer.2, rfl, changed, rfl⟩

theorem createPacket_eq_ok {p : Packet} (created : d.createPacket = .ok (p, d')) :
    ∃ s, d.columns? = some s ∧ p = .ofColumns (if s.locked then s else s.lock) ∧
      d' = d.withColumns (if s.locked then s else s.lock) := by
  unfold createPacket at created
  cases found : d.columns? with
  | none => simp [found] at created
  | some s =>
      simp only [found, Except.ok.injEq, Prod.mk.injEq] at created
      exact ⟨s, rfl, created.1.symm, created.2.symm⟩

theorem same_of_editColumns {α : Type} {edit : ColumnSet → Except Error (α × ColumnSet)} {a : α}
    (edited : d.editColumns edit = .ok (a, d')) : d.Same d' := by
  obtain ⟨s, s', -, -, rfl⟩ := editColumns_eq_ok edited
  exact same_withColumns d s'

theorem same_of_createPacket {p : Packet} (created : d.createPacket = .ok (p, d')) :
    d.Same d' := by
  obtain ⟨s, -, -, rfl⟩ := createPacket_eq_ok created
  exact same_withColumns d _

/-! ### What changes one instance -/

theorem id_ofSchema (id : DefinitionId) (key : Key) (schema : Schema) :
    (ofSchema id key schema).id = id := by
  cases schema with
  | event => rfl
  | counterSampled _ => rfl

theorem get?_ofSchema (id : DefinitionId) (key : Key) (schema : Schema) (other : InstanceId) :
    (ofSchema id key schema).instances.get? other = none := by
  cases schema with
  | event => exact Catalog.get?_empty other
  | counterSampled _ => exact Catalog.get?_empty other

theorem samples_withStore (i : Instance) (store : Store) (id : InstanceId) :
    (d.withStore i store).samples id = if i.id = id then store.samples else d.samples id := by
  by_cases here : i.id = id
  · simp [Definition.samples, withStore, here]
  · simp [Definition.samples, withStore, here]

theorem filed_withStore {i : Instance} (filed : d.Filed next) (known : i.id < next)
    (store : Store) : (d.withStore i store).Filed next := by
  intro id other found
  by_cases here : i.id = id
  · obtain rfl : { i with store } = other := by simpa [withStore, here] using found
    exact ⟨here, here ▸ known⟩
  · exact filed _ _ (by simpa [withStore, here] using found)

theorem get?_createInstance (d : Definition) (name : Option String) (new : InstanceId)
    (lockFirst : Bool) (id : InstanceId) :
    (d.createInstance name new lockFirst).instances.get? id =
      if new = id then
        some { id := new, definition := d.id, key := d.instanceKey name,
               name := name.filter (· ≠ "") }
      else d.instances.get? id := by
  have same : d.Same (if lockFirst then d.lock else d) := by
    cases lockFirst with
    | true => exact same_lock d
    | false => exact .refl d
  unfold createInstance instanceKey
  simp only [Catalog.get?_insert, same.id, same.key, same.instances]

theorem id_createInstance (d : Definition) (name : Option String) (new : InstanceId)
    (lockFirst : Bool) : (d.createInstance name new lockFirst).id = d.id := by
  cases lockFirst with
  | true => exact (same_lock d).id
  | false => rfl

/-- A new instance has no samples, and neither had its id before. -/
theorem samples_createInstance (filed : d.Filed next) (name : Option String) (lockFirst : Bool)
    (id : InstanceId) : (d.createInstance name next lockFirst).samples id = d.samples id := by
  rw [Definition.samples, get?_createInstance]
  by_cases new : next = id
  · subst new
    have unused : d.instances.get? next = none := by
      cases found : d.instances.get? next with
      | none => rfl
      | some i => exact absurd (filed _ _ found).2 (Nat.lt_irrefl next)
    rw [if_pos rfl, Definition.samples, unused]
    rfl
  · rw [if_neg new, Definition.samples]

theorem filed_createInstance (filed : d.Filed next) (name : Option String) (lockFirst : Bool) :
    (d.createInstance name next lockFirst).Filed (next + 1) := by
  intro id i found
  rw [get?_createInstance] at found
  by_cases new : next = id
  · rw [if_pos new] at found
    obtain rfl := Option.some.inj found
    exact ⟨new, new ▸ Nat.lt_succ_self next⟩
  · rw [if_neg new] at found
    obtain ⟨same, below⟩ := filed _ _ found
    exact ⟨same, Nat.lt_succ_of_lt below⟩

/-! ### What stores a sample -/

section Stores

variable {i : Instance} {sequence : Nat} {timestamp : Timestamp} {sample : Sample}

theorem writePacket_eq_ok {p : Packet}
    (written : d.writePacket i sequence p timestamp = .ok (sample, d')) :
    d.checkPacket p = .ok () ∧ d.append i sequence timestamp (.event p.slots) = (sample, d') := by
  unfold writePacket at written
  cases checked : d.checkPacket p with
  | error e => simp [checked, Except.map] at written
  | ok _ =>
      rw [checked] at written
      exact ⟨rfl, Except.ok.inj written⟩

theorem writeReading_eq_ok {reading : Reading Float}
    (written : d.writeReading i sequence reading timestamp = .ok (sample, d')) :
    d.checkPayload (.counter reading) = .ok () ∧
      d.append i sequence timestamp (.counter reading) = (sample, d') := by
  unfold writeReading at written
  cases checked : d.checkPayload (.counter reading) with
  | error e => simp [checked, Except.map] at written
  | ok _ =>
      rw [checked] at written
      exact ⟨rfl, Except.ok.inj written⟩

theorem rehydrate_eq_ok {given : Sample} (loaded : d.rehydrate i given = .ok (sample, d')) :
    d.checkPayload given.payload = .ok () ∧ sample = given ∧
      ∃ store, i.store.rehydrate given = .ok store ∧ d' = d.withStore i store := by
  unfold rehydrate at loaded
  cases checked : d.checkPayload given.payload with
  | error e => simp [checked] at loaded
  | ok _ =>
      cases placed : i.store.rehydrate given with
      | error e => simp [checked, placed, Except.map] at loaded
      | ok store =>
          simp only [checked, placed, Except.map, Except.ok.injEq, Prod.mk.injEq] at loaded
          exact ⟨rfl, loaded.1.symm, store, rfl, loaded.2.symm⟩

/-- Whatever stores a sample changes the store of one instance, and nothing else. -/
theorem withStore_of_writePacket {p : Packet}
    (written : d.writePacket i sequence p timestamp = .ok (sample, d')) :
    ∃ store, d' = d.withStore i store :=
  ⟨_, (congrArg Prod.snd (writePacket_eq_ok written).2).symm⟩

theorem withStore_of_writeReading {reading : Reading Float}
    (written : d.writeReading i sequence reading timestamp = .ok (sample, d')) :
    ∃ store, d' = d.withStore i store :=
  ⟨_, (congrArg Prod.snd (writeReading_eq_ok written).2).symm⟩

theorem withStore_of_rehydrate {given : Sample} (loaded : d.rehydrate i given = .ok (sample, d')) :
    ∃ store, d' = d.withStore i store := by
  obtain ⟨-, -, store, -, placed⟩ := rehydrate_eq_ok loaded
  exact ⟨store, placed⟩

end Stores

end Definition

namespace Telemetry

variable {t t' t'' : Telemetry} {r : InstanceRef} {d d' : Definition} {i : Instance}

theorem Keeps.refl (filed : t.Filed) : t.Keeps t :=
  ⟨filed, fun _ => rfl, Nat.le_refl _⟩

theorem instance?_eq_some_iff :
    t.instance? r = some (d, i) ↔
      t.definition? r.definition = some d ∧ d.instances.get? r.id = some i := by
  unfold instance?
  simp only [Option.bind_eq_bind, Option.bind_eq_some_iff, Option.some.injEq, Prod.mk.injEq]
  constructor
  · rintro ⟨_, defined, _, within, rfl, rfl⟩
    exact ⟨defined, within⟩
  · rintro ⟨defined, within⟩
    exact ⟨d, defined, i, within, rfl, rfl⟩

theorem samples_of_instance? (found : t.instance? r = some (d, i)) :
    t.samples r = i.store.samples := by
  obtain ⟨defined, within⟩ := instance?_eq_some_iff.mp found
  rw [samples, defined]
  simp only [Option.elim_some, Definition.samples, within]

theorem exists_instance_of_mem {sample : Sample} (member : sample ∈ t.samples r) :
    ∃ d i, t.instance? r = some (d, i) := by
  rw [samples] at member
  cases defined : t.definition? r.definition with
  | none => simp [defined] at member
  | some d =>
      rw [defined, Option.elim_some, Definition.samples] at member
      cases within : d.instances.get? r.id with
      | none => simp [within] at member
      | some i => exact ⟨d, i, instance?_eq_some_iff.mpr ⟨defined, within⟩⟩

/-! ### Replacing a definition -/

theorem samples_withDefinition (t : Telemetry) (d : Definition) (r : InstanceRef) :
    (t.withDefinition d).samples r = if d.id = r.definition then d.samples r.id else t.samples r := by
  by_cases here : d.id = r.definition
  · simp [samples, definition?, withDefinition, here]
  · simp [samples, definition?, withDefinition, here]

theorem filed_withDefinition (filed : t.Filed) (known : d.id < t.nextDefinition)
    (inside : d.Filed t.nextInstance) : (t.withDefinition d).Filed := by
  intro id other found
  by_cases here : d.id = id
  · obtain rfl : d = other := by simpa [definition?, withDefinition, here] using found
    exact ⟨here, here ▸ known, inside⟩
  · have before : t.definition? id = some other := by
      simpa [definition?, withDefinition, here] using found
    exact filed _ _ before

theorem keeps_withDefinition (filed : t.Filed) (found : t.definition? d.id = some d)
    (same : d.Same d') : t.Keeps (t.withDefinition d') := by
  obtain ⟨-, known, inside⟩ := filed _ _ found
  constructor
  · exact filed_withDefinition filed (same.id ▸ known) (same.filed inside)
  · intro r
    rw [samples_withDefinition]
    split
    · rename_i here
      rw [same.samples, samples, ← here, same.id, found]
      rfl
    · rfl
  · exact Nat.le_refl _

theorem onDefinition?_cases {α : Type} {id : DefinitionId}
    {work : Definition → Except Error (α × Definition)} {result : Except Error α}
    (done : t.onDefinition? id work = some (result, t')) :
    (∃ e, result = .error e ∧ t' = t) ∨
      ∃ d a d', t.definition? id = some d ∧ work d = .ok (a, d') ∧ result = .ok a ∧
        t' = t.withDefinition d' := by
  obtain ⟨d, found, done⟩ := Option.map_eq_some_iff.mp done
  cases worked : work d with
  | error e =>
      simp only [worked, Prod.mk.injEq] at done
      exact .inl ⟨e, done.1.symm, done.2.symm⟩
  | ok answer =>
      simp only [worked, Prod.mk.injEq] at done
      exact .inr ⟨d, answer.1, answer.2, found, worked, done.1.symm, done.2.symm⟩

theorem onDefinition?_keeps {α : Type} {id : DefinitionId}
    {work : Definition → Except Error (α × Definition)} {result : Except Error α}
    (filed : t.Filed) (frame : ∀ {d a d'}, work d = .ok (a, d') → d.Same d')
    (done : t.onDefinition? id work = some (result, t')) : t.Keeps t' := by
  rcases onDefinition?_cases done with ⟨e, -, rfl⟩ | ⟨d, a, d', found, worked, -, rfl⟩
  · exact .refl filed
  · obtain ⟨rfl, -, -⟩ := filed _ _ found
    exact keeps_withDefinition filed found (frame worked)

/-! ### Operations that keep all samples -/

theorem define_keeps (filed : t.Filed) (schema : Schema) (key : Key) :
    t.Keeps (t.define schema key).2 := by
  unfold define
  cases t.find? key with
  | some d => exact .refl filed
  | none =>
      -- A definition under the new id would have been given it before.
      have unused : t.definition? t.nextDefinition = none := by
        cases found : t.definition? t.nextDefinition with
        | none => rfl
        | some d => exact absurd (filed _ _ found).2.1 (Nat.lt_irrefl _)
      have empty := Definition.get?_ofSchema t.nextDefinition key schema
      constructor
      · intro id d found
        by_cases new : t.nextDefinition = id
        · obtain rfl : Definition.ofSchema t.nextDefinition key schema = d := by
            simpa [definition?, new] using found
          refine ⟨?_, new ▸ Nat.lt_succ_self _, fun _ _ within => ?_⟩
          · rw [← new]
            exact Definition.id_ofSchema ..
          · rw [empty] at within
            cases within
        · have before : t.definition? id = some d := by simpa [definition?, new] using found
          obtain ⟨same, known, inside⟩ := filed _ _ before
          exact ⟨same, Nat.lt_succ_of_lt known, inside⟩
      · intro r
        by_cases new : t.nextDefinition = r.definition
        · have nothing : (Definition.ofSchema t.nextDefinition key schema).samples r.id = [] := by
            rw [Definition.samples, empty]
            rfl
          rw [samples, samples, ← new, unused, definition?, Catalog.get?_insert, if_pos rfl]
          exact nothing
        · simp [samples, definition?, new]
      · exact Nat.le_refl _

theorem onColumn?_keeps {id : DefinitionId} {edit : ColumnSet → Except Error (Nat × ColumnSet)}
    {result : Except Error ColumnRef} (filed : t.Filed)
    (done : t.onColumn? id edit = some (result, t')) : t.Keeps t' :=
  onDefinition?_keeps filed Definition.same_of_editColumns done

theorem setDefaultColumn?_keeps {id : DefinitionId} {name : String} {result : Except Error Unit}
    (filed : t.Filed) (done : t.setDefaultColumn? id name = some (result, t')) : t.Keeps t' :=
  onDefinition?_keeps filed Definition.same_of_editColumns done

theorem lockColumns?_keeps {id : DefinitionId} {result : Except Error Nat} (filed : t.Filed)
    (done : t.lockColumns? id = some (result, t')) : t.Keeps t' :=
  onDefinition?_keeps filed Definition.same_of_editColumns done

theorem lock?_keeps {id : DefinitionId} {result : Except Error Unit} (filed : t.Filed)
    (done : t.lock? id = some (result, t')) : t.Keeps t' :=
  onDefinition?_keeps filed Definition.same_of_lock done

/-- An instance is opened by finding it, or by making it in its definition. -/
theorem openInstance?_cases {id : DefinitionId} {name : Option String}
    {result : Except Error InstanceRef}
    (done : t.openInstance? id name = some (result, t')) :
    t' = t ∨ ∃ d, t.definition? id = some d ∧
      t' = { t.withDefinition (d.createInstance name t.nextInstance
        t.settings.registry.lockOnFirstInstance) with nextInstance := t.nextInstance + 1 } := by
  obtain ⟨d, found, done⟩ := Option.map_eq_some_iff.mp done
  cases existing : d.find? name with
  | some i =>
      simp only [existing, Prod.mk.injEq] at done
      exact .inl done.2.symm
  | none =>
      simp only [existing, Prod.mk.injEq] at done
      exact .inr ⟨d, found, done.2.symm⟩

theorem openInstance?_keeps {id : DefinitionId} {name : Option String}
    {result : Except Error InstanceRef} (filed : t.Filed)
    (done : t.openInstance? id name = some (result, t')) : t.Keeps t' := by
  rcases openInstance?_cases done with rfl | ⟨d, found, rfl⟩
  · exact .refl filed
  · obtain ⟨rfl, known, inside⟩ := filed _ _ found
    have id := d.id_createInstance name t.nextInstance t.settings.registry.lockOnFirstInstance
    have advanced : Filed { t with nextInstance := t.nextInstance + 1 } := by
      intro other d found
      obtain ⟨same, known, inside⟩ := filed _ _ found
      exact ⟨same, known, inside.mono (Nat.le_succ _)⟩
    constructor
    · exact filed_withDefinition advanced (id ▸ known) (Definition.filed_createInstance inside _ _)
    · intro r
      refine (samples_withDefinition t _ r).trans ?_
      by_cases here : d.id = r.definition
      · rw [if_pos (id.trans here), Definition.samples_createInstance inside, samples, ← here, found]
        rfl
      · rw [if_neg (id ▸ here)]
    · exact Nat.le_refl _

theorem createPacket?_keeps {result : Except Error Packet} (filed : t.Filed)
    (done : t.createPacket? r = some (result, t')) : t.Keeps t' := by
  obtain ⟨_, -, done⟩ := Option.bind_eq_some_iff.mp done
  exact onDefinition?_keeps filed Definition.same_of_createPacket done

/-- A query locks the definition of the instance, or changes nothing. -/
theorem query?_cases {settings : AggregationSettings} {q : Series.Query}
    {result : Except Error (Series Float)} (done : t.query? r settings q = some (result, t')) :
    t' = t ∨ ∃ d, t.definition? r.definition = some d ∧ t' = t.withDefinition d.lock := by
  obtain ⟨⟨d, i⟩, found, done⟩ := Option.map_eq_some_iff.mp done
  obtain ⟨defined, -⟩ := instance?_eq_some_iff.mp found
  simp only [Prod.mk.injEq] at done
  obtain ⟨-, rfl⟩ := done
  split
  · exact .inr ⟨d, defined, rfl⟩
  · exact .inl rfl

theorem query?_keeps {settings : AggregationSettings} {q : Series.Query}
    {result : Except Error (Series Float)} (filed : t.Filed)
    (done : t.query? r settings q = some (result, t')) : t.Keeps t' := by
  rcases query?_cases done with rfl | ⟨d, found, rfl⟩
  · exact .refl filed
  · rw [← (filed _ _ found).1] at found
    exact keeps_withDefinition filed found (Definition.same_lock d)

/-! ### Operations that store a sample -/

/-- Replacing the store of an instance. -/
theorem puts_withStore (filed : t.Filed) (found : t.instance? r = some (d, i)) (store : Store)
    (sample : Sample) :
    t.Puts ((t.withDefinition (d.withStore i store)).observe sample.sequence) r sample
      store.samples := by
  obtain ⟨defined, within⟩ := instance?_eq_some_iff.mp found
  obtain ⟨same, known, inside⟩ := filed _ _ defined
  obtain ⟨same', known'⟩ := inside _ _ within
  constructor
  · exact filed_withDefinition filed (same ▸ known)
      (Definition.filed_withStore inside (same' ▸ known') store)
  · refine (samples_withDefinition t _ r).trans ?_
    rw [if_pos (show (d.withStore i store).id = r.definition from same),
      Definition.samples_withStore, if_pos same']
  · intro r' other
    refine (samples_withDefinition t _ r').trans ?_
    by_cases here : d.id = r'.definition
    · have elsewhere : i.id ≠ r'.id := by
        intro same_id
        exact other (InstanceRef.ext (here.symm.trans same) (same_id.symm.trans same'))
      rw [if_pos (show (d.withStore i store).id = r'.definition from here),
        Definition.samples_withStore, if_neg elsewhere, samples, ← here, same, defined]
      rfl
    · rw [if_neg (show ¬ (d.withStore i store).id = r'.definition from here)]
  · rfl

theorem store?_error {work : Definition → Instance → Except Error (Sample × Definition)} {e : Error}
    (done : t.store? r work = some (.error e, t')) : t' = t := by
  unfold store? at done
  obtain ⟨⟨d, i⟩, -, done⟩ := Option.map_eq_some_iff.mp done
  cases worked : work d i with
  | error e =>
      simp only [worked, Prod.mk.injEq] at done
      exact done.2.symm
  | ok answer => simp [worked] at done

theorem store?_ok {work : Definition → Instance → Except Error (Sample × Definition)}
    {sample : Sample} (done : t.store? r work = some (.ok sample, t')) :
    ∃ d i d', t.instance? r = some (d, i) ∧ work d i = .ok (sample, d') ∧
      t' = (t.withDefinition d').observe sample.sequence := by
  unfold store? at done
  obtain ⟨⟨d, i⟩, found, done⟩ := Option.map_eq_some_iff.mp done
  cases worked : work d i with
  | error e => simp [worked] at done
  | ok answer =>
      simp only [worked, Prod.mk.injEq, Except.ok.injEq] at done
      obtain ⟨rfl, rfl⟩ := done
      exact ⟨d, i, answer.2, found, worked, rfl⟩

/-- A sample that is stored under the next number goes to the end. -/
theorem append_puts {sample : Sample} {d' : Definition} {timestamp : Timestamp} {payload : Payload}
    (filed : t.Filed) (found : t.instance? r = some (d, i))
    (appended : d.append i (t.lastSequence + 1) timestamp payload = (sample, d')) :
    sample.sequence = t.lastSequence + 1 ∧
      t.Puts ((t.withDefinition d').observe sample.sequence) r sample (t.samples r ++ [sample]) := by
  obtain ⟨rfl, rfl⟩ := Prod.mk.inj appended
  refine ⟨rfl, ?_⟩
  rw [samples_of_instance? found]
  exact puts_withStore filed found _ _

theorem writeReading?_ok {reading : Reading Float} {timestamp : Timestamp} {sample : Sample}
    (filed : t.Filed) (done : t.writeReading? r reading timestamp = some (.ok sample, t')) :
    sample.sequence = t.lastSequence + 1 ∧ t.Puts t' r sample (t.samples r ++ [sample]) := by
  obtain ⟨d, i, d', found, worked, rfl⟩ := store?_ok done
  exact append_puts filed found (Definition.writeReading_eq_ok worked).2

theorem writePacket?_ok {p : Packet} {timestamp : Timestamp} {sample : Sample}
    (filed : t.Filed) (done : t.writePacket? r p timestamp = some (.ok sample, t')) :
    sample.sequence = t.lastSequence + 1 ∧ t.Puts t' r sample (t.samples r ++ [sample]) := by
  obtain ⟨d, i, d', found, worked, rfl⟩ := store?_ok done
  exact append_puts filed found (Definition.writePacket_eq_ok worked).2

theorem rehydrate?_ok {given sample : Sample} (filed : t.Filed)
    (done : t.rehydrate? r given = some (.ok sample, t')) :
    sample = given ∧ ∃ store store' : Store, store.samples = t.samples r ∧
      store.rehydrate sample = .ok store' ∧ t.Puts t' r sample store'.samples := by
  obtain ⟨d, i, d', found, worked, rfl⟩ := store?_ok done
  obtain ⟨-, rfl, store', placed, rfl⟩ := Definition.rehydrate_eq_ok worked
  exact ⟨rfl, i.store, store', (samples_of_instance? found).symm, placed,
    puts_withStore filed found store' sample⟩

/-- Storing a sample after an operation that keeps all samples. -/
theorem Keeps.puts {sample : Sample} (keeps : t.Keeps t') (fresh : t'.lastSequence < sample.sequence)
    (puts : t'.Puts t'' r sample (t'.samples r ++ [sample])) :
    t.lastSequence < sample.sequence ∧ t.Puts t'' r sample (t.samples r ++ [sample]) := by
  have later := Nat.lt_of_le_of_lt keeps.number fresh
  refine ⟨later, puts.filed, ?_, ?_, ?_⟩
  · rw [puts.here, keeps.samples]
  · intro r' other
    rw [puts.elsewhere r' other, keeps.samples]
  · rw [puts.number, Nat.max_eq_right (Nat.le_of_lt fresh), Nat.max_eq_right (Nat.le_of_lt later)]

/-- Writing values makes a packet first; the write follows unless the packet is refused. -/
theorem writeSample?_steps {values : List (Option Value)} {timestamp : Timestamp}
    {result : Except Error Sample} (done : t.writeSample? r values timestamp = some (result, t')) :
    ∃ made t₁, t.createPacket? r = some (made, t₁) ∧
      ((∃ e, result = .error e ∧ t' = t₁) ∨
        ∃ p filled, made = .ok p ∧ p.fill values = .ok filled ∧
          t₁.writePacket? r filled timestamp = some (result, t')) := by
  obtain ⟨⟨made, t₁⟩, created, done⟩ := Option.bind_eq_some_iff.mp done
  refine ⟨made, t₁, created, ?_⟩
  cases made with
  | error e =>
      simp only [Option.some.injEq, Prod.mk.injEq] at done
      exact .inl ⟨e, done.1.symm, done.2.symm⟩
  | ok p =>
      simp only at done
      cases filled : p.fill values with
      | error e =>
          simp only [filled, Option.some.injEq, Prod.mk.injEq] at done
          exact .inl ⟨e, done.1.symm, done.2.symm⟩
      | ok filled' =>
          rw [filled] at done
          exact .inr ⟨p, filled', rfl, filled, done⟩

/-- Writing values is refused before the write, or is the write of a packet. -/
theorem writeSample?_cases {values : List (Option Value)} {timestamp : Timestamp}
    {result : Except Error Sample} (filed : t.Filed)
    (done : t.writeSample? r values timestamp = some (result, t')) :
    (∃ e, result = .error e ∧ t.Keeps t') ∨
      ∃ p t₁, t.Keeps t₁ ∧ t₁.writePacket? r p timestamp = some (result, t') := by
  obtain ⟨made, t₁, created, rest⟩ := writeSample?_steps done
  have keeps := createPacket?_keeps filed created
  rcases rest with ⟨e, rfl, rfl⟩ | ⟨-, p, -, -, written⟩
  · exact .inl ⟨e, rfl, keeps⟩
  · exact .inr ⟨p, t₁, keeps, written⟩

theorem writeSample?_ok {sample : Sample} {values : List (Option Value)} {timestamp : Timestamp}
    (filed : t.Filed) (done : t.writeSample? r values timestamp = some (.ok sample, t')) :
    t.lastSequence < sample.sequence ∧ t.Puts t' r sample (t.samples r ++ [sample]) := by
  rcases writeSample?_cases filed done with ⟨e, refused, -⟩ | ⟨p, t₁, keeps, written⟩
  · cases refused
  · obtain ⟨next, puts⟩ := writePacket?_ok keeps.filed written
    exact keeps.puts (next ▸ Nat.lt_succ_self _) puts

theorem writeSample?_error {values : List (Option Value)} {timestamp : Timestamp} {e : Error}
    (filed : t.Filed) (done : t.writeSample? r values timestamp = some (.error e, t')) :
    t.Keeps t' := by
  rcases writeSample?_cases filed done with ⟨e', -, keeps⟩ | ⟨p, t₁, keeps, refused⟩
  · exact keeps
  · obtain rfl := store?_error refused
    exact keeps

end Telemetry

end Metering
