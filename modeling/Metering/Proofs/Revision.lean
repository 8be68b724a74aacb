import Metering.Proofs.ColumnSet
import Metering.Proofs.Frames

/-!
What an operation makes of the definitions.

A definition is never lost. It keeps its id, its key and what it measures; of what says how its
samples look, only the columns of an event change (`Definition.Revises`). For every operation
`step_revises` says which edit of the columns that can be (`ColumnStep`): one that open sets allow,
or the load of a stored column.
-/

namespace Metering

open Metering.Time

/-! ### Revisions -/

/-- The columns of an event are edited; a counter has none. -/
inductive Body.Revises (edit : ColumnSet → ColumnSet → Prop) : Body → Body → Prop where
  | event {s s' : ColumnSet} : edit s s' → Body.Revises edit (.event s) (.event s')
  | counterSampled (type : SamplingType) :
      Body.Revises edit (.counterSampled type) (.counterSampled type)

/-- The definition is the same but for its columns and its instances. -/
structure Definition.Revises (edit : ColumnSet → ColumnSet → Prop) (d d' : Definition) : Prop where
  id : d'.id = d.id
  key : d'.key = d.key
  body : d.body.Revises edit d'.body

/-- Each definition is revised, and a new one is as it is made for a schema, without columns. -/
structure Telemetry.Revises (edit : DefinitionId → ColumnSet → ColumnSet → Prop)
    (t t' : Telemetry) : Prop where
  kept : ∀ {id : DefinitionId} {d : Definition}, t.definition? id = some d →
    ∃ d', t'.definition? id = some d' ∧ d.Revises (edit id) d'
  new : ∀ {id : DefinitionId} {d' : Definition}, t.definition? id = none →
    t'.definition? id = some d' → ∃ key schema, (Definition.ofSchema id key schema).Revises Eq d'

/-- The serial number of the stored column that was loaded into the definition with the given
id. -/
def Entry.loadedColumn? (id : DefinitionId) (e : Entry) : Option Nat :=
  match e.operation, e.answer with
  | .rehydrateColumn id' _ _ _, .column (.ok ref) => if id' = id then some ref.serial else none
  | _, _ => none

/-- What an operation makes of the columns of the definition with the given id. -/
inductive ColumnStep (e : Entry) (id : DefinitionId) (s s' : ColumnSet) : Prop where
  | edits (nothing : e.loadedColumn? id = none) (edit : s.Edit s')
  | loads {name : String} {type : ValueType} {options : ColumnOptions} {serial : Nat}
      (loaded : e.loadedColumn? id = some serial)
      (done : s.rehydrate name type options = .ok (serial, s'))

theorem Body.Revises.refl {edit : ColumnSet → ColumnSet → Prop} (keeps : ∀ s, edit s s) (b : Body) :
    b.Revises edit b := by
  cases b with
  | event s => exact .event (keeps s)
  | counterSampled type => exact .counterSampled type

theorem Body.Revises.mono {edit edit' : ColumnSet → ColumnSet → Prop} {b b' : Body}
    (weaker : ∀ s s', edit s s' → edit' s s') (revises : b.Revises edit b') :
    b.Revises edit' b' := by
  cases revises with
  | event edited => exact .event (weaker _ _ edited)
  | counterSampled type => exact .counterSampled type

theorem Body.Revises.eq {b b' : Body} (same : b.Revises Eq b') : b' = b := by
  cases same with
  | event equal => exact congrArg Body.event equal.symm
  | counterSampled type => rfl

namespace Definition

variable {edit : ColumnSet → ColumnSet → Prop} {d d' d'' : Definition} {s : ColumnSet}

theorem columns?_eq_some_iff : d.columns? = some s ↔ d.body = .event s := by
  unfold columns?
  cases d.body with
  | event columns => simp
  | counterSampled type => simp

theorem Revises.refl (keeps : ∀ s, edit s s) (d : Definition) : d.Revises edit d :=
  ⟨rfl, rfl, .refl keeps d.body⟩

theorem Revises.mono {edit' : ColumnSet → ColumnSet → Prop}
    (weaker : ∀ s s', edit s s' → edit' s s') (revises : d.Revises edit d') : d.Revises edit' d' :=
  ⟨revises.id, revises.key, revises.body.mono weaker⟩

theorem Revises.trans_eq (revises : d.Revises edit d') (same : d'.Revises Eq d'') :
    d.Revises edit d'' :=
  ⟨same.id.trans revises.id, same.key.trans revises.key, same.body.eq ▸ revises.body⟩

theorem Revises.columns?_before (revises : d.Revises edit d') {s' : ColumnSet}
    (found : d'.columns? = some s') : ∃ s, d.columns? = some s ∧ edit s s' := by
  rw [columns?_eq_some_iff] at found
  have body := revises.body
  rw [found] at body
  cases there : d.body with
  | event s =>
      rw [there] at body
      cases body with
      | event edited => exact ⟨s, columns?_eq_some_iff.mpr there, edited⟩
  | counterSampled type =>
      rw [there] at body
      cases body

/-- The edits of an event, read off its columns. -/
theorem Revises.columns? (revises : d.Revises edit d') (found : d.columns? = some s) :
    ∃ s', d'.columns? = some s' ∧ edit s s' := by
  rw [columns?_eq_some_iff] at found
  have body := revises.body
  rw [found] at body
  cases there : d'.body with
  | event s' =>
      rw [there] at body
      cases body with
      | event edited => exact ⟨s', columns?_eq_some_iff.mpr there, edited⟩
  | counterSampled type =>
      rw [there] at body
      cases body

theorem revises_withColumns (found : d.columns? = some s) {s' : ColumnSet} (edited : edit s s') :
    d.Revises edit (d.withColumns s') := by
  rw [columns?_eq_some_iff] at found
  have replaced : d.withColumns s' = { d with body := .event s' } := by
    unfold withColumns
    rw [found]
  rw [replaced]
  refine ⟨rfl, rfl, ?_⟩
  rw [found]
  exact .event edited

theorem revises_lock (d : Definition) : d.Revises ColumnSet.Edit d.lock := by
  unfold lock
  cases found : d.columns? with
  | some s => exact revises_withColumns found (.locks s)
  | none => exact .refl .keeps d

theorem revises_withStore (keeps : ∀ s, edit s s) (i : Instance) (store : Store) :
    d.Revises edit (d.withStore i store) :=
  ⟨rfl, rfl, .refl keeps d.body⟩

theorem revises_createInstance (d : Definition) (name : Option String) (id : InstanceId)
    (lockFirst : Bool) : d.Revises ColumnSet.Edit (d.createInstance name id lockFirst) := by
  cases lockFirst with
  | true =>
      have locked := revises_lock d
      exact ⟨locked.id, locked.key, locked.body⟩
  | false => exact ⟨rfl, rfl, .refl .keeps d.body⟩

theorem revises_of_editColumns {α : Type} {work : ColumnSet → Except Error (α × ColumnSet)} {a : α}
    (sound : ∀ {s s'}, work s = .ok (a, s') → edit s s')
    (edited : d.editColumns work = .ok (a, d')) : d.Revises edit d' := by
  obtain ⟨s, s', found, worked, rfl⟩ := editColumns_eq_ok edited
  exact revises_withColumns found (sound worked)

theorem kind_eq_counterSampled_iff : d.kind = .counterSampled ↔ d.columns? = none := by
  unfold kind schema columns?
  cases d.body with
  | event columns => simp [Schema.kind]
  | counterSampled type => simp [Schema.kind]

/-- A packet is stored by the event it was made for. -/
theorem checkPacket_eq_ok {p : Packet} (checked : d.checkPacket p = .ok ()) :
    p.definition = d.id ∧ ∃ s, d.columns? = some s := by
  unfold checkPacket at checked
  cases found : d.columns? with
  | none => simp [found] at checked
  | some s =>
      by_cases own : p.definition = d.id
      · exact ⟨own, s, rfl⟩
      · simp [found, own] at checked

/-- What passes the check of its payload is of the kind of the definition. -/
theorem checkPayload_eq_ok {payload : Payload} (checked : d.checkPayload payload = .ok ()) :
    payload.kind = d.kind := by
  unfold checkPayload at checked
  by_cases same : payload.kind = d.kind
  · exact same
  · simp [same] at checked

end Definition

namespace Telemetry

variable {edit : DefinitionId → ColumnSet → ColumnSet → Prop} {t t' t'' : Telemetry}
  {d d' : Definition} {r : InstanceRef} {id : DefinitionId}

theorem definition?_withDefinition (t : Telemetry) (d : Definition) (id : DefinitionId) :
    (t.withDefinition d).definition? id = if d.id = id then some d else t.definition? id :=
  Catalog.get?_set ..

theorem Revises.refl (keeps : ∀ id s, edit id s s) (t : Telemetry) : t.Revises edit t := by
  constructor
  · intro id d found
    exact ⟨d, found, .refl (keeps id) d⟩
  · intro id d missing found
    rw [missing] at found
    cases found

theorem Revises.mono {edit' : DefinitionId → ColumnSet → ColumnSet → Prop}
    (weaker : ∀ id s s', edit id s s' → edit' id s s') (revises : t.Revises edit t') :
    t.Revises edit' t' := by
  constructor
  · intro id d found
    obtain ⟨d', found', revised⟩ := revises.kept found
    exact ⟨d', found', revised.mono (weaker id)⟩
  · exact revises.new

/-- Only the definitions matter to a revision. -/
theorem Revises.congr (revises : t.Revises edit t') (same : t''.definitions = t'.definitions) :
    t.Revises edit t'' := by
  have found : ∀ id, t''.definition? id = t'.definition? id := fun id => by
    rw [definition?, same, definition?]
  constructor
  · intro id d there
    rw [found]
    exact revises.kept there
  · intro id d missing there
    rw [found] at there
    exact revises.new missing there

theorem Revises.of_eq (same : t.Revises (fun _ => Eq) t') :
    t.Revises (fun _ => ColumnSet.Edit) t' := by
  refine same.mono fun _ s s' equal => ?_
  obtain rfl : s = s' := equal
  exact .keeps s

/-- What holds of every set of columns, if it holds of new ones and is kept by the edits. -/
theorem Revises.forall_columns (inv : DefinitionId → ColumnSet → Prop) (revises : t.Revises edit t')
    (begun : ∀ id (key : Key), inv id { definition := id, owner := key.text })
    (keeps : ∀ {id s s'}, edit id s s' → inv id s → inv id s')
    (holds : ∀ {id d s}, t.definition? id = some d → d.columns? = some s → inv id s)
    {s' : ColumnSet} (found : t'.definition? id = some d') (event : d'.columns? = some s') :
    inv id s' := by
  cases before : t.definition? id with
  | none =>
      obtain ⟨key, schema, made⟩ := revises.new before found
      obtain ⟨s, columns, rfl⟩ := made.columns?_before event
      cases schema with
      | event =>
          obtain rfl := Option.some.inj columns
          exact begun id key
      | counterSampled type => cases columns
  | some d =>
      obtain ⟨d'', found', revised⟩ := revises.kept before
      obtain rfl : d'' = d' := Option.some.inj (found'.symm.trans found)
      obtain ⟨s, columns, edited⟩ := revised.columns?_before event
      exact keeps edited (holds before columns)

/-- What leaves the columns as they are adds nothing to a revision. -/
theorem Revises.trans_eq (revises : t.Revises edit t') (same : t'.Revises (fun _ => Eq) t'') :
    t.Revises edit t'' := by
  constructor
  · intro id d found
    obtain ⟨d', found', revised⟩ := revises.kept found
    obtain ⟨d'', found'', equal⟩ := same.kept found'
    exact ⟨d'', found'', revised.trans_eq equal⟩
  · intro id d'' missing found
    cases between : t'.definition? id with
    | none => exact same.new between found
    | some d' =>
        obtain ⟨key, schema, made⟩ := revises.new missing between
        obtain ⟨other, found', equal⟩ := same.kept between
        obtain rfl : other = d'' := Option.some.inj (found'.symm.trans found)
        exact ⟨key, schema, made.trans_eq equal⟩

/-- Replacing a definition that is filed under its id. -/
theorem revises_withDefinition (found : t.definition? d.id = some d)
    (revised : d.Revises (edit d.id) d') (keeps : ∀ id, id ≠ d.id → ∀ s, edit id s s) :
    t.Revises edit (t.withDefinition d') := by
  constructor
  · intro id other there
    rw [definition?_withDefinition, revised.id]
    by_cases here : d.id = id
    · subst here
      rw [found] at there
      obtain rfl := Option.some.inj there
      exact ⟨d', if_pos rfl, revised⟩
    · rw [if_neg here]
      exact ⟨other, there, .refl (keeps id (Ne.symm here)) other⟩
  · intro id other missing there
    rw [definition?_withDefinition, revised.id] at there
    by_cases here : d.id = id
    · rw [← here, found] at missing
      cases missing
    · rw [if_neg here, missing] at there
      cases there

/-- Work on one definition that edits its columns as an open set allows. -/
theorem onDefinition?_revises {α : Type} {work : Definition → Except Error (α × Definition)}
    {result : Except Error α} (filed : t.Filed)
    (sound : ∀ {d a d'}, work d = .ok (a, d') → d.Revises ColumnSet.Edit d')
    (done : t.onDefinition? id work = some (result, t')) :
    t.Revises (fun _ => ColumnSet.Edit) t' := by
  rcases onDefinition?_cases done with ⟨e, -, rfl⟩ | ⟨d, a, d', found, worked, -, rfl⟩
  · exact .refl (fun _ => .keeps) t'
  · obtain ⟨rfl, -, -⟩ := filed _ _ found
    exact revises_withDefinition found (sound worked) fun _ _ => .keeps

/-! ### The operations of telemetry -/

theorem define_revises (filed : t.Filed) (schema : Schema) (key : Key) :
    t.Revises (fun _ => ColumnSet.Edit) (t.define schema key).2 := by
  unfold define
  cases t.find? key with
  | some d => exact .refl (fun _ => .keeps) t
  | none =>
      constructor
      · intro id d found
        have other : t.nextDefinition ≠ id := fun new =>
          Nat.lt_irrefl _ (new ▸ (filed _ _ found).2.1)
        refine ⟨d, ?_, .refl .keeps d⟩
        rw [definition?, Catalog.get?_insert, if_neg other]
        exact found
      · intro id d missing found
        rw [definition?, Catalog.get?_insert] at found
        by_cases new : t.nextDefinition = id
        · rw [if_pos new] at found
          obtain rfl := Option.some.inj found
          exact ⟨key, schema, by rw [new]; exact .refl (fun _ => rfl) _⟩
        · rw [if_neg new] at found
          rw [definition?, found] at missing
          cases missing

theorem onColumn?_cases {work : ColumnSet → Except Error (Nat × ColumnSet)}
    {result : Except Error ColumnRef} (done : t.onColumn? id work = some (result, t')) :
    (∃ e, result = .error e ∧ t' = t) ∨
      ∃ d s ref s', t.definition? id = some d ∧ d.columns? = some s ∧
        work s = .ok (ref.serial, s') ∧ result = .ok ref ∧
        t' = t.withDefinition (d.withColumns s') := by
  rcases onDefinition?_cases done with refused | ⟨d, ref, d', found, edited, rfl, rfl⟩
  · exact .inl refused
  · obtain ⟨s, s', columns, worked, rfl⟩ := Definition.editColumns_eq_ok edited
    cases answered : work s with
    | error e => simp [answered, Except.map] at worked
    | ok answer =>
        simp only [answered, Except.map, Except.ok.injEq, Prod.mk.injEq] at worked
        obtain ⟨rfl, rfl⟩ := worked
        exact .inr ⟨d, s, _, answer.2, found, columns, answered, rfl, rfl⟩

/-- An operation on columns that open sets alone allow. -/
theorem onColumn?_revises {work : ColumnSet → Except Error (Nat × ColumnSet)}
    {result : Except Error ColumnRef} (filed : t.Filed)
    (sound : ∀ {s serial s'}, work s = .ok (serial, s') → s.Edit s')
    (done : t.onColumn? id work = some (result, t')) :
    t.Revises (fun _ => ColumnSet.Edit) t' := by
  rcases onColumn?_cases done with ⟨e, -, rfl⟩ | ⟨d, s, ref, s', found, columns, worked, -, rfl⟩
  · exact .refl (fun _ => .keeps) t'
  · obtain ⟨rfl, -, -⟩ := filed _ _ found
    exact revises_withDefinition found (Definition.revises_withColumns columns (sound worked))
      fun _ _ => .keeps

theorem setDefaultColumn?_revises {name : String} {result : Except Error Unit} (filed : t.Filed)
    (done : t.setDefaultColumn? id name = some (result, t')) :
    t.Revises (fun _ => ColumnSet.Edit) t' := by
  refine onDefinition?_revises filed
    (Definition.revises_of_editColumns fun {s s'} nominated => ?_) done
  cases edited : s.setDefault name with
  | error e => simp [edited, Except.map] at nominated
  | ok s'' =>
      simp only [edited, Except.map, Except.ok.injEq, Prod.mk.injEq] at nominated
      exact nominated.2 ▸ .nominates edited

theorem lockColumns?_revises {result : Except Error Nat} (filed : t.Filed)
    (done : t.lockColumns? id = some (result, t')) : t.Revises (fun _ => ColumnSet.Edit) t' := by
  refine onDefinition?_revises filed
    (Definition.revises_of_editColumns fun {s s'} locked => ?_) done
  obtain rfl := congrArg Prod.snd (Except.ok.inj locked)
  exact .locks s

theorem lock?_revises {result : Except Error Unit} (filed : t.Filed)
    (done : t.lock? id = some (result, t')) : t.Revises (fun _ => ColumnSet.Edit) t' := by
  refine onDefinition?_revises filed (fun worked => ?_) done
  obtain rfl := Definition.eq_lock_of_ok worked
  exact Definition.revises_lock _

theorem openInstance?_revises {name : Option String} {result : Except Error InstanceRef}
    (filed : t.Filed) (done : t.openInstance? id name = some (result, t')) :
    t.Revises (fun _ => ColumnSet.Edit) t' := by
  rcases openInstance?_cases done with rfl | ⟨d, found, rfl⟩
  · exact .refl (fun _ => .keeps) t'
  · obtain ⟨rfl, -, -⟩ := filed _ _ found
    exact (revises_withDefinition found (d.revises_createInstance name t.nextInstance
      t.settings.registry.lockOnFirstInstance) fun _ _ => .keeps).congr rfl

/-- A packet is made for columns that are locked from then on. -/
theorem createPacket?_cases {result : Except Error Packet}
    (done : t.createPacket? r = some (result, t')) :
    (∃ e, result = .error e ∧ t' = t) ∨
      ∃ d s s', t.definition? r.definition = some d ∧ d.columns? = some s ∧ s.Edit s' ∧
        s'.locked = true ∧ result = .ok (.ofColumns s') ∧
        t' = t.withDefinition (d.withColumns s') := by
  obtain ⟨_, -, done⟩ := Option.bind_eq_some_iff.mp done
  rcases onDefinition?_cases done with refused | ⟨d, p, d', found, created, rfl, rfl⟩
  · exact .inl refused
  · obtain ⟨s, columns, rfl, rfl⟩ := Definition.createPacket_eq_ok created
    have locked : (if s.locked then s else s.lock).locked = true := by
      cases already : s.locked with
      | true => exact already
      | false => rfl
    exact .inr ⟨d, s, _, found, columns, .lockOpen s, locked, rfl, rfl⟩

theorem createPacket?_revises {result : Except Error Packet} (filed : t.Filed)
    (done : t.createPacket? r = some (result, t')) : t.Revises (fun _ => ColumnSet.Edit) t' := by
  rcases createPacket?_cases done with ⟨e, -, rfl⟩ | ⟨d, s, s', found, columns, edit, -, -, rfl⟩
  · exact .refl (fun _ => .keeps) t'
  · obtain ⟨same, -, -⟩ := filed _ _ found
    rw [← same] at found
    exact revises_withDefinition found (Definition.revises_withColumns columns edit)
      fun _ _ => .keeps

theorem query?_revises {settings : AggregationSettings} {q : Series.Query}
    {result : Except Error (Series Float)} (filed : t.Filed)
    (done : t.query? r settings q = some (result, t')) :
    t.Revises (fun _ => ColumnSet.Edit) t' := by
  rcases query?_cases done with rfl | ⟨d, found, rfl⟩
  · exact .refl (fun _ => .keeps) t'
  · rw [← (filed _ _ found).1] at found
    exact revises_withDefinition found d.revises_lock fun _ _ => .keeps

/-- Storing a sample leaves all columns as they are. -/
theorem store?_revises {work : Definition → Instance → Except Error (Sample × Definition)}
    {result : Except Error Sample} (filed : t.Filed)
    (sound : ∀ {d i sample d'}, work d i = .ok (sample, d') → ∃ store, d' = d.withStore i store)
    (done : t.store? r work = some (result, t')) : t.Revises (fun _ => Eq) t' := by
  cases result with
  | error e =>
      obtain rfl := store?_error done
      exact .refl (fun _ _ => rfl) t'
  | ok sample =>
      obtain ⟨d, i, d', found, worked, rfl⟩ := store?_ok done
      obtain ⟨store, rfl⟩ := sound worked
      obtain ⟨defined, -⟩ := instance?_eq_some_iff.mp found
      obtain ⟨same, -, -⟩ := filed _ _ defined
      rw [← same] at defined
      exact (revises_withDefinition defined (Definition.revises_withStore (fun _ => rfl) i store)
        fun _ _ _ => rfl).congr rfl

theorem writeReading?_revises {reading : Reading Float} {timestamp : Timestamp}
    {result : Except Error Sample} (filed : t.Filed)
    (done : t.writeReading? r reading timestamp = some (result, t')) :
    t.Revises (fun _ => Eq) t' :=
  store?_revises filed Definition.withStore_of_writeReading done

theorem writePacket?_revises {p : Packet} {timestamp : Timestamp} {result : Except Error Sample}
    (filed : t.Filed) (done : t.writePacket? r p timestamp = some (result, t')) :
    t.Revises (fun _ => Eq) t' :=
  store?_revises filed Definition.withStore_of_writePacket done

theorem rehydrate?_revises {given : Sample} {result : Except Error Sample} (filed : t.Filed)
    (done : t.rehydrate? r given = some (result, t')) : t.Revises (fun _ => Eq) t' :=
  store?_revises filed Definition.withStore_of_rehydrate done

theorem writeSample?_revises {values : List (Option Value)} {timestamp : Timestamp}
    {result : Except Error Sample} (filed : t.Filed)
    (done : t.writeSample? r values timestamp = some (result, t')) :
    t.Revises (fun _ => ColumnSet.Edit) t' := by
  obtain ⟨made, t₁, created, rest⟩ := writeSample?_steps done
  have revises := createPacket?_revises filed created
  rcases rest with ⟨e, -, rfl⟩ | ⟨p, filled, -, -, written⟩
  · exact revises
  · have filed₁ := (createPacket?_keeps filed created).filed
    exact revises.trans_eq (writePacket?_revises filed₁ written)

/-- Loading a stored column is the one operation that adds to locked columns. -/
theorem rehydrateColumn?_revises {name : String} {type : ValueType} {options : ColumnOptions}
    {result : Except Error ColumnRef} (filed : t.Filed)
    (done : t.rehydrateColumn? id name type options = some (result, t')) :
    t.Revises (ColumnStep ⟨.rehydrateColumn id name type options, .column result⟩) t' := by
  rcases onColumn?_cases done with ⟨e, rfl, rfl⟩ | ⟨d, s, ref, s', found, columns, worked, rfl, rfl⟩
  · exact .refl (fun _ s => .edits rfl (.keeps s)) t'
  · obtain ⟨rfl, -, -⟩ := filed _ _ found
    refine revises_withDefinition found (Definition.revises_withColumns columns ?_) ?_
    · exact .loads (if_pos rfl) worked
    · intro id other s
      exact .edits (if_neg (Ne.symm other)) (.keeps s)

end Telemetry

/-! ### One operation -/

namespace Session

variable {s : Session} {operation : Operation}

/-- An operation that loads no column. -/
theorem revises_quiet {a : Answer} {t t' : Telemetry}
    (quiet : ∀ id, Entry.loadedColumn? id ⟨operation, a⟩ = none)
    (revises : t.Revises (fun _ => ColumnSet.Edit) t') : t.Revises (ColumnStep ⟨operation, a⟩) t' :=
  revises.mono fun id _ _ edit => .edits (quiet id) edit

theorem revises_reply {α : Type} {answer : Except Error α → Answer}
    {outcome : Option (Telemetry.Outcome α)}
    (quiet : ∀ a id, Entry.loadedColumn? id ⟨operation, a⟩ = none)
    (revises : ∀ {result t'}, outcome = some (result, t') →
      s.telemetry.Revises (fun _ => ColumnSet.Edit) t') :
    s.telemetry.Revises (ColumnStep ⟨operation, (s.reply answer outcome).1⟩)
      (s.reply answer outcome).2.telemetry := by
  cases outcome with
  | none => exact revises_quiet (quiet _) (.refl (fun _ => .keeps) _)
  | some found => exact revises_quiet (quiet _) (revises rfl)

theorem revises_edit {packet : Nat} {edited : Option (Except Error Packet)}
    (quiet : ∀ a id, Entry.loadedColumn? id ⟨operation, a⟩ = none) :
    s.telemetry.Revises (ColumnStep ⟨operation, (s.edit packet edited).1⟩)
      (s.edit packet edited).2.telemetry := by
  rcases edited with _ | _ | _
  · exact revises_quiet (quiet _) (.refl (fun _ => .keeps) _)
  · exact revises_quiet (quiet _) (.refl (fun _ => .keeps) _)
  · exact revises_quiet (quiet _) (.refl (fun _ => .keeps) _)

/-- What an operation can make of the columns. -/
theorem step_revises (filed : s.telemetry.Filed) (operation : Operation) :
    s.telemetry.Revises (ColumnStep ⟨operation, (s.step operation).1⟩)
      (s.step operation).2.telemetry := by
  cases operation with
  | define schema key =>
      refine revises_reply (fun _ _ => rfl) fun done => ?_
      obtain rfl := congrArg Prod.snd (Option.some.inj done)
      exact Telemetry.define_revises filed schema key
  | addColumn id name type options =>
      exact revises_reply (fun _ _ => rfl) (Telemetry.onColumn?_revises filed .adds)
  | rehydrateColumn id name type options =>
      simp only [step]
      cases done : s.telemetry.rehydrateColumn? id name type options with
      | none => exact revises_quiet (fun _ => rfl) (.refl (fun _ => .keeps) _)
      | some outcome => exact Telemetry.rehydrateColumn?_revises filed done
  | removeColumn id name =>
      exact revises_reply (fun _ _ => rfl) (Telemetry.onColumn?_revises filed .removes)
  | setDefaultColumn id name =>
      exact revises_reply (fun _ _ => rfl) (Telemetry.setDefaultColumn?_revises filed)
  | lockColumns id => exact revises_reply (fun _ _ => rfl) (Telemetry.lockColumns?_revises filed)
  | lock id => exact revises_reply (fun _ _ => rfl) (Telemetry.lock?_revises filed)
  | openInstance id name =>
      exact revises_reply (fun _ _ => rfl) (Telemetry.openInstance?_revises filed)
  | createPacket r =>
      simp only [step]
      cases created : s.telemetry.createPacket? r with
      | none => exact revises_quiet (fun _ => rfl) (.refl (fun _ => .keeps) _)
      | some outcome =>
          have revises := Telemetry.createPacket?_revises filed created
          obtain ⟨_ | _, _⟩ := outcome
          · exact revises_quiet (fun _ => rfl) revises
          · exact revises_quiet (fun _ => rfl) revises
  | setSlot packet index value => exact revises_edit fun _ _ => rfl
  | setNamed packet name value => exact revises_edit fun _ _ => rfl
  | fill packet values => exact revises_edit fun _ _ => rfl
  | writePacket r packet timestamp =>
      simp only [step]
      split
      · exact revises_quiet (fun _ => rfl) (.refl (fun _ => .keeps) _)
      · rename_i outcome written
        obtain ⟨p, -, written⟩ := Option.bind_eq_some_iff.mp written
        refine revises_reply (s := s.discard packet) (fun _ _ => rfl) fun done => ?_
        exact (Telemetry.writePacket?_revises filed (written.trans done)).of_eq
  | writeSample r values timestamp =>
      exact revises_reply (fun _ _ => rfl) (Telemetry.writeSample?_revises filed)
  | writeReading r reading timestamp =>
      exact revises_reply (fun _ _ => rfl) fun done =>
        (Telemetry.writeReading?_revises filed done).of_eq
  | rehydrate r sample =>
      exact revises_reply (fun _ _ => rfl) fun done =>
        (Telemetry.rehydrate?_revises filed done).of_eq
  | query r settings q => exact revises_reply (fun _ _ => rfl) (Telemetry.query?_revises filed)
  | takeSequence =>
      exact revises_quiet (fun _ => rfl) ((Telemetry.Revises.refl (fun _ => .keeps) _).congr rfl)
  | observe sequence =>
      exact revises_quiet (fun _ => rfl) ((Telemetry.Revises.refl (fun _ => .keeps) _).congr rfl)

end Session

end Metering
