import Metering.Proofs.KeyText
import Metering.Proofs.Numbering
import Metering.Proofs.Registration

/-!
Definitions and instances are made once and found from then on.

Both registries are catalogs that are filled by requests: that of the definitions by `define`, and
that of the instances of a definition by `openInstance?` (`Registered`). Every operation keeps it so,
hence every run does (`run_registered`), and what a registry holds can be read off the record of the
run. `run_createsOrGets` says what follows for those who ask.
-/

namespace Metering

open Metering.Time

/-- A definition that was asked for and given out. -/
structure Defined where
  id : DefinitionId
  key : Key
  schema : Schema
deriving DecidableEq

/-- An instance that was asked for and given out. -/
structure Opened where
  id : InstanceId
  name : Option String
deriving DecidableEq

namespace Entry

/-- The definition that was given out. -/
def defined? (e : Entry) : Option Defined :=
  match e.operation, e.answer with
  | .define schema key, .definition (.ok id) => some ⟨id, key, schema⟩
  | _, _ => none

/-- The instance of the definition with the given id that was given out. -/
def opened? (id : DefinitionId) (e : Entry) : Option Opened :=
  match e.operation, e.answer with
  | .openInstance id' name, .opened (.ok r) => if id' = id then some ⟨r.id, name⟩ else none
  | _, _ => none

end Entry

/-- The definitions that were given out, in the order in which that happened. -/
def definedIn (past : List Entry) : List Defined :=
  past.filterMap Entry.defined?

/-- The instances of a definition that were given out, in the order in which that happened. -/
def openedIn (id : DefinitionId) (past : List Entry) : List Opened :=
  past.filterMap (Entry.opened? id)

/-- How the definition is filed. -/
def Defined.label (m : Defined) : Label (Key × Schema) :=
  ⟨m.id, m.key.normalized, m.key, m.schema⟩

/-- How the instance is filed in its definition. -/
def Opened.label (d : Definition) (m : Opened) : Label (Option String) :=
  ⟨m.id, d.instanceKey m.name, m.name.filter (· ≠ "")⟩

/-- The definition as it was asked for. -/
def Definition.given (d : Definition) : Defined :=
  ⟨d.id, d.key, d.schema⟩

/-- What is registered after the operations in `past`. -/
structure Registered (past : List Entry) (t : Telemetry) : Prop where
  filed : t.Filed
  definitions : t.definitions.FilledBy Definition.label ((definedIn past).map Defined.label)
  instances : ∀ {id : DefinitionId} {d : Definition}, t.definition? id = some d →
    d.instances.FilledBy Instance.label ((openedIn id past).map (Opened.label d))
  unopened : ∀ {id : DefinitionId}, t.definition? id = none → openedIn id past = []

/-- Whoever asks for a definition or an instance gets the one there is, or a new one. `past` is what
was done before. -/
structure Session.CreatesOrGets (past : List Entry) (s : Session) : Prop where
  /-- All views of the registry of definitions hold the same ones. -/
  definitions : s.telemetry.definitions.Agrees Definition.label
  order : s.telemetry.definitions.order = ((definedIn past).map (·.id)).eraseDups
  sameDefinition : ∀ m ∈ definedIn past, ∀ m' ∈ definedIn past, m.id = m'.id ↔ m.key.Same m'.key
  find : ∀ key, (s.telemetry.find? key).map Definition.given =
    (definedIn past).find? fun m => m.key.Same key
  defineExisting : ∀ {schema : Schema} {key : Key} {d : Definition},
    s.telemetry.find? key = some d → s.step (.define schema key) =
      (.definition (if d.schema = schema then .ok d.id
        else .error (.incompatible d.key.text d.schema.text schema.text)), s)
  defineNew : ∀ {schema : Schema} {key : Key}, s.telemetry.find? key = none →
    ∃ id, s.telemetry.definition? id = none ∧
      (s.step (.define schema key)).1 = .definition (.ok id)
  /-- All views of the registry of a definition hold the same instances. -/
  instances : ∀ {id : DefinitionId} {d : Definition}, s.telemetry.definition? id = some d →
    d.instances.Agrees Instance.label ∧
      d.instances.order = ((openedIn id past).map (·.id)).eraseDups
  sameInstance : ∀ id, ∀ m ∈ openedIn id past, ∀ m' ∈ openedIn id past,
    m.id = m'.id ↔ SameName m.name m'.name
  findInstance : ∀ {id : DefinitionId} {d : Definition} (name : Option String),
    s.telemetry.definition? id = some d → (d.find? name).map (·.id) =
      ((openedIn id past).find? fun m => SameName m.name name).map (·.id)
  openExisting : ∀ {id : DefinitionId} {d : Definition} {name : Option String} {i : Instance},
    s.telemetry.definition? id = some d → d.find? name = some i →
      s.step (.openInstance id name) = (.opened (.ok ⟨id, i.id⟩), s)
  openNew : ∀ {id : DefinitionId} {d : Definition} {name : Option String},
    s.telemetry.definition? id = some d → d.find? name = none →
      ∃ new, d.instances.get? new = none ∧
        (s.step (.openInstance id name)).1 = .opened (.ok ⟨id, new⟩)
  /-- The default instance is found under no name and under the empty name, and under no other. -/
  default : ∀ {id : DefinitionId} {d : Definition} {name : Option String} {i : Instance},
    s.telemetry.definition? id = some d → d.find? name = some i →
      (i.name = none ↔ name.getD "" = "")

/-! ### What an operation records -/

section Entries

variable {past : List Entry} {e : Entry}

theorem definedIn_append (past : List Entry) (e : Entry) :
    definedIn (past ++ [e]) = definedIn past ++ e.defined?.toList := by
  rw [definedIn, List.filterMap_append, definedIn]
  cases made : e.defined? with
  | none => simp [made]
  | some m => simp [made]

theorem openedIn_append (id : DefinitionId) (past : List Entry) (e : Entry) :
    openedIn id (past ++ [e]) = openedIn id past ++ (e.opened? id).toList := by
  rw [openedIn, List.filterMap_append, openedIn]
  cases made : e.opened? id with
  | none => simp [made]
  | some m => simp [made]

/-- Nothing was given out. -/
structure Entry.Quiet (e : Entry) : Prop where
  defined : e.defined? = none
  opened : ∀ id, e.opened? id = none

theorem Entry.quiet_of_registers {operation : Operation} (quiet : operation.registers = false)
    (a : Answer) : Entry.Quiet ⟨operation, a⟩ := by
  cases operation with
  | define | openInstance => cases quiet
  | _ => exact ⟨rfl, fun _ => rfl⟩

end Entries

namespace Definition

variable {d d' : Definition} {name : Option String}

theorem key_eq_of_label (same : d'.label = d.label) : d'.key = d.key :=
  congrArg (fun label : Label (Key × Schema) => label.rest.1) same

/-- How instances are filed follows from the key of their definition. -/
theorem label_opened (same : d'.key = d.key) : Opened.label d' = Opened.label d := by
  funext m
  rw [Opened.label, instanceKey, same, Opened.label, instanceKey]

theorem instances_createInstance (d : Definition) (name : Option String) (new : InstanceId)
    (lockFirst : Bool) : (d.createInstance name new lockFirst).instances =
      d.instances.insert new (d.instanceKey name)
        { id := new, definition := d.id, key := d.instanceKey name,
          name := name.filter (· ≠ "") } := by
  cases lockFirst with
  | true =>
      have same := same_lock d
      simp only [createInstance, instanceKey, if_true, same.id, same.key, same.instances]
  | false => rfl

theorem label_createInstance (d : Definition) (name : Option String) (new : InstanceId)
    (lockFirst : Bool) : (d.createInstance name new lockFirst).label = d.label := by
  cases lockFirst with
  | true => exact d.label_lock
  | false => rfl

theorem instances_ofSchema (id : DefinitionId) (key : Key) (schema : Schema) :
    (ofSchema id key schema).instances = ∅ := by
  cases schema with
  | event => rfl
  | counterSampled type => rfl

theorem label_ofSchema (id : DefinitionId) (key : Key) (schema : Schema) :
    (ofSchema id key schema).label = Defined.label ⟨id, key, schema⟩ := by
  cases schema with
  | event => rfl
  | counterSampled type => rfl

end Definition

/-! ### One operation -/

namespace Registered

variable {past : List Entry} {e : Entry} {t t' : Telemetry} {d : Definition} {id : DefinitionId}

theorem own (holds : Registered past t) (found : t.definition? id = some d) : d.id = id :=
  (holds.filed _ _ found).1

theorem unused (holds : Registered past t) : t.definition? t.nextDefinition = none := by
  cases found : t.definition? t.nextDefinition with
  | none => rfl
  | some d => exact absurd (holds.filed _ _ found).2.1 (Nat.lt_irrefl _)

theorem unused_instance (holds : Registered past t) (found : t.definition? id = some d) :
    d.instances.get? t.nextInstance = none := by
  cases within : d.instances.get? t.nextInstance with
  | none => rfl
  | some i => exact absurd ((holds.filed _ _ found).2.2 _ _ within).2 (Nat.lt_irrefl _)

/-- An operation that gives nothing out. -/
theorem keeps (holds : Registered past t) (quiet : e.Quiet) (filed : t'.Filed)
    (same : t.SameRegistry t') : Registered (past ++ [e]) t' := by
  have opened : ∀ id, openedIn id (past ++ [e]) = openedIn id past := fun id => by
    rw [openedIn_append, quiet.opened, Option.toList_none, List.append_nil]
  refine ⟨filed, ?_, fun {id d'} found' => ?_, fun {id} missing => ?_⟩
  · rw [definedIn_append, quiet.defined, Option.toList_none, List.append_nil]
    exact holds.definitions.congr same.definitions
  · have kept := same.definitions.filed id
    obtain ⟨d, found⟩ := Option.isSome_iff_exists.mp
      (kept.symm.trans (Option.isSome_iff_exists.mpr ⟨d', found'⟩))
    have key := Definition.key_eq_of_label (same.definitions.label_eq found found')
    rw [opened, Definition.label_opened key]
    exact (holds.instances found).congr (same.instances found found')
  · rw [opened]
    exact holds.unopened ((same.definitions.eq_none_iff id).mp missing)

/-- A definition that is given out again. -/
theorem finds (holds : Registered past t) {m : Defined} (defined : e.defined? = some m)
    (unopened : ∀ id, e.opened? id = none) (found : t.definitions.idOf? m.key.normalized = some m.id) :
    Registered (past ++ [e]) t := by
  have opened : ∀ id, openedIn id (past ++ [e]) = openedIn id past := fun id => by
    rw [openedIn_append, unopened, Option.toList_none, List.append_nil]
  refine ⟨holds.filed, ?_, fun {id d} there => ?_, fun {id} missing => ?_⟩
  · rw [definedIn_append, defined, Option.toList_some, List.map_append]
    exact holds.definitions.found found
  · rw [opened]
    exact holds.instances there
  · rw [opened]
    exact holds.unopened missing

theorem find?_eq_some (holds : Registered past t) {key : Key} (found : t.find? key = some d) :
    t.definitions.idOf? key.normalized = some d.id := by
  rw [holds.definitions.agrees.index, ← Telemetry.find?, found]
  rfl

theorem find?_eq_none (holds : Registered past t) {key : Key} (missing : t.find? key = none) :
    t.definitions.idOf? key.normalized = none := by
  rw [holds.definitions.agrees.index, ← Telemetry.find?, missing]
  rfl

theorem define (holds : Registered past t) (schema : Schema) (key : Key) :
    Registered (past ++ [⟨.define schema key, .definition (t.define schema key).1⟩])
      (t.define schema key).2 := by
  have filed := (Telemetry.define_keeps holds.filed schema key).filed
  unfold Telemetry.define at filed ⊢
  cases existing : t.find? key with
  | some d =>
      by_cases same : d.schema = schema
      · simp only [same, if_true]
        exact holds.finds (m := ⟨d.id, key, schema⟩) rfl (fun _ => rfl)
          (holds.find?_eq_some existing)
      · simp only [same, if_false]
        exact holds.keeps ⟨rfl, fun _ => rfl⟩ holds.filed (.refl t)
  | none =>
      rw [existing] at filed
      have opened : ∀ id, openedIn id (past ++
          [⟨.define schema key, .definition (.ok t.nextDefinition)⟩]) = openedIn id past := by
        intro id
        rw [openedIn_append]
        exact List.append_nil _
      refine ⟨filed, ?_, fun {id d} there => ?_, fun {id} missing => ?_⟩
      · rw [definedIn_append, List.map_append]
        exact holds.definitions.insert (m := Defined.label ⟨t.nextDefinition, key, schema⟩)
          (Definition.label_ofSchema ..) (holds.find?_eq_none existing) holds.unused
      · rw [opened]
        rw [Telemetry.definition?, Catalog.get?_insert] at there
        by_cases new : t.nextDefinition = id
        · rw [if_pos new] at there
          obtain rfl := Option.some.inj there
          rw [holds.unopened (new ▸ holds.unused), Definition.instances_ofSchema]
          exact .empty
        · rw [if_neg new] at there
          exact holds.instances there
      · rw [opened]
        rw [Telemetry.definition?, Catalog.get?_insert] at missing
        by_cases new : t.nextDefinition = id
        · rw [if_pos new] at missing
          cases missing
        · rw [if_neg new] at missing
          exact holds.unopened missing

/-- An instance that is given out by a definition that stays what it is, under a request that fills
its registry. -/
theorem opens (holds : Registered past t) (d' : Definition) {m : Opened}
    (undefined : e.defined? = none)
    (opened : ∀ id', e.opened? id' = if id = id' then some m else none) (filed : t'.Filed)
    (same : t.definitions.SameIds Definition.label t'.definitions)
    (there : ∀ id', t'.definition? id' = if id = id' then some d' else t.definition? id')
    (filled : d'.instances.FilledBy Instance.label
      ((openedIn id past ++ [m]).map (Opened.label d'))) : Registered (past ++ [e]) t' := by
  refine ⟨filed, ?_, fun {id' other} found' => ?_, fun {id'} missing => ?_⟩
  · rw [definedIn_append, undefined, Option.toList_none, List.append_nil]
    exact holds.definitions.congr same
  · rw [openedIn_append, opened]
    rw [there] at found'
    by_cases here : id = id'
    · rw [if_pos here] at found'
      obtain rfl := Option.some.inj found'
      rw [if_pos here, ← here]
      exact filled
    · rw [if_neg here] at found'
      rw [if_neg here, Option.toList_none, List.append_nil]
      exact holds.instances found'
  · rw [there] at missing
    by_cases here : id = id'
    · rw [if_pos here] at missing
      cases missing
    · rw [if_neg here] at missing
      rw [openedIn_append, opened, if_neg here, Option.toList_none, List.append_nil]
      exact holds.unopened missing

theorem idOf?_instanceKey (holds : Registered past t) (found : t.definition? id = some d)
    (name : Option String) :
    d.instances.idOf? (d.instanceKey name) = (d.find? name).map (·.id) :=
  (holds.instances found).agrees.index _

theorem openInstance? (holds : Registered past t) {name : Option String}
    {result : Except Error InstanceRef} (done : t.openInstance? id name = some (result, t')) :
    Registered (past ++ [⟨.openInstance id name, .opened result⟩]) t' := by
  have filed := (Telemetry.openInstance?_keeps holds.filed done).filed
  obtain ⟨d, found, done⟩ := Option.map_eq_some_iff.mp done
  have filled := holds.instances found
  have known := holds.idOf?_instanceKey found name
  cases existing : d.find? name with
  | some i =>
      simp only [existing, Prod.mk.injEq] at done
      obtain ⟨rfl, rfl⟩ := done
      rw [existing, Option.map_some] at known
      refine holds.opens d (m := ⟨i.id, name⟩) rfl (fun _ => rfl) filed (.refl _) ?_ ?_
      · intro id'
        by_cases here : id = id'
        · rw [if_pos here, ← here, found]
        · rw [if_neg here]
      · rw [List.map_append]
        exact filled.found known
  | none =>
      simp only [existing, Prod.mk.injEq] at done
      obtain ⟨rfl, rfl⟩ := done
      rw [existing, Option.map_none] at known
      have label := d.label_createInstance name t.nextInstance
        t.settings.registry.lockOnFirstInstance
      have same_id := (d.id_createInstance name t.nextInstance
        t.settings.registry.lockOnFirstInstance).trans (holds.own found)
      refine holds.opens (d.createInstance name t.nextInstance
        t.settings.registry.lockOnFirstInstance) (m := ⟨t.nextInstance, name⟩) rfl (fun _ => rfl)
        filed ?_ ?_ ?_
      · rw [Telemetry.withDefinition, same_id]
        exact Catalog.sameIds_set found label
      · intro id'
        refine (Telemetry.definition?_withDefinition t _ id').trans ?_
        rw [same_id]
      · rw [Definition.label_opened (Definition.key_eq_of_label label), List.map_append,
          Definition.instances_createInstance]
        exact filled.insert (m := Opened.label d ⟨t.nextInstance, name⟩) rfl known
          (holds.unused_instance found)

/-! ### What can be read off the requests -/

theorem defined_id_eq_iff (holds : Registered past t) {m m' : Defined} (asked : m ∈ definedIn past)
    (asked' : m' ∈ definedIn past) : m.id = m'.id ↔ m.key.Same m'.key := by
  have same := holds.definitions.same m.label (List.mem_map_of_mem asked) m'.label
    (List.mem_map_of_mem asked')
  exact same.trans Key.normalized_eq_iff

/-- The definition under a key is as it was first asked for. -/
theorem find? (holds : Registered past t) (key : Key) :
    (t.find? key).map Definition.given = (definedIn past).find? fun m => m.key.Same key := by
  have first := congrArg (Option.map fun label : Label (Key × Schema) =>
    (⟨label.id, label.rest.1, label.rest.2⟩ : Defined)) (holds.definitions.find? key.normalized)
  rw [List.find?_map, Option.map_map, Option.map_map] at first
  refine (first.trans Option.map_id_apply).trans ?_
  refine List.find?_congr fun m _ => ?_
  rw [Bool.eq_iff_iff, decide_eq_true_iff, ← Key.normalized_eq_iff]
  exact beq_iff_eq

theorem opened_id_eq_iff (holds : Registered past t) {m m' : Opened} (asked : m ∈ openedIn id past)
    (asked' : m' ∈ openedIn id past) : m.id = m'.id ↔ SameName m.name m'.name := by
  cases found : t.definition? id with
  | none =>
      rw [holds.unopened found] at asked
      cases asked
  | some d =>
      have same := (holds.instances found).same (m.label d) (List.mem_map_of_mem asked) (m'.label d)
        (List.mem_map_of_mem asked')
      exact same.trans instanceKey_eq_iff

/-- The instance under a name is as it was first asked for. -/
theorem find?_instance (holds : Registered past t) (found : t.definition? id = some d)
    (name : Option String) :
    (d.find? name).map Instance.label =
      ((openedIn id past).find? fun m => SameName m.name name).map (Opened.label d) := by
  refine ((holds.instances found).find? (d.instanceKey name)).trans ?_
  rw [List.find?_map]
  refine congrArg _ (List.find?_congr fun m _ => ?_)
  rw [Bool.eq_iff_iff, decide_eq_true_iff, ← instanceKey_eq_iff]
  exact beq_iff_eq

/-- The default instance alone has no name. -/
theorem name_eq_none_iff (holds : Registered past t) (found : t.definition? id = some d)
    {name : Option String} {i : Instance} (there : d.find? name = some i) :
    i.name = none ↔ name.getD "" = "" := by
  have first := holds.find?_instance found name
  rw [there, Option.map_some, eq_comm] at first
  obtain ⟨m, asked, made⟩ := Option.map_eq_some_iff.mp first
  have same : SameName m.name name := by simpa using List.find?_some asked
  have named : m.name.filter (· ≠ "") = i.name := congrArg Label.rest made
  -- The first name to ask for the instance and this one are both empty, or neither is.
  rw [← sameName_none_iff, SameName, ← same, ← SameName, sameName_none_iff, ← named]
  cases m.name with
  | none => simp
  | some text => simp

end Registered

/-! ### Whole runs -/

namespace Session

variable {s : Session} {settings : Settings} {lastSequence : Nat} {past : List Entry}

theorem step_registered (holds : Registered past s.telemetry) (operation : Operation) :
    Registered (past ++ [⟨operation, (s.step operation).1⟩]) (s.step operation).2.telemetry := by
  cases operation with
  | define schema key => exact holds.define schema key
  | openInstance id name =>
      simp only [step]
      cases opened : s.telemetry.openInstance? id name with
      | none =>
          exact holds.keeps ⟨rfl, fun _ => rfl⟩ holds.filed (.refl _)
      | some outcome => exact holds.openInstance? opened
  | _ =>
      exact holds.keeps (Entry.quiet_of_registers rfl _) (step_effect holds.filed _).filed
        (step_sameRegistry holds.filed rfl)

theorem registered_create (created : create settings lastSequence = .ok s) :
    Registered [] s.telemetry := by
  refine ⟨(numbered_create created).filed, ?_, fun {id d} found => ?_, fun {id} _ => rfl⟩
  · obtain rfl := create_eq_ok created
    exact .empty
  · rw [definition?_create created] at found
    cases found

theorem run_registered (created : create settings lastSequence = .ok s)
    (operations : List Operation) :
    Registered (s.record operations) (s.run operations).telemetry :=
  run_induction (fun past s => Registered past s.telemetry)
    (fun operation holds => step_registered holds operation) (registered_create created) operations

/-- **Create or get, at both registries.** After any run, whoever asks for a definition or an instance
gets the one that was first made under the same key or name, or a new one. -/
theorem run_createsOrGets (created : create settings lastSequence = .ok s)
    (operations : List Operation) :
    (s.run operations).CreatesOrGets (s.record operations) := by
  have holds := run_registered created operations
  refine ⟨holds.definitions.agrees, ?order, fun _ asked _ => holds.defined_id_eq_iff asked,
    holds.find?, ?defineExisting, ?defineNew, ?instances,
    fun _ _ asked _ => holds.opened_id_eq_iff asked, ?findInstance, ?openExisting, ?openNew,
    fun found there => holds.name_eq_none_iff found there⟩
  case order =>
    rw [holds.definitions.order, List.map_map]
    rfl
  case defineExisting =>
    intro schema key d found
    simp only [step, reply, Telemetry.define, found]
    rfl
  case defineNew =>
    intro schema key missing
    refine ⟨(s.run operations).telemetry.nextDefinition, holds.unused, ?_⟩
    simp only [step, reply, Telemetry.define, missing]
  case instances =>
    intro id d found
    refine ⟨(holds.instances found).agrees, ?_⟩
    rw [(holds.instances found).order, List.map_map]
    rfl
  case findInstance =>
    intro id d name found
    have first := congrArg (Option.map Label.id) (holds.find?_instance found name)
    rw [Option.map_map, Option.map_map] at first
    exact first
  case openExisting =>
    intro id d name i found there
    simp only [step, reply, Telemetry.openInstance?, found, Option.map_some, there]
  case openNew =>
    intro id d name found missing
    refine ⟨(s.run operations).telemetry.nextInstance, holds.unused_instance found, ?_⟩
    simp only [step, reply, Telemetry.openInstance?, found, Option.map_some, missing]

/-- Two counters whose keys are told apart by a separator in them, one of them asked for twice, and
its instances: the default one and one that has a name. -/
def askedTwice : List Operation :=
  [.define (.counterSampled .totalCount) ⟨"app~", "web", "hits"⟩,
   .define (.counterSampled .totalCount) ⟨"app", "~web", "hits"⟩,
   .define (.counterSampled .totalCount) ⟨"app~", "web", "hits"⟩,
   .openInstance 0 none, .openInstance 0 (some "X"), .openInstance 0 (some ""),
   .openInstance 0 (some "x")]

/-- The record says which requests found what was there. The key of the first counter, in other case,
is then refused for an event. -/
theorem run_createsOrGets_askedTwice :
    let s : Session := ⟨{}, []⟩
    create {} 0 = .ok s ∧ (definedIn (s.record askedTwice)).map (·.id) = [0, 1, 0] ∧
    (openedIn 0 (s.record askedTwice)).map (·.id) = [0, 1, 0, 1] ∧
    (s.run askedTwice).telemetry.definitions.order = [0, 1] ∧
    (s.run askedTwice).CreatesOrGets (s.record askedTwice) ∧
    ∃ d, (s.run askedTwice).telemetry.find? ⟨"App~", "Web", "Hits"⟩ = some d ∧
      d.given = ⟨0, ⟨"app~", "web", "hits"⟩, .counterSampled .totalCount⟩ ∧
      (s.run askedTwice).step (.define .event ⟨"App~", "Web", "Hits"⟩) =
        (.definition (.error (d.incompatible Schema.event.text)), s.run askedTwice) := by
  intro s
  have created : create {} 0 = .ok s := rfl
  have defined : (definedIn (s.record askedTwice)).map (·.id) = [0, 1, 0] := by decide +kernel
  have opened : (openedIn 0 (s.record askedTwice)).map (·.id) = [0, 1, 0, 1] := by decide +kernel
  have holds := run_createsOrGets created askedTwice
  have order := holds.order
  rw [defined] at order
  have first : (definedIn (s.record askedTwice)).find? (fun m => m.key.Same ⟨"App~", "Web", "Hits"⟩) =
      some ⟨0, ⟨"app~", "web", "hits"⟩, .counterSampled .totalCount⟩ := by decide +kernel
  obtain ⟨d, found, given⟩ := Option.map_eq_some_iff.mp ((holds.find _).trans first)
  have other : d.schema ≠ .event := by
    rw [show d.schema = .counterSampled .totalCount from congrArg Defined.schema given]
    decide
  have refused := @Session.CreatesOrGets.defineExisting _ _ holds .event _ d found
  rw [if_neg other] at refused
  exact ⟨created, defined, opened, order, holds, d, found, given, refused⟩

end Session

end Metering
