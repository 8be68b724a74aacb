import Metering.Proofs.Registry
import Metering.Proofs.Shape
import Metering.Proofs.View

/-!
A session answers operations on one definition as the definition by itself does.

There is one lemma for each kind of operation. Each compares what the session does with what
`View.step` does, and the two differ in ids and sequence numbers alone, which no answer depends on
(`Metering.Proofs.Erasure`). `step_seen` has all operations together.
-/

namespace Metering

open Metering.Time

/-! ### The definition with a key -/

/-- The definition with the given key, as it is filed. -/
structure Telemetry.Home (key : Key) (t : Telemetry) (d : Definition) : Prop where
  id : t.home? key = some d.id
  found : t.definition? d.id = some d

namespace Telemetry.Home

variable {key : Key} {t t' : Telemetry} {d d' : Definition}

theorem find? (home : t.Home key d) : t.find? key = some d := by
  rw [Telemetry.find?, Catalog.find?, ← Telemetry.home?, home.id]
  exact home.found

/-- Only the definitions matter. -/
theorem congr (home : t.Home key d) (same : t'.definitions = t.definitions) : t'.Home key d := by
  constructor
  · rw [home?, same]
    exact home.id
  · rw [definition?, same]
    exact home.found

theorem withDefinition (home : t.Home key d) (id : d'.id = d.id) :
    (t.withDefinition d').Home key d' := by
  constructor
  · rw [id]
    exact home.id
  · rw [definition?_withDefinition, if_pos rfl]

theorem createInstance (home : t.Home key d) (name : Option String) (new next : InstanceId)
    (lockFirst : Bool) : ({ t.withDefinition (d.createInstance name new lockFirst) with
      nextInstance := next } : Telemetry).Home key (d.createInstance name new lockFirst) :=
  (home.withDefinition (d.id_createInstance name new lockFirst)).congr rfl

end Telemetry.Home

theorem Registered.home {past : List Entry} {t : Telemetry} {key : Key} {id : DefinitionId}
    (holds : Registered past t) (own : t.home? key = some id) : ∃ d, t.Home key d ∧ d.id = id := by
  have agrees := holds.definitions.agrees
  rw [Telemetry.home?, agrees.index, Option.map_eq_some_iff] at own
  obtain ⟨d, found, rfl⟩ := own
  refine ⟨d, ⟨?_, agrees.byId.mpr ⟨(agrees.byKey.mp found).1, rfl⟩⟩, rfl⟩
  rw [Telemetry.home?, agrees.index, found]
  rfl

namespace Session

variable {key : Key} {s : Session} {past : List Entry} {d d' : Definition} {i : Instance}
  {r : InstanceRef} {packet : Nat} {p : Packet}

theorem view_eq (home : s.telemetry.Home key d) :
    s.view key = ⟨s.telemetry.settings, some d.erased, d.instances.toList.map Instance.erased,
      (packetsOf (some d.id) s.packets).map Packet.erased⟩ := by
  rw [view, home.find?, home.id]
  rfl

/-- The view when the definition is replaced by one with the same instances. -/
theorem view_withDefinition (home : s.telemetry.Home key d) (same : d.Same d') :
    view key ⟨s.telemetry.withDefinition d', s.packets⟩ =
      { s.view key with definition := some d'.erased } := by
  rw [view_eq (s := ⟨s.telemetry.withDefinition d', s.packets⟩) (home.withDefinition same.id),
    view_eq home, same.instances, same.id]
  rfl

/-! ### Work on the definition -/

/-- Work that takes no notice of ids, with `f` for what becomes of its answer. -/
theorem seen_onDefinition? {α : Type} {answer : Except Error α → Answer} {f : α → α}
    {task task₀ : Definition → Except Error (α × Definition)} (home : s.telemetry.Home key d)
    (ignores : task₀ d.erased = (task d).map (Prod.map f Definition.erased))
    (frame : ∀ {a d'}, task d = .ok (a, d') → d.Same d')
    (placed : ∀ places result, (answer result).placed places = answer (result.map f)) :
    seen key (s.reply answer (s.telemetry.onDefinition? d.id task)) =
      (s.view key).work answer task₀ := by
  rw [View.work, Telemetry.onDefinition?, home.found, view_eq home]
  simp only [Option.map_some, ignores]
  cases worked : task d with
  | error e => simp only [seen, reply, placed, view_eq home, Except.map]
  | ok done =>
      simp only [seen, reply, placed, Except.map, view_withDefinition home (frame worked),
        view_eq home]
      rfl

/-- Work whose answer holds no handle. -/
theorem seen_task {α : Type} {answer : Except Error α → Answer}
    {task task₀ : Definition → Except Error (α × Definition)} (home : s.telemetry.Home key d)
    (ignores : task₀ d.erased = (task d).map (Prod.map id Definition.erased))
    (frame : ∀ {a d'}, task d = .ok (a, d') → d.Same d')
    (placed : ∀ places result, (answer result).placed places = answer result) :
    seen key (s.reply answer (s.telemetry.onDefinition? d.id task)) =
      (s.view key).work answer task₀ := by
  refine seen_onDefinition? home ignores frame fun places result => ?_
  rw [placed, Except.map_id, id]

/-- An edit of the columns. -/
theorem seen_onColumn? {edit : ColumnSet → Except Error (Nat × ColumnSet)}
    (home : s.telemetry.Home key d) (ignores : ColumnSet.Ignores id edit edit) :
    seen key (s.reply .column (s.telemetry.onColumn? d.id edit)) = (s.view key).onColumn edit := by
  refine seen_onDefinition? home (Definition.editColumns_erased ?_ d)
    Definition.same_of_editColumns (fun _ _ => rfl)
  intro columns
  simp only [ColumnSet.referring, ignores columns]
  cases edit columns with
  | error e => rfl
  | ok done => rfl

theorem seen_setDefault (home : s.telemetry.Home key d) (name : String) :
    seen key (s.reply .done (s.telemetry.setDefaultColumn? d.id name)) =
      (s.view key).work .done (·.editColumns fun columns =>
        (columns.setDefault name).map fun edited => ((), edited)) := by
  refine seen_task home (Definition.editColumns_erased (fun columns => ?_) d)
    Definition.same_of_editColumns fun _ _ => rfl
  rw [ColumnSet.setDefault_erased]
  cases columns.setDefault name with
  | error e => rfl
  | ok edited => rfl

theorem seen_lock (home : s.telemetry.Home key d) :
    seen key (s.reply .done (s.telemetry.onDefinition? d.id fun d => .ok ((), d.lock))) =
      (s.view key).work .done fun d => .ok ((), d.lock) := by
  refine seen_task home ?_ Definition.same_of_lock fun _ _ => rfl
  rw [Definition.lock_erased]
  rfl

/-- Asking for the definition again. -/
theorem seen_define_again (home : s.telemetry.Home key d) {schema : Schema} {key' : Key}
    (same : key'.Same key) :
    seen key (s.step (.define schema key')) = (s.view key).define schema key' := by
  have found : s.telemetry.find? key' = some d := by
    rw [Telemetry.find?, Key.normalized_eq_iff.mpr same]
    exact home.find?
  simp only [step, reply, Telemetry.define, found, seen, view_eq home, View.define,
    Definition.schema_erased, Definition.incompatible_erased]
  by_cases like : d.schema = schema
  · simp only [if_pos like, Answer.placed, Except.map]
  · simp only [if_neg like, Answer.placed, Except.map]

/-- Asking for the definition for the first time. -/
theorem seen_define_first (holds : Registered past s.telemetry) (closed : s.Sealed)
    (missing : s.telemetry.find? key = none) {schema : Schema} {key' : Key}
    (same : key'.Same key) :
    seen key (s.step (.define schema key')) = (s.view key).define schema key' := by
  have normalized := Key.normalized_eq_iff.mpr same
  have missing' : s.telemetry.find? key' = none := by
    rw [Telemetry.find?, normalized]
    exact missing
  have unfiled : s.telemetry.home? key = none := holds.find?_eq_none missing
  let new := s.telemetry.nextDefinition
  have same_id := Definition.id_ofSchema new key' schema
  have home' : ({ s.telemetry with
      definitions := s.telemetry.definitions.insert new key'.normalized (.ofSchema new key' schema)
      nextDefinition := new + 1 } : Telemetry).Home key (.ofSchema new key' schema) := by
    constructor
    · rw [Telemetry.home?, Catalog.idOf?_insert, if_pos normalized, same_id]
    · rw [Telemetry.definition?, Catalog.get?_insert, if_pos same_id.symm]
  have none_before : packetsOf none s.packets = [] :=
    packetsOf_eq_nil fun p _ => (Option.some_ne_none p.definition).symm
  -- A packet that is at hand was made for a definition that is there.
  have none_after : packetsOf (some new) s.packets = [] := by
    refine packetsOf_eq_nil fun p member same => ?_
    obtain ⟨d, found, -⟩ := closed.packets member
    rw [← Option.some.inj same, holds.unused] at found
    cases found
  have empty : (Definition.ofSchema new key' schema).instances.toList = [] := by
    rw [Definition.instances_ofSchema]
    rfl
  simp only [step, reply, Telemetry.define, missing', seen, Answer.placed, Except.map]
  rw [view_eq (s := ⟨_, s.packets⟩) home', empty, same_id, none_after, Definition.erased_ofSchema]
  simp only [view, missing, unfiled, none_before]
  rfl

/-! ### Instances -/

/-- An instance of the definition, by one of its handles. -/
theorem exists_of_owns (holds : Registered past s.telemetry) (own : s.owns key r = true) :
    ∃ d i, s.telemetry.Home key d ∧ r.definition = d.id ∧ s.telemetry.instance? r = some (d, i) := by
  obtain ⟨here, there⟩ := Bool.and_eq_true_iff.mp own
  obtain ⟨d, home, same⟩ := holds.home (eq_of_beq here)
  obtain ⟨⟨d', i⟩, held⟩ := Option.isSome_iff_exists.mp there
  have found := (Telemetry.instance?_eq_some_iff.mp held).1
  rw [← same, home.found] at found
  obtain rfl := Option.some.inj found
  exact ⟨d, i, home, same.symm, held⟩

theorem getElem?_instances (home : s.telemetry.Home key d)
    (agrees : d.instances.Agrees Instance.label) (held : s.telemetry.instance? r = some (d, i)) :
    (s.view key).instances[(s.places key).instances r.id]? = some i.erased := by
  have within := (Telemetry.instance?_eq_some_iff.mp held).2
  simp only [view_eq home, places, home.find?, Option.elim_some, List.getElem?_map]
  rw [agrees.getElem?_place within, Option.map_some]

theorem seen_openInstance? (home : s.telemetry.Home key d)
    (agrees : d.instances.Agrees Instance.label)
    (unused : d.instances.get? s.telemetry.nextInstance = none) (name : Option String) :
    seen key (s.reply .opened (s.telemetry.openInstance? d.id name)) =
      (s.view key).openInstance name := by
  have located : (d.instances.toList.map Instance.erased).findIdx?
      (fun i => i.key == d.erased.instanceKey name) =
        (d.find? name).map fun i => d.instances.order.idxOf i.id := by
    rw [List.findIdx?_map]
    exact agrees.findIdx?_key (d.instanceKey name)
  rw [view_eq home, View.openInstance, Telemetry.openInstance?, home.found]
  simp only [located, Option.map_some]
  cases existing : d.find? name with
  | some i =>
      simp only [Option.map_some, reply, seen, view_eq home, Answer.placed, Except.map, Places.ref,
        places, home.find?, Option.elim_some]
  | none =>
      have home' := home.createInstance name s.telemetry.nextInstance
        (s.telemetry.nextInstance + 1) s.telemetry.settings.registry.lockOnFirstInstance
      obtain ⟨listed, place⟩ := agrees.toList_insert unused (d.instanceKey name)
        { id := s.telemetry.nextInstance, definition := d.id, key := d.instanceKey name,
          name := name.filter (· ≠ "") }
      rw [← d.instances_createInstance name s.telemetry.nextInstance
        s.telemetry.settings.registry.lockOnFirstInstance] at listed place
      simp only [Option.map_none, reply, seen, Answer.placed, Except.map, Places.ref, places,
        home'.find?, Option.elim_some, place]
      rw [view_eq home', listed, Definition.id_createInstance, List.length_map, List.map_append,
        Definition.erased_createInstance]
      rfl

/-! ### Packets -/

/-- A packet for the definition, by one of its handles. -/
theorem exists_of_ownsPacket (holds : Registered past s.telemetry)
    (own : s.ownsPacket key packet = true) : ∃ d p, s.telemetry.Home key d ∧
      s.packet? packet = some p ∧ p.definition = d.id := by
  obtain ⟨p, held, here⟩ := (Option.any_eq_true _ _).mp own
  obtain ⟨d, home, same⟩ := holds.home (eq_of_beq here)
  exact ⟨d, p, home, held, same.symm⟩

theorem getElem?_packets (home : s.telemetry.Home key d) (held : s.packet? packet = some p)
    (own : p.definition = d.id) :
    (s.view key).packets[(s.places key).packets packet]? = some p.erased := by
  have within := Option.join_eq_some_iff.mp held
  have mine := congrArg some own.symm
  simp only [view_eq home, places, home.id]
  rw [packetsOf_eq within, packetOf?_some mine]
  simp

/-- A new packet is one for the definition that made it. -/
theorem definition_of_createPacket (owned : d.OwnsColumns)
    (created : d.createPacket = .ok (p, d')) : p.definition = d.id := by
  obtain ⟨columns, event, rfl, -⟩ := Definition.createPacket_eq_ok created
  rw [← owned columns event]
  cases locked : columns.locked with
  | true => simp only [if_true, Packet.ofColumns]
  | false => rfl

theorem seen_createPacket? (home : s.telemetry.Home key d) (owned : d.OwnsColumns)
    (held : s.telemetry.instance? r = some (d, i)) (own : r.definition = d.id) :
    seen key (s.keep (s.telemetry.createPacket? r)) = (s.view key).createPacket := by
  rw [view_eq home, View.createPacket, Telemetry.createPacket?, held, Option.bind_some, own,
    Telemetry.onDefinition?, home.found]
  simp only [Option.map_some, Definition.createPacket_erased]
  cases created : d.createPacket with
  | error e => simp only [keep, seen, view_eq home, Answer.placed, Except.map]
  | ok made =>
      obtain ⟨p, d'⟩ := made
      have same := Definition.same_of_createPacket created
      have home' := home.withDefinition same.id
      have mine := definition_of_createPacket owned created
      simp only [keep, seen, Answer.placed, Except.map, places, home'.id, same.id,
        List.take_left, List.length_map]
      rw [view_eq (s := ⟨s.telemetry.withDefinition d', s.packets ++ [some p]⟩) home',
        same.instances, same.id, packetsOf_concat, packetOf?_some (congrArg some mine.symm),
        List.map_append]
      rfl

/-- A change to a packet that leaves it one for the same definition. -/
theorem seen_edit (home : s.telemetry.Home key d) (held : s.packet? packet = some p)
    (own : p.definition = d.id) (edited : Except Error Packet)
    (same : ∀ {p'}, edited = .ok p' → p'.definition = p.definition) :
    seen key (s.edit packet (some edited)) =
      (s.view key).edit ((s.places key).packets packet) (some (edited.map Packet.erased)) := by
  cases edited with
  | error e => rfl
  | ok p' =>
      have within := Option.join_eq_some_iff.mp held
      have mine := congrArg some own.symm
      have mine' := congrArg some ((same rfl).trans own).symm
      simp only [edit, seen, View.edit, Except.map, Answer.placed, places, home.id, view_eq home,
        view_eq (s := ⟨s.telemetry, s.packets.set packet (some p')⟩) home]
      rw [packetsOf_set within, packetsOf_eq within, packetOf?_some mine, packetOf?_some mine']
      simp

theorem seen_setNamed (home : s.telemetry.Home key d) (held : s.packet? packet = some p)
    (own : p.definition = d.id) (name : String) (value : Value) :
    seen key (s.step (.setNamed packet name value)) =
      (s.view key).step (.setNamed ((s.places key).packets packet) name value) := by
  have found : s.telemetry.setNamed? p name value =
      d.columns?.map fun columns => p.setNamed columns name value := by
    simp only [Telemetry.setNamed?, own, home.found, Option.bind_eq_bind, Option.bind_some]
    cases d.columns? with
    | none => rfl
    | some columns => rfl
  have view_found : (s.view key).definition = some d.erased := by rw [view_eq home]
  simp only [step, held, found, View.step, getElem?_packets home held own, view_found,
    Option.bind_some, Definition.columns?_erased]
  cases d.columns? with
  | none => rfl
  | some columns =>
      simp only [Option.map_some, Packet.setNamed_erased]
      exact seen_edit home held own _ Packet.definition_of_setNamed

theorem view_discard (home : s.telemetry.Home key d) (held : s.packet? packet = some p)
    (own : p.definition = d.id) :
    (s.discard packet).view key =
      { s.view key with
        packets := (s.view key).packets.eraseIdx ((s.places key).packets packet) } := by
  have within := Option.join_eq_some_iff.mp held
  have mine := congrArg some own.symm
  simp only [discard, view_eq home, places, home.id,
    view_eq (s := ⟨s.telemetry, s.packets.set packet none⟩) home]
  rw [packetsOf_set within, packetsOf_eq within, packetOf?_some mine]
  simp only [List.map_append]
  rw [List.eraseIdx_append_of_length_le (by simp)]
  simp [packetOf?]

/-! ### Samples -/

/-- Work that stores what passes a check, whatever its number. -/
theorem seen_store? (home : s.telemetry.Home key d) (agrees : d.instances.Agrees Instance.label)
    (held : s.telemetry.instance? r = some (d, i)) {sequence : Nat} {timestamp : Timestamp}
    {task : Definition → Instance → Except Error (Sample × Definition)}
    {checked : Except Error Payload} {check : Definition → Except Error Payload}
    (stores : task d i = checked.map fun payload => d.append i sequence timestamp payload)
    (ignores : check d.erased = checked) :
    seen key (s.reply .sample (s.telemetry.store? r task)) =
      (s.view key).store ((s.places key).instances r.id) timestamp check := by
  have within := (Telemetry.instance?_eq_some_iff.mp held).2
  have own : i.id = r.id := (agrees.byId.mp within).2
  rw [View.store, getElem?_instances home agrees held, Telemetry.store?, held]
  simp only [Option.map_some, stores, view_eq home, ignores]
  cases checked with
  | error e => simp only [reply, seen, Answer.placed, Except.map, view_eq home]
  | ok payload =>
      have home' : (s.telemetry.withDefinition
          (d.withStore i (i.store.append ⟨sequence, timestamp, payload⟩))).Home key _ :=
        home.withDefinition rfl
      have replaced := agrees.toList_set within
        { i with store := i.store.append ⟨sequence, timestamp, payload⟩ }
      rw [← own] at replaced ⊢
      simp only [reply, seen, Answer.placed, Except.map, Definition.append]
      rw [view_eq (home'.congr rfl), Definition.withStore, replaced]
      simp only [places, home.find?, List.map_set, Instance.erased_append]
      rfl

theorem seen_writeReading? (home : s.telemetry.Home key d)
    (agrees : d.instances.Agrees Instance.label) (held : s.telemetry.instance? r = some (d, i))
    (reading : Reading Float) (timestamp : Timestamp) :
    seen key (s.reply .sample (s.telemetry.writeReading? r reading timestamp)) =
      (s.view key).store ((s.places key).instances r.id) timestamp fun d =>
        (d.checkPayload (.counter reading)).map fun () => .counter reading := by
  have stores : ∀ sequence, d.writeReading i sequence reading timestamp =
      ((d.checkPayload (.counter reading)).map fun () => Payload.counter reading).map fun payload =>
        d.append i sequence timestamp payload := by
    intro sequence
    rw [Definition.writeReading]
    cases d.checkPayload (.counter reading) with
    | error e => rfl
    | ok _ => rfl
  refine seen_store? home agrees held (stores _) ?_
  rw [Definition.checkPayload_erased]

theorem seen_writePacket? (home : s.telemetry.Home key d)
    (agrees : d.instances.Agrees Instance.label) (held : s.telemetry.instance? r = some (d, i))
    (own : p.definition = d.id) (timestamp : Timestamp) :
    seen key (s.reply .sample (s.telemetry.writePacket? r p timestamp)) =
      (s.view key).storePacket ((s.places key).instances r.id) p.erased timestamp := by
  have stores : ∀ sequence, d.writePacket i sequence p timestamp =
      ((d.checkPacket p).map fun () => Payload.event p.slots).map fun payload =>
        d.append i sequence timestamp payload := by
    intro sequence
    rw [Definition.writePacket]
    cases d.checkPacket p with
    | error e => rfl
    | ok _ => rfl
  refine seen_store? home agrees held (stores _) ?_
  rw [Definition.checkPacket_erased own]
  rfl

/-- Writing a packet is storing its slots in a session that no longer has it. -/
theorem seen_writePacket (home : s.telemetry.Home key d)
    (agrees : d.instances.Agrees Instance.label) (held : s.telemetry.instance? r = some (d, i))
    (at_hand : s.packet? packet = some p) (own : p.definition = d.id) (timestamp : Timestamp) :
    seen key (s.step (.writePacket r packet timestamp)) = (s.view key).writePacket
      ((s.places key).instances r.id) ((s.places key).packets packet) timestamp := by
  have discarded := view_discard home at_hand own
  have written := seen_writePacket? (s := s.discard packet) home agrees held own timestamp
  rw [discarded] at written
  rw [View.writePacket, getElem?_packets home at_hand own]
  refine Eq.trans ?_ written
  simp only [step, at_hand, Option.bind_some, Telemetry.writePacket?, Telemetry.store?, discard, held,
    Option.map_some]

theorem seen_writeSample? (home : s.telemetry.Home key d)
    (agrees : d.instances.Agrees Instance.label) (owned : d.OwnsColumns)
    (held : s.telemetry.instance? r = some (d, i)) (own : r.definition = d.id)
    (values : List (Option Value)) (timestamp : Timestamp) :
    seen key (s.reply .sample (s.telemetry.writeSample? r values timestamp)) =
      (s.view key).writeSample ((s.places key).instances r.id) values timestamp := by
  have within := (Telemetry.instance?_eq_some_iff.mp held).2
  rw [Telemetry.writeSample?, Telemetry.createPacket?, held, Option.bind_some, own,
    Telemetry.onDefinition?, home.found, View.writeSample, view_eq home]
  simp only [Option.map_some, Definition.createPacket_erased]
  cases created : d.createPacket with
  | error e => simp only [Option.bind_some, reply, seen, Answer.placed, Except.map, view_eq home]
  | ok made =>
      obtain ⟨p, d'⟩ := made
      have same := Definition.same_of_createPacket created
      have home' := home.withDefinition same.id
      have view' := view_withDefinition home same
      rw [view_eq home] at view'
      simp only [Option.bind_some, Except.map, Prod.map, Packet.fill_erased]
      cases filled : p.fill values with
      | error e => simp only [reply, seen, Answer.placed, Except.map, view']
      | ok p' =>
          have mine : p'.definition = d'.id :=
            ((Packet.definition_of_fill filled).trans
              (definition_of_createPacket owned created)).trans same.id.symm
          have held' : (s.telemetry.withDefinition d').instance? r = some (d', i) := by
            refine Telemetry.instance?_eq_some_iff.mpr ⟨?_, same.instances ▸ within⟩
            rw [own, ← same.id]
            exact home'.found
          have written := seen_writePacket? (s := ⟨s.telemetry.withDefinition d', s.packets⟩) home'
            (same.instances ▸ agrees) held' mine timestamp
          rw [view'] at written
          simp only [places, home'.find?, home.find?, Option.elim_some, same.instances]
            at written ⊢
          rw [← written]
          unfold Telemetry.writePacket? Telemetry.store?
          rw [held']
          rfl

/-! ### Series -/

theorem seen_query? (home : s.telemetry.Home key d) (agrees : d.instances.Agrees Instance.label)
    (owned : d.OwnsColumns) (held : s.telemetry.instance? r = some (d, i))
    (settings : AggregationSettings) {q : Series.Query} (refers : q.RefersTo d) :
    seen key (s.reply .series (s.telemetry.query? r settings q)) =
      (s.view key).query ((s.places key).instances r.id) settings q.erased := by
  rw [View.query, getElem?_instances home agrees held, Telemetry.query?, held]
  simp only [Option.map_some, view_eq home, Series.compute_erased settings owned refers,
    Series.trendsColumn_erased owned refers, reply, seen, Answer.placed]
  cases Series.trendsColumn q d with
  | false => simp only [Bool.false_eq_true, if_false, view_eq home]
  | true =>
      simp only [if_true, view_withDefinition home d.same_lock, view_eq home,
        Definition.lock_erased]

/-! ### All operations -/

/-- **A session answers an operation on one definition as the definition by itself does.** -/
theorem step_seen (holds : Registered past s.telemetry) (closed : s.Sealed) {operation : Operation}
    (concerned : s.concerns key operation = true) (apart : s.separate key operation = true) :
    seen key (s.step operation) = (s.view key).step (operation.placed (s.places key)) := by
  have agrees : ∀ {d}, s.telemetry.Home key d → d.instances.Agrees Instance.label :=
    fun home => (holds.instances home.found).agrees
  have owned : ∀ {d}, s.telemetry.Home key d → d.OwnsColumns :=
    fun home _ => closed.owned home.found
  cases operation with
  | define schema key' =>
      have same : key'.Same key := of_decide_eq_true concerned
      cases found : s.telemetry.find? key with
      | none => exact seen_define_first holds closed found same
      | some d =>
          obtain ⟨d', home, -⟩ := holds.home (holds.find?_eq_some found)
          exact seen_define_again home same
  | addColumn id name type options =>
      obtain ⟨d, home, rfl⟩ := holds.home (eq_of_beq concerned)
      exact seen_onColumn? home ColumnSet.add_ignores
  | rehydrateColumn id name type options =>
      obtain ⟨d, home, rfl⟩ := holds.home (eq_of_beq concerned)
      exact seen_onColumn? home ColumnSet.rehydrate_ignores
  | removeColumn id name =>
      obtain ⟨d, home, rfl⟩ := holds.home (eq_of_beq concerned)
      exact seen_onColumn? home ColumnSet.remove_ignores
  | setDefaultColumn id name =>
      obtain ⟨d, home, rfl⟩ := holds.home (eq_of_beq concerned)
      exact seen_setDefault home name
  | lockColumns id =>
      obtain ⟨d, home, rfl⟩ := holds.home (eq_of_beq concerned)
      exact seen_task home (Definition.editColumns_erased (fun _ => rfl) d)
        Definition.same_of_editColumns fun _ _ => rfl
  | lock id =>
      obtain ⟨d, home, rfl⟩ := holds.home (eq_of_beq concerned)
      exact seen_lock home
  | openInstance id name =>
      obtain ⟨d, home, rfl⟩ := holds.home (eq_of_beq concerned)
      exact seen_openInstance? home (agrees home) (holds.unused_instance home.found) name
  | createPacket r =>
      obtain ⟨d, i, home, own, held⟩ := exists_of_owns holds concerned
      exact seen_createPacket? home (owned home) held own
  | setSlot packet index value =>
      obtain ⟨d, p, home, held, own⟩ := exists_of_ownsPacket holds concerned
      simp only [step, held, Option.map_some, Operation.placed, View.step,
        getElem?_packets home held own, Packet.set_erased]
      exact seen_edit home held own _ Packet.definition_of_set
  | setNamed packet name value =>
      obtain ⟨d, p, home, held, own⟩ := exists_of_ownsPacket holds concerned
      exact seen_setNamed home held own name value
  | fill packet values =>
      obtain ⟨d, p, home, held, own⟩ := exists_of_ownsPacket holds concerned
      simp only [step, held, Option.map_some, Operation.placed, View.step,
        getElem?_packets home held own, Packet.fill_erased]
      exact seen_edit home held own _ Packet.definition_of_fill
  | writePacket r packet timestamp =>
      obtain ⟨mine, mine'⟩ := Bool.and_eq_true_iff.mp concerned
      obtain ⟨d, i, home, -, held⟩ := exists_of_owns holds mine
      obtain ⟨d', p, home', at_hand, own⟩ := exists_of_ownsPacket holds mine'
      obtain rfl : d' = d := Option.some.inj (home'.find?.symm.trans home.find?)
      exact seen_writePacket home (agrees home) held at_hand own timestamp
  | writeSample r values timestamp =>
      obtain ⟨d, i, home, own, held⟩ := exists_of_owns holds concerned
      exact seen_writeSample? home (agrees home) (owned home) held own values timestamp
  | writeReading r reading timestamp =>
      obtain ⟨d, i, home, -, held⟩ := exists_of_owns holds concerned
      exact seen_writeReading? home (agrees home) held reading timestamp
  | query r settings q =>
      obtain ⟨d, i, home, own, held⟩ := exists_of_owns holds concerned
      refine seen_query? home (agrees home) (owned home) held settings fun ref selected => ?_
      simp only [separate, selected, decide_eq_true_iff] at apart
      exact (apart concerned).trans own
  | rehydrate r sample =>
      rw [separate, Bool.not_eq_true'] at apart
      rw [concerns, apart] at concerned
      cases concerned
  | takeSequence | observe => cases concerned

end Session

end Metering
