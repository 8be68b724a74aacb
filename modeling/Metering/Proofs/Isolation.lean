import Metering.Proofs.ViewStep

/-!
Definitions do not interfere.

An operation either concerns one definition, and then its answer and what it leaves behind follow from
the view of that definition (`step_seen`), or it leaves that view as it is (`view_of_foreign`). So
whoever works with one definition gets the answers that the definition by itself would give
(`dealings_eq`), whatever is done to other definitions in between (`run_isolated`).
-/

namespace Metering

open Metering.Time

/-- The same settings hold, and the definition with the given key is as it was. -/
structure Telemetry.Spares (key : Key) (t t' : Telemetry) : Prop where
  settings : t'.settings = t.settings
  home : t'.home? key = t.home? key
  found : t'.find? key = t.find? key

namespace Session

/-- Every operation of a run is separate: none mixes the handles of the definition with those of
others, or loads a sample into one of its instances. -/
def keepsSeparate (key : Key) : Session → List Operation → Bool
  | _, [] => true
  | s, operation :: rest =>
    s.separate key operation && (s.step operation).2.keepsSeparate key rest

/-- The operations of a run on the definition with the given key, with their answers. They have places
for handles, and samples without numbers. -/
def dealings (key : Key) : Session → List Operation → List Entry
  | _, [] => []
  | s, operation :: rest =>
    let (answer, s') := s.step operation
    if s.concerns key operation then
      ⟨operation.placed (s.places key), answer.placed (s'.places key)⟩ :: s'.dealings key rest
    else s'.dealings key rest

end Session

/-- The operations on a definition by itself, with their answers. -/
def View.record (v : View) : List Operation → List Entry
  | [] => []
  | operation :: rest => ⟨operation, (v.step operation).1⟩ :: (v.step operation).2.record rest

/-! ### What leaves a definition as it is -/

namespace Telemetry

variable {key : Key} {t t' t'' : Telemetry} {d d' : Definition} {id : DefinitionId}
  {r : InstanceRef} {past : List Entry}

theorem Spares.refl (t : Telemetry) : t.Spares key t :=
  ⟨rfl, rfl, rfl⟩

theorem Spares.trans (first : t.Spares key t') (second : t'.Spares key t'') : t.Spares key t'' :=
  ⟨second.settings.trans first.settings, second.home.trans first.home,
    second.found.trans first.found⟩

/-- Only settings and definitions matter. -/
theorem Spares.congr (spares : t.Spares key t') (settings : t''.settings = t'.settings)
    (definitions : t''.definitions = t'.definitions) : t.Spares key t'' := by
  refine ⟨settings.trans spares.settings, ?_, ?_⟩
  · rw [home?, definitions]
    exact spares.home
  · rw [find?, definitions]
    exact spares.found

theorem spares_withDefinition (other : t.home? key ≠ some d.id) :
    t.Spares key (t.withDefinition d) := by
  refine ⟨rfl, rfl, ?_⟩
  rw [find?, Catalog.find?, find?, Catalog.find?]
  change (t.home? key).bind _ = (t.home? key).bind _
  cases home : t.home? key with
  | none => rfl
  | some id =>
      rw [Option.bind_some, Option.bind_some, withDefinition, Catalog.get?_set, if_neg]
      rintro rfl
      exact other home

theorem define_spares (holds : Registered past t) (schema : Schema) {key' : Key}
    (other : ¬ key'.Same key) : t.Spares key (t.define schema key').2 := by
  have apart : key'.normalized ≠ key.normalized := fun same => other (Key.normalized_eq_iff.mp same)
  unfold define
  cases t.find? key' with
  | some d => exact .refl t
  | none =>
      have home : ({ t with
          definitions := t.definitions.insert t.nextDefinition key'.normalized
            (.ofSchema t.nextDefinition key' schema)
          nextDefinition := t.nextDefinition + 1 } : Telemetry).home? key = t.home? key := by
        rw [home?, Catalog.idOf?_insert, if_neg apart, home?]
      refine ⟨rfl, home, ?_⟩
      rw [find?, Catalog.find?, ← home?, home, find?, Catalog.find?, ← home?]
      cases own : t.home? key with
      | none => rfl
      | some id =>
          obtain ⟨d, there, rfl⟩ := holds.home own
          rw [Option.bind_some, Option.bind_some, Catalog.get?_insert, if_neg]
          intro new
          have found := there.found
          rw [← new, holds.unused] at found
          cases found

theorem onDefinition?_spares {α : Type} {work : Definition → Except Error (α × Definition)}
    {result : Except Error α} (filed : t.Filed) (other : t.home? key ≠ some id)
    (frame : ∀ {d a d'}, work d = .ok (a, d') → d.Same d')
    (done : t.onDefinition? id work = some (result, t')) : t.Spares key t' := by
  rcases onDefinition?_cases done with ⟨e, -, rfl⟩ | ⟨d, a, d', found, worked, -, rfl⟩
  · exact .refl t'
  · refine spares_withDefinition ?_
    rw [(frame worked).id, (filed _ _ found).1]
    exact other

theorem openInstance?_spares {name : Option String} {result : Except Error InstanceRef}
    (filed : t.Filed) (other : t.home? key ≠ some id)
    (done : t.openInstance? id name = some (result, t')) : t.Spares key t' := by
  rcases openInstance?_cases done with rfl | ⟨d, found, rfl⟩
  · exact .refl t'
  · have spares : t.Spares key (t.withDefinition (d.createInstance name t.nextInstance
        t.settings.registry.lockOnFirstInstance)) := by
      refine spares_withDefinition ?_
      rw [Definition.id_createInstance, (filed _ _ found).1]
      exact other
    exact spares.congr rfl rfl

theorem createPacket?_spares {result : Except Error Packet} (filed : t.Filed)
    (other : (t.instance? r).isSome → t.home? key ≠ some r.definition)
    (done : t.createPacket? r = some (result, t')) : t.Spares key t' := by
  obtain ⟨held, found, done⟩ := Option.bind_eq_some_iff.mp done
  exact onDefinition?_spares filed (other (found ▸ rfl)) Definition.same_of_createPacket done

theorem store?_spares {work : Definition → Instance → Except Error (Sample × Definition)}
    {result : Except Error Sample} (filed : t.Filed)
    (other : (t.instance? r).isSome → t.home? key ≠ some r.definition)
    (sound : ∀ {d i sample d'}, work d i = .ok (sample, d') → ∃ store, d' = d.withStore i store)
    (done : t.store? r work = some (result, t')) : t.Spares key t' := by
  cases result with
  | error e =>
      obtain rfl := store?_error done
      exact .refl t'
  | ok sample =>
      obtain ⟨d, i, d', found, worked, rfl⟩ := store?_ok done
      obtain ⟨store, rfl⟩ := sound worked
      have spares : t.Spares key (t.withDefinition (d.withStore i store)) := by
        refine spares_withDefinition ?_
        rw [Definition.withStore, (filed _ _ (instance?_eq_some_iff.mp found).1).1]
        exact other (found ▸ rfl)
      exact spares.congr rfl rfl

theorem writeSample?_spares {values : List (Option Value)} {timestamp : Timestamp}
    {result : Except Error Sample} (filed : t.Filed)
    (other : (t.instance? r).isSome → t.home? key ≠ some r.definition)
    (done : t.writeSample? r values timestamp = some (result, t')) : t.Spares key t' := by
  obtain ⟨made, t₁, created, rest⟩ := writeSample?_steps done
  have first := createPacket?_spares filed other created
  rcases rest with ⟨e, -, rfl⟩ | ⟨p, filled, -, -, written⟩
  · exact first
  · have filed₁ := (createPacket?_keeps filed created).filed
    have found := (createPacket?_sameRegistry filed created).instance? (r := r)
    refine first.trans (store?_spares filed₁ (fun held => ?_) Definition.withStore_of_writePacket
      written)
    rw [first.home]
    exact other (found held)

theorem query?_spares {settings : AggregationSettings} {q : Series.Query}
    {result : Except Error (Series Float)} (filed : t.Filed)
    (other : (t.instance? r).isSome → t.home? key ≠ some r.definition)
    (done : t.query? r settings q = some (result, t')) : t.Spares key t' := by
  have found : (t.instance? r).isSome := by
    obtain ⟨held, found, -⟩ := Option.map_eq_some_iff.mp done
    rw [found]
    rfl
  rcases query?_cases done with rfl | ⟨d, defined, rfl⟩
  · exact .refl t'
  · refine spares_withDefinition ?_
    rw [(Definition.same_lock d).id, (filed _ _ defined).1]
    exact other found

end Telemetry

/-! ### Operations elsewhere -/

namespace Session

variable {key : Key} {s s' : Session} {past : List Entry} {r : InstanceRef} {packet : Nat}
  {operation : Operation}

theorem view_of_spares (spares : s.telemetry.Spares key s'.telemetry)
    (packets : packetsOf (s.telemetry.home? key) s'.packets =
      packetsOf (s.telemetry.home? key) s.packets) : s'.view key = s.view key := by
  rw [view, view, spares.settings, spares.home, spares.found, packets]

/-- An operation on telemetry alone. -/
theorem view_reply {α : Type} {answer : Except Error α → Answer}
    {outcome : Option (Telemetry.Outcome α)}
    (spares : ∀ {result t'}, outcome = some (result, t') → s.telemetry.Spares key t') :
    (s.reply answer outcome).2.view key = s.view key := by
  cases outcome with
  | none => rfl
  | some done => exact view_of_spares (spares rfl) rfl

theorem ne_of_owns_eq_false (foreign : s.owns key r = false)
    (found : (s.telemetry.instance? r).isSome) : s.telemetry.home? key ≠ some r.definition := by
  rw [owns, found, Bool.and_true] at foreign
  exact ne_of_beq_false foreign

theorem ne_of_ownsPacket_eq_false {p : Packet} (foreign : s.ownsPacket key packet = false)
    (held : s.packet? packet = some p) : s.telemetry.home? key ≠ some p.definition := by
  rw [ownsPacket, held, Option.any_some] at foreign
  exact ne_of_beq_false foreign

/-- A packet for another definition is filled. -/
theorem view_edit {edited : Option (Except Error Packet)}
    (foreign : s.ownsPacket key packet = false)
    (fills : ∀ {p'}, edited = some (.ok p') →
      ∃ p, s.packet? packet = some p ∧ p'.definition = p.definition) :
    (s.edit packet edited).2.view key = s.view key := by
  rcases edited with _ | _ | p'
  · rfl
  · rfl
  · obtain ⟨p, held, same⟩ := fills rfl
    have other := ne_of_ownsPacket_eq_false foreign held
    refine view_of_spares (.refl _) ?_
    exact packetsOf_set_elsewhere (Option.join_eq_some_iff.mp held) (packetOf?_eq_none other)
      (packetOf?_eq_none (same ▸ other))

/-- An operation that does not concern a definition leaves all that is seen of it as it is. -/
theorem view_of_foreign (holds : Registered past s.telemetry) (closed : s.Sealed)
    (foreign : s.concerns key operation = false) (apart : s.separate key operation = true) :
    (s.step operation).2.view key = s.view key := by
  have filed := holds.filed
  cases operation with
  | define schema key' =>
      exact view_of_spares (Telemetry.define_spares holds schema (of_decide_eq_false foreign)) rfl
  | addColumn | rehydrateColumn | removeColumn | setDefaultColumn | lockColumns =>
      exact view_reply (Telemetry.onDefinition?_spares filed (ne_of_beq_false foreign)
        Definition.same_of_editColumns)
  | lock id =>
      exact view_reply (Telemetry.onDefinition?_spares filed (ne_of_beq_false foreign)
        Definition.same_of_lock)
  | openInstance id name =>
      exact view_reply (Telemetry.openInstance?_spares filed (ne_of_beq_false foreign))
  | createPacket r =>
      have other := ne_of_owns_eq_false foreign
      simp only [step]
      cases created : s.telemetry.createPacket? r with
      | none => rfl
      | some outcome =>
          obtain ⟨made, t'⟩ := outcome
          have spares := Telemetry.createPacket?_spares filed other created
          cases made with
          | error e => exact view_of_spares spares rfl
          | ok p =>
              obtain ⟨-, d, columns, defined, event, same⟩ := Telemetry.createPacket?_ok filed created
              obtain ⟨held, found, -⟩ := Option.bind_eq_some_iff.mp created
              rw [closed.owned defined event] at same
              have elsewhere := packetOf?_eq_none (same ▸ other (found ▸ rfl))
              refine view_of_spares spares ((packetsOf_concat s.packets (some p)).trans ?_)
              rw [elsewhere, Option.toList_none, List.append_nil]
  | setSlot => exact view_edit foreign fills_setSlot
  | setNamed => exact view_edit foreign fills_setNamed
  | fill => exact view_edit foreign fills_fill
  | writePacket r packet timestamp =>
      -- Either both handles are those of the definition, or neither is.
      have both : s.owns key r = s.ownsPacket key packet := eq_of_beq apart
      rw [concerns, both, Bool.and_self] at foreign
      simp only [step]
      split
      · rfl
      · rename_i outcome written
        obtain ⟨p, held, written⟩ := Option.bind_eq_some_iff.mp written
        have other := ne_of_ownsPacket_eq_false foreign held
        have discarded : (s.discard packet).view key = s.view key :=
          view_of_spares (.refl _) (packetsOf_set_elsewhere (Option.join_eq_some_iff.mp held)
            (packetOf?_eq_none other) rfl)
        refine (view_reply fun done => ?_).trans discarded
        exact Telemetry.store?_spares filed (ne_of_owns_eq_false (both.trans foreign))
          Definition.withStore_of_writePacket (written.trans done)
  | writeSample r values timestamp =>
      exact view_reply (Telemetry.writeSample?_spares filed (ne_of_owns_eq_false foreign))
  | writeReading r reading timestamp =>
      exact view_reply (Telemetry.store?_spares filed (ne_of_owns_eq_false foreign)
        Definition.withStore_of_writeReading)
  | rehydrate r sample =>
      exact view_reply (Telemetry.store?_spares filed (ne_of_owns_eq_false foreign)
        Definition.withStore_of_rehydrate)
  | query r settings q =>
      exact view_reply (Telemetry.query?_spares filed (ne_of_owns_eq_false foreign))
  | takeSequence | observe => exact view_of_spares ((Telemetry.Spares.refl _).congr rfl rfl) rfl

/-! ### Whole runs -/

/-- What a run answers to those who work with one definition follows from what they ask. -/
theorem dealings_eq (holds : Registered past s.telemetry) (closed : s.Sealed)
    {operations : List Operation} (apart : s.keepsSeparate key operations = true) :
    s.dealings key operations =
      (s.view key).record ((s.dealings key operations).map (·.operation)) := by
  induction operations generalizing s past with
  | nil => rfl
  | cons operation rest ih =>
      obtain ⟨here, later⟩ := Bool.and_eq_true_iff.mp apart
      have rest_eq := ih (step_registered holds operation) (step_sealed closed operation) later
      simp only [dealings]
      cases concerned : s.concerns key operation with
      | true =>
          have seen_eq := step_seen holds closed concerned here
          rw [if_pos rfl, List.map_cons, View.record, ← seen_eq]
          exact congrArg _ rest_eq
      | false =>
          rw [if_neg Bool.false_ne_true, ← view_of_foreign holds closed concerned here]
          exact rest_eq

/-- **Definitions do not interfere.** Two runs under the same settings whose operations on a
definition are the same, up to ids, answer them the same, up to ids and sequence numbers. All other
operations may differ, and so may the numbers that the runs start from. -/
theorem run_isolated {settings : Settings} {start start' : Nat} {s s' : Session} {key : Key}
    {operations operations' : List Operation} (created : create settings start = .ok s)
    (created' : create settings start' = .ok s')
    (apart : s.keepsSeparate key operations = true)
    (apart' : s'.keepsSeparate key operations' = true)
    (same : (s.dealings key operations).map (·.operation) =
      (s'.dealings key operations').map (·.operation)) :
    s.dealings key operations = s'.dealings key operations' := by
  have view : s.view key = s'.view key := by
    obtain rfl := create_eq_ok created
    obtain rfl := create_eq_ok created'
    rfl
  rw [dealings_eq (registered_create created) (sealed_create created) apart, same, view,
    ← dealings_eq (registered_create created') (sealed_create created') apart']

def watched : Key := ⟨"web", "http", "requests"⟩

/-- An event that a packet is written to, by itself. -/
def undisturbed : List Operation :=
  [.define .event watched, .addColumn 0 "Status" .int {}, .openInstance 0 none,
   .createPacket ⟨0, 0⟩, .setNamed 0 "status" (.int 404), .writePacket ⟨0, 0⟩ 0 .earliest,
   .query ⟨0, 0⟩ {} { granularity := .interval .minute 1, selector := .named "Status" }]

/-- The same after and in between operations on another event, whose samples are loaded under numbers
of their own. -/
def disturbed : List Operation :=
  [.define .event ⟨"db", "sql", "queries"⟩, .openInstance 0 none, .createPacket ⟨0, 0⟩,
   .rehydrate ⟨0, 0⟩ ⟨900, .earliest, .event []⟩, .define .event watched,
   .addColumn 1 "Status" .int {}, .openInstance 1 none, .createPacket ⟨1, 1⟩,
   .setNamed 1 "status" (.int 404), .writePacket ⟨0, 0⟩ 0 .earliest,
   .writePacket ⟨1, 1⟩ 1 .earliest, .rehydrate ⟨0, 0⟩ ⟨3, .earliest, .event []⟩,
   .query ⟨1, 1⟩ {} { granularity := .interval .minute 1, selector := .named "Status" }]

/-- The second run gives out other ids and other numbers, and the same answers. -/
theorem run_isolated_disturbed :
    let s : Session := ⟨{}, []⟩
    let s' : Session := ⟨{ lastSequence := 40 }, []⟩
    create {} 0 = .ok s ∧ create {} 40 = .ok s' ∧
    s.keepsSeparate watched undisturbed = true ∧ s'.keepsSeparate watched disturbed = true ∧
    (s.dealings watched undisturbed).map (·.operation) = undisturbed ∧
    (s'.dealings watched disturbed).map (·.operation) = undisturbed ∧
    (s.run undisturbed).telemetry.lastSequence = 1 ∧
    (s'.run disturbed).telemetry.lastSequence = 902 ∧
    s.dealings watched undisturbed = s'.dealings watched disturbed := by
  have asked : ((⟨{}, []⟩ : Session).dealings watched undisturbed).map (·.operation) =
      undisturbed := by with_unfolding_all rfl
  have asked' : ((⟨{ lastSequence := 40 }, []⟩ : Session).dealings watched disturbed).map
      (·.operation) = undisturbed := by with_unfolding_all rfl
  intro s s'
  have created : create {} 0 = .ok s := rfl
  have created' : create {} 40 = .ok s' := rfl
  have apart : s.keepsSeparate watched undisturbed = true := by decide +kernel
  have apart' : s'.keepsSeparate watched disturbed = true := by decide +kernel
  exact ⟨created, created', apart, apart', asked, asked', by decide +kernel, by decide +kernel,
    run_isolated created created' apart apart' (asked.trans asked'.symm)⟩

end Session

end Metering
