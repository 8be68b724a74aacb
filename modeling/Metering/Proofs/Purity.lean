import Metering.Proofs.Change
import Metering.Proofs.Refusal

/-!
Asking for a series changes no answer.

A query may lock the columns of the definition it trends, and does nothing else, whether it is
answered or refused. As a series is always computed as if the columns were locked (`compute_lock`),
no later query can tell whether they are. `run_query_pure` says both for whole runs.
-/

namespace Metering

open Metering.Time

/-! ### Locking twice -/

theorem ColumnSet.lock_lock (s : ColumnSet) : s.lock.lock = s.lock := by
  have same : s.lock.lock.columns = s.lock.columns := by
    refine Array.ext_getElem? fun serial => ?_
    rw [getElem?_columns_lock, getElem?_columns_lock, Option.map_map]
    congr 1
    funext column
    have order : s.lock.order = s.order := rfl
    rw [Function.comp_apply, order, ← Option.or_assoc, Option.or_self]
  calc s.lock.lock = { s.lock with columns := s.lock.lock.columns } := rfl
    _ = s.lock := by rw [same]

namespace Definition

variable {d d' d'' : Definition}

/-- The definition is as before, or its columns were locked. -/
def Locks (d d' : Definition) : Prop :=
  d' = d ∨ d' = d.lock

theorem columns?_lock (d : Definition) : d.lock.columns? = d.columns?.map (·.lock) := by
  unfold lock
  cases event : d.columns? with
  | none => rw [event, Option.map_none]
  | some s => rw [columns?_withColumns event, Option.map_some]

theorem lock_lock (d : Definition) : d.lock.lock = d.lock := by
  have event := columns?_lock d
  rw [lock.eq_def d.lock, event]
  cases before : d.columns? with
  | none => rfl
  | some s =>
      rw [before] at event
      simp only [Option.map_some, ColumnSet.lock_lock]
      exact withColumns_self event

theorem Locks.refl (d : Definition) : d.Locks d :=
  .inl rfl

theorem Locks.trans (first : d.Locks d') (second : d'.Locks d'') : d.Locks d'' := by
  rcases first with rfl | rfl
  · exact second
  · rcases second with rfl | rfl
    · exact .inr rfl
    · exact .inr d.lock_lock

theorem Locks.instances (locks : d.Locks d') : d'.instances = d.instances := by
  rcases locks with rfl | rfl
  · rfl
  · exact (same_lock d).instances

end Definition

namespace Series

variable {ν : Type} [Arithmetic ν] {settings : AggregationSettings} {q : Query} {d d' : Definition}

/-! ### Series of a locked definition -/

/-- Which column is asked for does not depend on whether the columns are locked. -/
theorem resolve_lock (d : Definition) (selector : Selector) :
    resolve d.lock selector = resolve d selector := by
  have key : d.lock.key = d.key := (Definition.same_lock d).key
  unfold resolve
  rw [Definition.columns?_lock, key]
  cases d.columns? with
  | none => rfl
  | some s =>
      cases selector with
      | occurrences | default | column => rfl
      | named name =>
          have named : s.lock.serialOf? name = s.serialOf? name := rfl
          simp only [Option.map_some, ColumnSet.get, named]
          cases s.serialOf? name with
          | none => rfl
          | some serial =>
              simp only [ColumnSet.getElem?_columns_lock]
              cases s.columns[serial]? with
              | none => rfl
              | some column => rfl

theorem plan_lock (q : Query) (d : Definition) : plan q d.lock = plan q d := by
  rw [plan, resolve_lock, plan]

theorem instanceSeries_lock (settings : AggregationSettings) (q : Query) (d : Definition)
    (trended : Option Nat) (i : Instance) :
    (instanceSeries settings q d.lock trended i : Except Error (Series ν)) =
      instanceSeries settings q d trended i := by
  have event := Definition.columns?_lock d
  cases body : d.body with
  | counterSampled type =>
      have nothing : d.columns? = none := by rw [Definition.columns?, body]
      rw [Definition.lock, nothing]
  | event s =>
      rw [Definition.columns?_eq_some_iff.mpr body, Option.map_some,
        Definition.columns?_eq_some_iff] at event
      unfold instanceSeries
      rw [body, event]
      cases trended with
      | none => rfl
      | some serial => simp only [ColumnSet.lock_lock]

/-- A series is computed as if the columns were locked. -/
theorem compute_lock (settings : AggregationSettings) (q : Query) (d : Definition) (i : Instance) :
    (compute settings q d.lock i : Except Error (Series ν)) = compute settings q d i := by
  rw [compute, compute, plan_lock]
  cases plan q d with
  | error e => rfl
  | ok trended => exact instanceSeries_lock settings q d trended i

theorem compute_of_locks (locks : d.Locks d') (i : Instance) :
    (compute settings q d' i : Except Error (Series ν)) = compute settings q d i := by
  rcases locks with rfl | rfl
  · rfl
  · exact compute_lock settings q d i

theorem trendsColumn_eq_true_iff :
    trendsColumn q d = true ↔ ∃ serial, plan q d = .ok (some serial) := by
  unfold trendsColumn
  rcases plan q d with e | _ | serial
  · exact iff_of_false nofun nofun
  · exact iff_of_false nofun nofun
  · exact iff_of_true rfl ⟨serial, rfl⟩

end Series

/-! ### Telemetry that is asked -/

namespace Telemetry

variable {t t' t'' : Telemetry} {r : InstanceRef} {settings : AggregationSettings} {q : Series.Query}

/-- The telemetry is as before, but that the columns of some definitions were locked. -/
def Locks (t t' : Telemetry) : Prop :=
  ∀ id, Option.Rel Definition.Locks (t.definition? id) (t'.definition? id)

theorem Locks.refl (t : Telemetry) : t.Locks t := by
  intro id
  cases t.definition? id with
  | none => exact .none
  | some d => exact .some (.refl d)

theorem Locks.trans (first : t.Locks t') (second : t'.Locks t'') : t.Locks t'' := by
  intro id
  have here := first id
  have there := second id
  generalize t.definition? id = before at here ⊢
  generalize t'.definition? id = between at here there
  generalize t''.definition? id = after at there ⊢
  cases here with
  | none => exact there
  | some locks =>
      cases there with
      | some locks' => exact .some (locks.trans locks')

/-- Every instance is as before. -/
theorem Locks.instance? (locks : t.Locks t') (r : InstanceRef) :
    Option.Rel (fun found found' => found.1.Locks found'.1 ∧ found'.2 = found.2) (t.instance? r)
      (t'.instance? r) := by
  have here := locks r.definition
  unfold Telemetry.instance?
  generalize t.definition? r.definition = before at here ⊢
  generalize t'.definition? r.definition = after at here ⊢
  cases here with
  | none => exact .none
  | @some d d' locks =>
      simp only [Option.bind_eq_bind, Option.bind_some, locks.instances]
      cases d.instances.get? r.id with
      | none => exact .none
      | some i => exact .some ⟨locks, rfl⟩

/-- A query is answered as before. -/
theorem Locks.query?_fst (locks : t.Locks t') :
    (t'.query? r settings q).map Prod.fst = (t.query? r settings q).map Prod.fst := by
  have here := locks.instance? r
  unfold query?
  generalize t.instance? r = before at here ⊢
  generalize t'.instance? r = after at here ⊢
  cases here with
  | none => rfl
  | @some found found' same =>
      obtain ⟨d, i⟩ := found
      obtain ⟨d', i'⟩ := found'
      obtain ⟨locks, rfl⟩ := same
      simp only [Option.map_some, Series.compute_of_locks locks]

theorem locks_withDefinition {d : Definition} (found : t.definition? d.id = some d) :
    t.Locks (t.withDefinition d.lock) := by
  intro id
  rw [definition?_withDefinition, (Definition.same_lock d).id]
  by_cases here : d.id = id
  · rw [if_pos here, ← here, found]
    exact .some (.inr rfl)
  · rw [if_neg here]
    exact Locks.refl t id

theorem query?_locks {result : Except Error (Series Float)} (filed : t.Filed)
    (done : t.query? r settings q = some (result, t')) : t.Locks t' := by
  rcases query?_cases done with rfl | ⟨d, found, rfl⟩
  · exact .refl t'
  · rw [← (filed _ _ found).1] at found
    exact locks_withDefinition found

end Telemetry

/-! ### Whole runs -/

/-- The operation asks for a series. -/
def Operation.asks : Operation → Bool
  | .query .. => true
  | _ => false

namespace Session

variable {s s' : Session} {settings : Settings} {lastSequence : Nat} {operation : Operation}

/-- What a query leaves behind, answered or refused. -/
structure AfterQuery (s s' : Session) (r : InstanceRef) (q : Series.Query) : Prop where
  packets : s'.packets = s.packets
  locks : s.telemetry.LocksAtMost s'.telemetry r.definition
  /-- All registered instances are the same, with all their samples. -/
  definitions : s.telemetry.Recolumned s'.telemetry
  resolved : ∀ {d : Definition} {i : Instance} {serial : Nat},
    s.telemetry.instance? r = some (d, i) → Series.plan q d = .ok (some serial) →
      s'.telemetry.definition? r.definition = some d.lock
  unresolved : (∀ d i, s.telemetry.instance? r = some (d, i) →
    ∀ serial, Series.plan q d ≠ .ok (some serial)) → s' = s

theorem reply_fst {α : Type} (answer : Except Error α → Answer)
    (outcome : Option (Telemetry.Outcome α)) :
    (s.reply answer outcome).1 = (outcome.map Prod.fst).elim .nowhere answer := by
  cases outcome with
  | none => rfl
  | some found => rfl

/-- What locked some columns cannot be told from the answer to a query. -/
theorem step_query_of_locks (locks : s.telemetry.Locks s'.telemetry) (r : InstanceRef)
    (agg : AggregationSettings) (q : Series.Query) :
    (s'.step (.query r agg q)).1 = (s.step (.query r agg q)).1 := by
  simp only [step, reply_fst, locks.query?_fst]

theorem step_locks (filed : s.telemetry.Filed) (asks : operation.asks = true) :
    s.telemetry.Locks (s.step operation).2.telemetry := by
  cases operation with
  | query r agg q =>
      simp only [step]
      cases done : s.telemetry.query? r agg q with
      | none => exact .refl _
      | some outcome => exact Telemetry.query?_locks filed done
  | _ => cases asks

theorem run_locks (filed : s.telemetry.Filed) (operations : List Operation)
    (asks : ∀ operation ∈ operations, operation.asks = true) :
    s.telemetry.Locks (s.run operations).telemetry := by
  induction operations generalizing s with
  | nil => exact .refl _
  | cons operation rest ih =>
      have first := step_locks filed (asks operation List.mem_cons_self)
      have filed' := (step_effect filed operation).filed
      exact first.trans (ih filed' fun other member => asks other (List.mem_cons_of_mem _ member))

theorem step_query (sound : s.telemetry.Sound) (r : InstanceRef) (agg : AggregationSettings)
    (q : Series.Query) : s.AfterQuery (s.step (.query r agg q)).2 r q := by
  simp only [step]
  cases done : s.telemetry.query? r agg q with
  | none =>
      refine ⟨rfl, .refl _ _, .refl _, fun found _ => ?_, fun _ => rfl⟩
      rw [Telemetry.query?, found] at done
      cases done
  | some outcome =>
      obtain ⟨result, t'⟩ := outcome
      refine ⟨rfl, Telemetry.query?_locksAtMost sound done,
        Telemetry.query?_recolumned sound.filed done, ?resolved, ?unresolved⟩
      case resolved =>
        intro d i serial found planned
        obtain ⟨defined, -⟩ := Telemetry.instance?_eq_some_iff.mp found
        have trends : Series.trendsColumn q d = true :=
          Series.trendsColumn_eq_true_iff.mpr ⟨serial, planned⟩
        simp only [Telemetry.query?, found, Option.map_some, trends, if_true, Option.some.injEq,
          Prod.mk.injEq] at done
        obtain ⟨-, rfl⟩ := done
        have same : d.lock.id = r.definition :=
          (Definition.same_lock d).id.trans (sound.filed _ _ defined).1
        exact (Telemetry.definition?_withDefinition ..).trans (if_pos same)
      case unresolved =>
        intro nothing
        obtain ⟨⟨d, i⟩, found, done⟩ := Option.map_eq_some_iff.mp done
        have trends : ¬ Series.trendsColumn q d = true := fun trends => by
          obtain ⟨serial, planned⟩ := Series.trendsColumn_eq_true_iff.mp trends
          exact nothing d i found serial planned
        simp only [trends, Bool.false_eq_true, if_false, Prod.mk.injEq] at done
        obtain ⟨-, rfl⟩ := done
        rfl

/-- **Queries are pure** but for the columns that they lock, and that makes no difference to any
query: whatever else is asked in between, each is answered as before. -/
theorem run_query_pure (created : create settings lastSequence = .ok s)
    (operations : List Operation) (r : InstanceRef) (agg : AggregationSettings) (q : Series.Query) :
    (s.run operations).AfterQuery ((s.run operations).step (.query r agg q)).2 r q ∧
    ∀ between : List Operation, (∀ operation ∈ between, operation.asks = true) →
      (((s.run operations).run between).step (.query r agg q)).1 =
        ((s.run operations).step (.query r agg q)).1 := by
  have sound := run_sound (sound_create created) operations
  refine ⟨step_query sound r agg q, fun between asks => ?_⟩
  exact step_query_of_locks (run_locks sound.filed between asks) r agg q

/-- The trend of a column locks the open definition. It is answered as before after that, after a
query that is refused and after one that counts. -/
theorem run_query_pure_openEvent :
    let s : Session := ⟨{ settings := instancesOpen }, []⟩
    let operations : List Operation := openEvent ++
      [.rehydrate ⟨0, 0⟩ ⟨1, .earliest, .event [some (.int 200)]⟩]
    let ask : Series.Selector → Operation := fun selector =>
      .query ⟨0, 0⟩ {} ⟨.shortest, none, none, selector⟩
    let t := s.run operations
    create instancesOpen 0 = .ok s ∧
    ¬ t.telemetry.Locked 0 ∧
    (t.step (ask (.named "status"))).2.telemetry.Locked 0 ∧
    (t.step (ask (.named "late"))).1.error? = some (.unknownColumn "web~http~requests" "late") ∧
    (t.step (ask (.named "status"))).1.error? = none ∧
    t.AfterQuery (t.step (ask (.named "status"))).2 ⟨0, 0⟩ ⟨.shortest, none, none, .named "status"⟩ ∧
    ((t.run [ask (.named "status"), ask (.named "late"), ask .occurrences]).step
      (ask (.named "status"))).1 = (t.step (ask (.named "status"))).1 := by
  intro s operations ask t
  have created : create instancesOpen 0 = .ok s := rfl
  obtain ⟨after, same⟩ :=
    run_query_pure created operations ⟨0, 0⟩ {} ⟨.shortest, none, none, .named "status"⟩
  have asks : ∀ operation ∈ [ask (.named "status"), ask (.named "late"), ask .occurrences],
      operation.asks = true := by decide
  exact ⟨created, by decide +kernel, by decide +kernel, by decide +kernel, by decide +kernel, after,
    same _ asks⟩

end Session

end Metering
