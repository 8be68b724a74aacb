import Mathlib.Data.List.Perm.Basic
import Metering.Proofs.Kinds
import Metering.Proofs.Series.Likeness

/-!
Loading samples that are stored elsewhere.

Samples of the right kind with numbers of their own are all accepted, and the order in which they are
loaded makes no difference (`run_loadAll`, `LoadsInAnyOrder`): a store holds them by their numbers,
and the source of numbers has seen the greatest one. So an instance can be rebuilt elsewhere, and
answers every query as the original does (`run_rehydrated`).
-/

namespace Metering

open Metering.Time Metering.Series

/-- The operations that load samples into an instance, one after the other. -/
def loadAll (r : InstanceRef) (entries : List Sample) : List Operation :=
  entries.map (.rehydrate r)

/-- Samples of the kind of the definition, with numbers that the instance does not hold. -/
structure Loadable (d : Definition) (i : Instance) (entries : List Sample) : Prop where
  kind : ∀ e ∈ entries, e.payload.kind = d.kind
  distinct : (entries.map (·.sequence)).Nodup
  fresh : ∀ e ∈ entries, ∀ held ∈ i.store.samples, held.sequence ≠ e.sequence

/-- The samples were added to one instance, and all else is as before. -/
structure Session.Loaded (s s' : Session) (r : InstanceRef) (d : Definition) (i : Instance)
    (entries : List Sample) : Prop where
  found : ∃ instances i', s'.telemetry.instance? r = some ({ d with instances }, i') ∧
    Store.Ascending i'.store.samples ∧ i'.store.samples.Perm (i.store.samples ++ entries)
  elsewhere : ∀ r', r' ≠ r → s'.telemetry.samples r' = s.telemetry.samples r'
  lastSequence : s'.telemetry.lastSequence =
    (entries.map (·.sequence)).foldl max s.telemetry.lastSequence

/-- In whatever order the samples are loaded, all of them are accepted, and every instance ends with
the same samples. -/
structure Session.LoadsInAnyOrder (s : Session) (r : InstanceRef) (d : Definition) (i : Instance)
    (entries : List Sample) : Prop where
  accepted : ∀ {order : List Sample}, order.Perm entries →
    s.record (loadAll r order) = order.map fun e => ⟨.rehydrate r e, .sample (.ok e)⟩
  loaded : ∀ {order : List Sample}, order.Perm entries →
    s.Loaded (s.run (loadAll r order)) r d i entries
  same : ∀ {order : List Sample}, order.Perm entries →
    ∀ r', (s.run (loadAll r order)).telemetry.samples r' =
      (s.run (loadAll r entries)).telemetry.samples r'

/-- Both queries were answered alike. -/
def Answer.Alike (a b : Answer) : Prop :=
  ∃ x y, a = .series x ∧ b = .series y ∧ SameAnswer x y

/-- The numbers of a series that was answered. -/
def Answer.numbers? : Answer → Option (List Float)
  | .series (.ok s) => some s.values.numbers
  | _ => none

theorem Answer.Alike.numbers? {a b : Answer} (alike : a.Alike b) : b.numbers? = a.numbers? := by
  obtain ⟨x, y, rfl, rfl, same | ⟨⟨_, _, rfl⟩, _, _, rfl⟩⟩ := alike
  · rw [same]
  · rfl

/-! ### One sample -/

/-- A number that the store does not hold has a place. -/
theorem Store.rehydrate_of_fresh {s : Store} {sample : Sample} (ascending : Ascending s.samples)
    (fresh : ∀ held ∈ s.samples, held.sequence ≠ sample.sequence) :
    ∃ s', s.rehydrate sample = .ok s' := by
  have right := position_holds ascending sample.sequence
  unfold rehydrate
  cases located : s.position sample.sequence with
  | taken index =>
      rw [located] at right
      obtain ⟨held, found, same⟩ := right
      exact absurd same (fresh held (List.mem_of_getElem? found))
  | free index => exact ⟨_, rfl⟩

theorem Loadable.perm {d : Definition} {i : Instance} {entries order : List Sample}
    (loadable : Loadable d i entries) (same : order.Perm entries) : Loadable d i order := by
  constructor
  · intro e member
    exact loadable.kind e (same.mem_iff.mp member)
  · exact (same.map _).nodup_iff.mpr loadable.distinct
  · intro e member
    exact loadable.fresh e (same.mem_iff.mp member)

namespace Session

variable {s : Session} {r : InstanceRef} {d : Definition} {i : Instance} {sample : Sample}
  {entries : List Sample}

/-- A sample of the right kind and with a number of its own is accepted. -/
theorem step_load (filed : s.telemetry.Filed) (found : s.telemetry.instance? r = some (d, i))
    (ascending : Store.Ascending i.store.samples) (kind : sample.payload.kind = d.kind)
    (fresh : ∀ held ∈ i.store.samples, held.sequence ≠ sample.sequence) :
    (s.step (.rehydrate r sample)).1 = .sample (.ok sample) ∧
      ∃ instances store, (s.step (.rehydrate r sample)).2.telemetry.instance? r =
          some ({ d with instances }, { i with store }) ∧
        Store.Ascending store.samples ∧ store.samples.Perm (sample :: i.store.samples) ∧
        s.telemetry.Puts (s.step (.rehydrate r sample)).2.telemetry r sample store.samples := by
  obtain ⟨store, placed⟩ := Store.rehydrate_of_fresh ascending fresh
  obtain ⟨ascending', same⟩ := Store.rehydrate_eq_ok ascending placed
  have checked : d.checkPayload sample.payload = .ok () := if_pos kind
  have loaded : s.step (.rehydrate r sample) = (.sample (.ok sample), { s with
      telemetry := (s.telemetry.withDefinition (d.withStore i store)).observe sample.sequence }) := by
    simp only [step, Telemetry.rehydrate?, Telemetry.store?, found, Option.map_some,
      Definition.rehydrate, checked, placed, Except.map, reply]
  rw [loaded]
  obtain ⟨defined, within⟩ := Telemetry.instance?_eq_some_iff.mp found
  obtain ⟨own, -, inside⟩ := filed _ _ defined
  refine ⟨rfl, (d.withStore i store).instances, store, ?_, ascending', same,
    Telemetry.puts_withStore filed found store sample⟩
  refine Telemetry.instance?_eq_some_iff.mpr ⟨?_, ?_⟩
  · exact (Telemetry.definition?_withDefinition ..).trans (if_pos own)
  · exact (Catalog.get?_set ..).trans (if_pos (inside _ _ within).1)

/-! ### Many samples -/

/-- Samples that are loaded one after the other are all accepted. -/
theorem run_loadAll (filed : s.telemetry.Filed) (found : s.telemetry.instance? r = some (d, i))
    (ascending : Store.Ascending i.store.samples) (loadable : Loadable d i entries) :
    s.record (loadAll r entries) = entries.map (fun e => ⟨.rehydrate r e, .sample (.ok e)⟩) ∧
      s.Loaded (s.run (loadAll r entries)) r d i entries := by
  induction entries generalizing s d i with
  | nil =>
      refine ⟨rfl, ⟨d.instances, i, found, ascending, ?_⟩, fun _ _ => rfl, rfl⟩
      rw [List.append_nil]
  | cons sample rest ih =>
      obtain ⟨accepted, instances, store, found', ascending', same, puts⟩ := step_load filed found
        ascending (loadable.kind sample List.mem_cons_self)
        (loadable.fresh sample List.mem_cons_self)
      have distinct := loadable.distinct
      rw [List.map_cons, List.nodup_cons] at distinct
      have loadable' : Loadable { d with instances } { i with store } rest := by
        refine ⟨fun e member => loadable.kind e (List.mem_cons_of_mem _ member), distinct.2, ?_⟩
        intro e member held inside
        rcases List.mem_cons.mp (same.mem_iff.mp inside) with rfl | before
        · intro repeated
          exact distinct.1 (repeated ▸ List.mem_map_of_mem member)
        · exact loadable.fresh e (List.mem_cons_of_mem _ member) held before
      obtain ⟨record, ⟨instances', i', found'', ascending'', same'⟩, elsewhere, number⟩ :=
        ih puts.filed found' ascending' loadable'
      refine ⟨?_, ⟨instances', i', found'', ascending'', ?_⟩, ?_, ?_⟩
      · rw [List.map_cons, ← record, ← accepted]
        rfl
      · refine same'.trans ((same.append_right rest).trans ?_)
        exact List.perm_middle.symm
      · intro r' other
        exact (elsewhere r' other).trans (puts.elsewhere r' other)
      · rw [List.map_cons, List.foldl_cons, ← puts.number]
        exact number

/-- Two stores with the same samples hold them in the same order. -/
theorem samples_eq_of_perm {samples samples' : List Sample} (ascending : Store.Ascending samples)
    (ascending' : Store.Ascending samples') (same : samples.Perm samples') : samples = samples' := by
  refine same.eq_of_pairwise ?_ ascending ascending'
  intro a b _ _ before after
  exact absurd before (Nat.lt_asymm after)

theorem loadsInAnyOrder (filed : s.telemetry.Filed) (found : s.telemetry.instance? r = some (d, i))
    (ascending : Store.Ascending i.store.samples) (loadable : Loadable d i entries) :
    s.LoadsInAnyOrder r d i entries := by
  have loaded : ∀ {order : List Sample}, order.Perm entries →
      s.Loaded (s.run (loadAll r order)) r d i entries := by
    intro order same
    obtain ⟨-, ⟨instances, i', found', ascending', held⟩, elsewhere, number⟩ :=
      run_loadAll filed found ascending (loadable.perm same)
    refine ⟨⟨instances, i', found', ascending', held.trans (same.append_left _)⟩, elsewhere, ?_⟩
    rw [number]
    exact (same.map _).foldl_eq _
  refine ⟨fun same => (run_loadAll filed found ascending (loadable.perm same)).1, loaded, ?_⟩
  intro order same r'
  obtain ⟨⟨_, i₁, found₁, ascending₁, held₁⟩, elsewhere₁, -⟩ := loaded same
  obtain ⟨⟨_, i₂, found₂, ascending₂, held₂⟩, elsewhere₂, -⟩ := loaded (.refl entries)
  by_cases here : r' = r
  · rw [here, Telemetry.samples_of_instance? found₁, Telemetry.samples_of_instance? found₂]
    exact samples_eq_of_perm ascending₁ ascending₂ (held₁.trans held₂.symm)
  · rw [elsewhere₁ r' here, elsewhere₂ r' here]

/-! ### Whole runs -/

variable {settings settings₀ : Settings} {lastSequence lastSequence₀ : Nat} {s₀ : Session}
  {r₀ : InstanceRef} {d₀ : Definition} {i₀ : Instance}

/-- All samples of an instance can be loaded into an empty one whose definition is alike. -/
theorem loadable_of_alike (holds : s₀.telemetry.Uniform)
    (found : s₀.telemetry.instance? r₀ = some (d₀, i₀)) (ascending : Store.Ascending i₀.store.samples)
    (alike : d₀.Alike d) (empty : i.store.samples = []) : Loadable d i i₀.store.samples := by
  obtain ⟨defined, within⟩ := Telemetry.instance?_eq_some_iff.mp found
  have kind : d.kind = d₀.kind := congrArg Schema.kind alike.schema
  constructor
  · intro e member
    rw [kind]
    exact (holds _ _ defined).kind within e member
  · exact (List.pairwise_map.mpr ascending).imp Nat.ne_of_lt
  · intro e _ held inside
    rw [empty] at inside
    cases inside

theorem step_query_fst (found : s.telemetry.instance? r = some (d, i)) (agg : AggregationSettings)
    (q : Query) : (s.step (.query r agg q)).1 = .series (compute agg q d i) := by
  simp only [step, Telemetry.query?, found, Option.map_some, reply]

/-- An instance that holds the samples of another one answers queries alike. -/
theorem alike_of_loaded {s' : Session} (sound₀ : s₀.telemetry.Sound) (sound : s.telemetry.Sound)
    (found₀ : s₀.telemetry.instance? r₀ = some (d₀, i₀))
    (ascending₀ : Store.Ascending i₀.store.samples)
    (found : s.telemetry.instance? r = some (d, i)) (alike : d₀.Alike d)
    (empty : i.store.samples = []) (loaded : s.Loaded s' r d i i₀.store.samples)
    (agg : AggregationSettings) (q : Query) {selector : Selector}
    (corresponds : q.selector.Corresponds d₀ d selector) :
    Answer.Alike (s₀.step (.query r₀ agg q)).1 (s'.step (.query r agg { q with selector })).1 := by
  obtain ⟨⟨instances, i', found', ascending', held⟩, -, -⟩ := loaded
  rw [empty, List.nil_append] at held
  have store : i'.store = i₀.store :=
    congrArg Store.mk (samples_eq_of_perm ascending' ascending₀ held)
  obtain ⟨defined₀, -⟩ := Telemetry.instance?_eq_some_iff.mp found₀
  obtain ⟨defined, -⟩ := Telemetry.instance?_eq_some_iff.mp found
  have comparable : Comparable d₀ d := ⟨alike, sound₀.columns defined₀, sound.columns defined⟩
  refine ⟨_, _, step_query_fst found₀ agg q, step_query_fst found' agg _, ?_⟩
  exact compute_alike comparable agg q corresponds store

/-- **Loading samples.** The order makes no difference, and an instance that is rebuilt from the
samples of another one answers queries as that one does. -/
theorem run_rehydrated (created : create settings lastSequence = .ok s) (operations : List Operation)
    (found : (s.run operations).telemetry.instance? r = some (d, i)) :
    (∀ {entries : List Sample}, Loadable d i entries →
      (s.run operations).LoadsInAnyOrder r d i entries) ∧
    ∀ {settings₀ lastSequence₀ s₀ r₀ d₀ i₀} (operations₀ : List Operation),
      create settings₀ lastSequence₀ = .ok s₀ →
      (s₀.run operations₀).telemetry.instance? r₀ = some (d₀, i₀) →
      d₀.Alike d → i.store.samples = [] →
      (s.run operations).LoadsInAnyOrder r d i i₀.store.samples ∧
      ∀ {order : List Sample}, order.Perm i₀.store.samples →
        ∀ (agg : AggregationSettings) (q : Query) {selector : Selector},
          q.selector.Corresponds d₀ d selector →
          Answer.Alike ((s₀.run operations₀).step (.query r₀ agg q)).1
            (((s.run operations).run (loadAll r order)).step (.query r agg { q with selector })).1 := by
  have sound := run_sound (sound_create created) operations
  have loads : ∀ {entries : List Sample}, Loadable d i entries →
      (s.run operations).LoadsInAnyOrder r d i entries :=
    loadsInAnyOrder sound.filed found (run_ascending created operations found)
  refine ⟨loads, fun operations₀ created₀ found₀ alike empty => ?_⟩
  have sound₀ := run_sound (sound_create created₀) operations₀
  have ascending₀ := run_ascending created₀ operations₀ found₀
  obtain ⟨-, uniform₀⟩ :=
    run_uniform (sealed_create created₀) (uniform_create created₀) operations₀
  have again := loads (loadable_of_alike uniform₀ found₀ ascending₀ alike empty)
  refine ⟨again, fun same agg q _ corresponds => ?_⟩
  exact alike_of_loaded sound₀ sound found₀ ascending₀ found alike empty (again.loaded same) agg q
    corresponds

/-- Samples of an event with two columns, not in the order of their numbers. -/
def storedEvents : List Sample :=
  [⟨7, .earliest, .event [some (.int 200), some (.float 3)]⟩,
   ⟨5, .latest, .event [some (.int 404), none]⟩,
   ⟨6, .earliest, .event [none, some (.float 8)]⟩]

/-- An event with the columns of `removedColumn`, which have other serial numbers here. -/
def rebuilt : List Operation :=
  [.define .event ⟨"app", "http", "calls"⟩, .addColumn 0 "Status" .int {},
   .addColumn 0 "Latency" .float {}, .setDefaultColumn 0 "Latency", .openInstance 0 none]

/-- The copy holds the samples by their numbers. It answers alike for its default column, and for its
last column where the original is asked for its own. -/
theorem run_rehydrated_removedColumn :
    let s : Session := ⟨{}, []⟩
    let original := s.run (removedColumn ++ loadAll ⟨0, 0⟩ storedEvents)
    let copy := (s.run rebuilt).run (loadAll ⟨0, 0⟩ storedEvents)
    let ask : Selector → Operation := fun selector =>
      .query ⟨0, 0⟩ {} ⟨.shortest, none, none, selector⟩
    create {} 0 = .ok s ∧
    (∃ d i, (s.run rebuilt).telemetry.instance? ⟨0, 0⟩ = some (d, i) ∧
      Loadable d i storedEvents ∧ (s.run rebuilt).LoadsInAnyOrder ⟨0, 0⟩ d i storedEvents) ∧
    (copy.telemetry.samples ⟨0, 0⟩).map (·.sequence) = [5, 6, 7] ∧
    Answer.Alike (original.step (ask .default)).1 (copy.step (ask .default)).1 ∧
    Answer.Alike (original.step (ask (.column ⟨0, 2, "Latency"⟩))).1
      (copy.step (ask (.column ⟨0, 1, "Latency"⟩))).1 ∧
    (copy.step (ask (.column ⟨0, 1, "Latency"⟩))).1.numbers? = some [0, 8, 3] := by
  intro s original copy ask
  have created : create {} 0 = .ok s := rfl
  have both : ((original.telemetry.instance? ⟨0, 0⟩).bind fun original =>
      ((s.run rebuilt).telemetry.instance? ⟨0, 0⟩).map fun copy =>
        (decide (copy.1.kind = .event ∧ original.1.Alike copy.1 ∧
            copy.1.defaultPlace? = original.1.defaultPlace?),
          original.1.columnAt? 1, copy.1.columnAt? 1)) =
      some (true, some ⟨0, 2, "Latency"⟩, some ⟨0, 1, "Latency"⟩) := by decide +kernel
  obtain ⟨⟨d₀, i₀⟩, found₀, both⟩ := Option.bind_eq_some_iff.mp both
  obtain ⟨⟨d, i⟩, found, both⟩ := Option.map_eq_some_iff.mp both
  simp only [Prod.mk.injEq, decide_eq_true_eq] at both
  obtain ⟨⟨kind, alike, place⟩, last₀, last⟩ := both
  have held : i₀.store.samples = [storedEvents[1], storedEvents[2], storedEvents[0]] := by
    rw [← Telemetry.samples_of_instance? found₀]
    decide +kernel
  have empty : i.store.samples = [] := by
    rw [← Telemetry.samples_of_instance? found]
    decide +kernel
  have loadable : Loadable d i storedEvents := by
    refine ⟨?_, by decide, ?_⟩
    · rw [kind]
      decide
    · rw [empty]
      exact fun _ _ _ inside => nomatch inside
  have same : storedEvents.Perm i₀.store.samples := by
    rw [held]
    exact (List.perm_append_singleton storedEvents[0] [storedEvents[1], storedEvents[2]]).symm
  obtain ⟨loads, rebuilds⟩ := run_rehydrated created rebuilt found
  obtain ⟨-, answers⟩ := rebuilds _ created found₀ alike empty
  refine ⟨created, ⟨d, i, found, loadable, loads loadable⟩, by decide +kernel, ?_, ?_,
    by decide +kernel⟩
  · exact answers same {} ⟨.shortest, none, none, .default⟩ (.default place)
  · exact answers same {} ⟨.shortest, none, none, .column ⟨0, 2, "Latency"⟩⟩ (.column last₀ last)

/-- Two events with the same column, which is the default of the first one only, and two counters
that are sampled in different ways; the second one of each has no samples. -/
def originals : List Operation :=
  [.define .event ⟨"app", "job", "runs"⟩, .addColumn 0 "Size" .float {},
   .setDefaultColumn 0 "Size", .openInstance 0 none,
   .define .event ⟨"app", "job", "copy"⟩, .addColumn 1 "Size" .float {}, .openInstance 1 none,
   .define (.counterSampled .rawCount) ⟨"net", "nic", "bytes"⟩, .openInstance 2 none,
   .define (.counterSampled .totalCount) ⟨"net", "nic", "copy"⟩, .openInstance 3 none,
   .rehydrate ⟨0, 0⟩ ⟨1, .earliest, .event [some (.float 7)]⟩,
   .rehydrate ⟨2, 2⟩ ⟨2, .earliest, .counter ⟨4, none⟩⟩,
   .rehydrate ⟨2, 2⟩ ⟨3, .earliest, .counter ⟨9, none⟩⟩]

/-- The kind and the columns do not say everything that a query reads: a copy may have another default
column, and a counter may be sampled in another way. -/
theorem run_not_rehydrated :
    let s : Session := ⟨{}, []⟩
    let t := s.run originals
    let copied := t.run (loadAll ⟨1, 1⟩ (t.telemetry.samples ⟨0, 0⟩) ++
      loadAll ⟨3, 3⟩ (t.telemetry.samples ⟨2, 2⟩))
    let shape := fun r => (copied.telemetry.instance? r).map fun found =>
      (found.1.kind, found.1.columns?.map (·.toList))
    let ask := fun r selector =>
      (copied.step (.query r {} ⟨.shortest, none, none, selector⟩)).1
    create {} 0 = .ok s ∧
    t.telemetry.samples ⟨1, 1⟩ = [] ∧ t.telemetry.samples ⟨3, 3⟩ = [] ∧
    (shape ⟨1, 1⟩ = shape ⟨0, 0⟩ ∧
      copied.telemetry.samples ⟨1, 1⟩ = copied.telemetry.samples ⟨0, 0⟩ ∧
      ¬ Answer.Alike (ask ⟨0, 0⟩ .default) (ask ⟨1, 1⟩ .default)) ∧
    (shape ⟨3, 3⟩ = shape ⟨2, 2⟩ ∧
      copied.telemetry.samples ⟨3, 3⟩ = copied.telemetry.samples ⟨2, 2⟩ ∧
      ¬ Answer.Alike (ask ⟨2, 2⟩ .occurrences) (ask ⟨3, 3⟩ .occurrences)) := by
  intro s t copied shape ask
  have seven : (ask ⟨0, 0⟩ .default).numbers? = some [7] := by decide +kernel
  have one : (ask ⟨1, 1⟩ .default).numbers? = some [1] := by decide +kernel
  have raw : (ask ⟨2, 2⟩ .occurrences).numbers? = some [4, 9] := by decide +kernel
  have total : (ask ⟨3, 3⟩ .occurrences).numbers? = some [0, 5] := by decide +kernel
  refine ⟨rfl, by decide +kernel, by decide +kernel, ⟨by decide +kernel, by decide +kernel, ?_⟩,
    by decide +kernel, by decide +kernel, ?_⟩
  · intro alike
    have same := alike.numbers?
    rw [seven, one] at same
    exact absurd same (by decide +kernel)
  · intro alike
    have same := alike.numbers?
    rw [raw, total] at same
    exact absurd same (by decide +kernel)

end Session

end Metering
