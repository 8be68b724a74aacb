import Metering.Proofs.Frames
import Metering.Proofs.Store

/-!
Sequence numbers over whole runs.

Only the source of numbers, which has seen every number that is stored anywhere, lets a new sample go
to the end of its store. `Effect` says what one operation does to the stores and to that source,
`Numbered` what holds between operations, and `Numbered.effect` that every operation keeps it. Hence
every run does (`run_numbered`).
-/

namespace Metering

open Metering.Time

/-! ### What an operation records -/

namespace Operation

/-- The operation stores a new sample, under a number of its own. -/
def isWrite : Operation → Bool
  | .writePacket .. | .writeSample .. | .writeReading .. => true
  | _ => false

/-- The instance that the operation stores a sample in. -/
def target? : Operation → Option InstanceRef
  | .writePacket r _ _ | .writeSample r _ _ | .writeReading r _ _ | .rehydrate r _ => some r
  | _ => none

end Operation

namespace Entry

/-- The sample that was stored, and the instance that holds it. -/
def stored? (e : Entry) : Option (InstanceRef × Sample) :=
  match e.operation.target?, e.answer with
  | some r, .sample (.ok sample) => some (r, sample)
  | _, _ => none

/-- The numbers that were handed out or reported. -/
def numbers (e : Entry) : List Nat :=
  match e.operation, e.answer with
  | .takeSequence, .sequence n => [n]
  | .observe n, _ => [n]
  | _, _ => e.stored?.toList.map (·.2.sequence)

end Entry

/-- The samples that a run stored in one instance, in the order in which that happened. -/
def storedIn (r : InstanceRef) (past : List Entry) : List Sample :=
  ((past.filterMap Entry.stored?).filter fun stored => stored.1 = r).map (·.2)

theorem Entry.numbers_of_stored {e : Entry} {r : InstanceRef} {sample : Sample}
    (stored : e.stored? = some (r, sample)) : e.numbers = [sample.sequence] := by
  unfold numbers
  split
  · rename_i taken _
    simp [stored?, taken, Operation.target?] at stored
  · rename_i observed
    simp [stored?, observed, Operation.target?] at stored
  · rw [stored]
    rfl

section StoredIn

variable {past : List Entry} {e : Entry} {r r' : InstanceRef} {sample : Sample}

theorem storedIn_of_none (nothing : e.stored? = none) :
    storedIn r (past ++ [e]) = storedIn r past := by
  simp [storedIn, nothing]

theorem storedIn_here (stored : e.stored? = some (r, sample)) :
    storedIn r (past ++ [e]) = storedIn r past ++ [sample] := by
  simp [storedIn, stored]

theorem storedIn_elsewhere (stored : e.stored? = some (r, sample)) (other : r' ≠ r) :
    storedIn r' (past ++ [e]) = storedIn r' past := by
  simp [storedIn, stored, Ne.symm other]

end StoredIn

/-! ### What one operation does -/

/-- What an operation does to the stores and to the source of numbers. -/
inductive Effect (e : Entry) (t t' : Telemetry) : Prop where
  | keeps (nothing : e.stored? = none) (keeps : t.Keeps t')
      (seen : ∀ n ∈ e.numbers, n ≤ t'.lastSequence)
  | appends {r : InstanceRef} {sample : Sample} (write : e.operation.isWrite = true)
      (stored : e.stored? = some (r, sample)) (fresh : t.lastSequence < sample.sequence)
      (puts : t.Puts t' r sample (t.samples r ++ [sample]))
  | inserts {r : InstanceRef} {sample : Sample} {store store' : Store}
      (load : e.operation.isWrite = false) (stored : e.stored? = some (r, sample))
      (held : store.samples = t.samples r) (placed : store.rehydrate sample = .ok store')
      (puts : t.Puts t' r sample store'.samples)

theorem Effect.filed {e : Entry} {t t' : Telemetry} (effect : Effect e t t') : t'.Filed := by
  cases effect with
  | keeps _ keeps _ => exact keeps.filed
  | appends _ _ _ puts => exact puts.filed
  | inserts _ _ _ _ puts => exact puts.filed

/-- Nothing was stored, and no number was handed out. -/
structure Entry.Silent (e : Entry) : Prop where
  stored : e.stored? = none
  numbers : e.numbers = []

theorem Entry.Silent.effect {e : Entry} {t t' : Telemetry} (silent : e.Silent)
    (keeps : t.Keeps t') : Effect e t t' := by
  refine .keeps silent.stored keeps ?_
  intro n number
  rw [silent.numbers] at number
  cases number

namespace Session

variable {s : Session}

/-- An operation that stores nothing. -/
theorem effect_reply {α : Type} {operation : Operation} {answer : Except Error α → Answer}
    {outcome : Option (Telemetry.Outcome α)} (filed : s.telemetry.Filed)
    (silent : ∀ a, Entry.Silent ⟨operation, a⟩)
    (keeps : ∀ {result t'}, outcome = some (result, t') → s.telemetry.Keeps t') :
    Effect ⟨operation, (s.reply answer outcome).1⟩ s.telemetry
      (s.reply answer outcome).2.telemetry := by
  cases outcome with
  | none => exact (silent _).effect (.refl filed)
  | some found => exact (silent _).effect (keeps rfl)

/-- An operation on packets alone. -/
theorem effect_edit {operation : Operation} {packet : Nat}
    {edited : Option (Except Error Packet)} (filed : s.telemetry.Filed)
    (silent : ∀ a, Entry.Silent ⟨operation, a⟩) :
    Effect ⟨operation, (s.edit packet edited).1⟩ s.telemetry (s.edit packet edited).2.telemetry := by
  rcases edited with _ | _ | _
  · exact (silent _).effect (.refl filed)
  · exact (silent _).effect (.refl filed)
  · exact (silent _).effect (.refl filed)

/-- An operation that stores a sample, or is refused. -/
theorem effect_store {operation : Operation} {r : InstanceRef}
    {outcome : Option (Telemetry.Outcome Sample)} (filed : s.telemetry.Filed)
    (target : operation.target? = some r)
    (numbers : ∀ a, Entry.numbers ⟨operation, a⟩ =
      (Entry.stored? ⟨operation, a⟩).toList.map (·.2.sequence))
    (refused : ∀ {e t'}, outcome = some (.error e, t') → s.telemetry.Keeps t')
    (done : ∀ {sample t'}, outcome = some (.ok sample, t') →
      Entry.stored? ⟨operation, .sample (.ok sample)⟩ = some (r, sample) →
      Effect ⟨operation, .sample (.ok sample)⟩ s.telemetry t') :
    Effect ⟨operation, (s.reply .sample outcome).1⟩ s.telemetry
      (s.reply .sample outcome).2.telemetry := by
  have silent : ∀ a, Entry.stored? ⟨operation, a⟩ = none → Entry.Silent ⟨operation, a⟩ := by
    intro a nothing
    refine ⟨nothing, ?_⟩
    rw [numbers, nothing]
    rfl
  rcases outcome with _ | ⟨e | sample, t'⟩
  · exact (silent .nowhere (by simp [Entry.stored?])).effect (.refl filed)
  · exact (silent (.sample (.error e)) (by simp [Entry.stored?])).effect (refused rfl)
  · exact done rfl (by simp [Entry.stored?, target])

/-- An operation that stores a new sample, or is refused. -/
theorem effect_write {operation : Operation} {r : InstanceRef}
    {outcome : Option (Telemetry.Outcome Sample)} (filed : s.telemetry.Filed)
    (write : operation.isWrite = true) (target : operation.target? = some r)
    (numbers : ∀ a, Entry.numbers ⟨operation, a⟩ =
      (Entry.stored? ⟨operation, a⟩).toList.map (·.2.sequence))
    (refused : ∀ {e t'}, outcome = some (.error e, t') → s.telemetry.Keeps t')
    (done : ∀ {sample t'}, outcome = some (.ok sample, t') →
      s.telemetry.lastSequence < sample.sequence ∧
        s.telemetry.Puts t' r sample (s.telemetry.samples r ++ [sample])) :
    Effect ⟨operation, (s.reply .sample outcome).1⟩ s.telemetry
      (s.reply .sample outcome).2.telemetry := by
  refine effect_store filed target numbers refused fun written stored => ?_
  obtain ⟨fresh, puts⟩ := done written
  exact .appends write stored fresh puts

theorem step_effect (filed : s.telemetry.Filed) (operation : Operation) :
    Effect ⟨operation, (s.step operation).1⟩ s.telemetry (s.step operation).2.telemetry := by
  cases operation with
  | define schema key =>
      refine effect_reply filed (fun _ => ⟨rfl, rfl⟩) fun done => ?_
      obtain rfl := congrArg Prod.snd (Option.some.inj done)
      exact Telemetry.define_keeps filed schema key
  | addColumn id name type options =>
      exact effect_reply filed (fun _ => ⟨rfl, rfl⟩) (Telemetry.onColumn?_keeps filed)
  | rehydrateColumn id name type options =>
      exact effect_reply filed (fun _ => ⟨rfl, rfl⟩) (Telemetry.onColumn?_keeps filed)
  | removeColumn id name =>
      exact effect_reply filed (fun _ => ⟨rfl, rfl⟩) (Telemetry.onColumn?_keeps filed)
  | setDefaultColumn id name =>
      exact effect_reply filed (fun _ => ⟨rfl, rfl⟩) (Telemetry.setDefaultColumn?_keeps filed)
  | lockColumns id =>
      exact effect_reply filed (fun _ => ⟨rfl, rfl⟩) (Telemetry.lockColumns?_keeps filed)
  | lock id => exact effect_reply filed (fun _ => ⟨rfl, rfl⟩) (Telemetry.lock?_keeps filed)
  | openInstance id name =>
      exact effect_reply filed (fun _ => ⟨rfl, rfl⟩) (Telemetry.openInstance?_keeps filed)
  | createPacket r =>
      have silent : ∀ a, Entry.Silent ⟨.createPacket r, a⟩ := fun _ => ⟨rfl, rfl⟩
      simp only [step]
      cases created : s.telemetry.createPacket? r with
      | none => exact (silent _).effect (.refl filed)
      | some outcome =>
          have keeps := Telemetry.createPacket?_keeps filed created
          obtain ⟨_ | _, _⟩ := outcome
          · exact (silent _).effect keeps
          · exact (silent _).effect keeps
  | setSlot packet index value => exact effect_edit filed fun _ => ⟨rfl, rfl⟩
  | setNamed packet name value => exact effect_edit filed fun _ => ⟨rfl, rfl⟩
  | fill packet values => exact effect_edit filed fun _ => ⟨rfl, rfl⟩
  | writePacket r packet timestamp =>
      simp only [step]
      split
      · exact Entry.Silent.effect ⟨rfl, rfl⟩ (.refl filed)
      · rename_i outcome written
        obtain ⟨p, -, written⟩ := Option.bind_eq_some_iff.mp written
        refine effect_write (s := s.discard packet) filed rfl rfl (fun _ => rfl) ?_ ?_
        · rintro e t' refused
          obtain rfl := Telemetry.store?_error (written.trans refused)
          exact .refl filed
        · rintro sample t' done
          obtain ⟨next, puts⟩ := Telemetry.writePacket?_ok filed (written.trans done)
          exact ⟨next ▸ Nat.lt_succ_self _, puts⟩
  | writeSample r values timestamp =>
      exact effect_write filed rfl rfl (fun _ => rfl) (Telemetry.writeSample?_error filed)
        (Telemetry.writeSample?_ok filed)
  | writeReading r reading timestamp =>
      refine effect_write filed rfl rfl (fun _ => rfl) ?_ ?_
      · rintro e t' refused
        obtain rfl := Telemetry.store?_error refused
        exact .refl filed
      · rintro sample t' done
        obtain ⟨next, puts⟩ := Telemetry.writeReading?_ok filed done
        exact ⟨next ▸ Nat.lt_succ_self _, puts⟩
  | rehydrate r sample =>
      refine effect_store filed rfl (fun _ => rfl) ?_ ?_
      · rintro e t' refused
        obtain rfl := Telemetry.store?_error refused
        exact .refl filed
      · rintro sample t' done stored
        obtain ⟨rfl, store, store', held, placed, puts⟩ := Telemetry.rehydrate?_ok filed done
        exact .inserts rfl stored held placed puts
  | query r settings q =>
      exact effect_reply filed (fun _ => ⟨rfl, rfl⟩) (Telemetry.query?_keeps filed)
  | takeSequence =>
      refine .keeps rfl ⟨filed, fun _ => rfl, Nat.le_succ _⟩ ?_
      intro n number
      obtain rfl := List.mem_singleton.mp number
      exact Nat.le_refl _
  | observe sequence =>
      refine .keeps rfl ⟨filed, fun _ => rfl, Nat.le_max_left _ _⟩ ?_
      intro n number
      obtain rfl := List.mem_singleton.mp number
      exact Nat.le_max_right _ _

/-- A write that is not refused. -/
theorem step_write {operation : Operation} {r : InstanceRef} {sample : Sample}
    (filed : s.telemetry.Filed) (write : operation.isWrite = true)
    (stored : Entry.stored? ⟨operation, (s.step operation).1⟩ = some (r, sample)) :
    s.telemetry.lastSequence < sample.sequence ∧
      s.telemetry.Puts (s.step operation).2.telemetry r sample
        (s.telemetry.samples r ++ [sample]) := by
  cases step_effect filed operation with
  | keeps nothing => simp [stored] at nothing
  | appends _ stored' fresh puts =>
      obtain ⟨rfl, rfl⟩ := Prod.mk.inj (Option.some.inj (stored.symm.trans stored'))
      exact ⟨fresh, puts⟩
  | inserts load => simp [write] at load

end Session

/-! ### What holds between operations -/

/-- What holds of telemetry after the operations in `past`, when numbers went on after `start`. -/
structure Numbered (start : Nat) (past : List Entry) (t : Telemetry) : Prop where
  filed : t.Filed
  begun : start ≤ t.lastSequence
  ascending : ∀ r, Store.Ascending (t.samples r)
  seen : ∀ r, ∀ sample ∈ t.samples r, sample.sequence ≤ t.lastSequence
  numbers : ∀ e ∈ past, ∀ n ∈ e.numbers, n ≤ t.lastSequence
  stored : ∀ r, (t.samples r).Perm (storedIn r past)

namespace Numbered

variable {start : Nat} {past : List Entry} {e : Entry} {t t' : Telemetry} {r : InstanceRef}
  {sample : Sample} {samples : List Sample}

theorem keeps (holds : Numbered start past t) (nothing : e.stored? = none) (keeps : t.Keeps t')
    (seen : ∀ n ∈ e.numbers, n ≤ t'.lastSequence) : Numbered start (past ++ [e]) t' := by
  refine ⟨keeps.filed, Nat.le_trans holds.begun keeps.number, ?_, ?_, ?_, ?_⟩
  · intro r
    rw [keeps.samples]
    exact holds.ascending r
  · intro r sample member
    rw [keeps.samples] at member
    exact Nat.le_trans (holds.seen r sample member) keeps.number
  · intro e' member n number
    rcases List.mem_append.mp member with before | now
    · exact Nat.le_trans (holds.numbers e' before n number) keeps.number
    · obtain rfl := List.mem_singleton.mp now
      exact seen n number
  · intro r
    rw [keeps.samples, storedIn_of_none nothing]
    exact holds.stored r

theorem puts (holds : Numbered start past t) (stored : e.stored? = some (r, sample))
    (puts : t.Puts t' r sample samples) (ascending : Store.Ascending samples)
    (same : samples.Perm (sample :: t.samples r)) : Numbered start (past ++ [e]) t' := by
  have later : t.lastSequence ≤ t'.lastSequence := puts.number ▸ Nat.le_max_left _ _
  have counted : sample.sequence ≤ t'.lastSequence := puts.number ▸ Nat.le_max_right _ _
  -- Each point holds of the instance that was written to, and as before of all others.
  refine ⟨puts.filed, Nat.le_trans holds.begun later, ?_, ?_, ?_, ?_⟩
  · intro r'
    by_cases here : r' = r
    · rw [here, puts.here]
      exact ascending
    · rw [puts.elsewhere r' here]
      exact holds.ascending r'
  · intro r' held member
    by_cases here : r' = r
    · rw [here, puts.here] at member
      rcases List.mem_cons.mp (same.mem_iff.mp member) with rfl | before
      · exact counted
      · exact Nat.le_trans (holds.seen r held before) later
    · rw [puts.elsewhere r' here] at member
      exact Nat.le_trans (holds.seen r' held member) later
  · intro e' member n number
    rcases List.mem_append.mp member with before | now
    · exact Nat.le_trans (holds.numbers e' before n number) later
    · obtain rfl := List.mem_singleton.mp now
      rw [Entry.numbers_of_stored stored] at number
      obtain rfl := List.mem_singleton.mp number
      exact counted
  · intro r'
    by_cases here : r' = r
    · rw [here, puts.here, storedIn_here stored]
      have added := (holds.stored r).cons sample
      exact (same.trans added).trans (List.perm_append_singleton sample _).symm
    · rw [puts.elsewhere r' here, storedIn_elsewhere stored here]
      exact holds.stored r'

theorem effect (holds : Numbered start past t) (effect : Effect e t t') :
    Numbered start (past ++ [e]) t' := by
  cases effect with
  | keeps nothing keeps seen => exact holds.keeps nothing keeps seen
  | @appends r sample _ stored fresh puts =>
      refine holds.puts stored puts ?_ (List.perm_append_singleton sample _)
      refine Store.ascending_append (s := ⟨t.samples r⟩) (holds.ascending r) ?_
      intro other member
      exact Nat.lt_of_le_of_lt (holds.seen r other member) fresh
  | @inserts r sample store store' _ stored held placed puts =>
      have before : Store.Ascending store.samples := held ▸ holds.ascending r
      obtain ⟨ascending, same⟩ := Store.rehydrate_eq_ok before placed
      exact holds.puts stored puts ascending (held ▸ same)

/-- The samples an instance holds are those that were stored in it. -/
theorem mem_iff (holds : Numbered start past t) {held : Sample} :
    held ∈ t.samples r ↔ (r, held) ∈ past.filterMap Entry.stored? := by
  rw [(holds.stored r).mem_iff, storedIn, List.mem_map]
  constructor
  · rintro ⟨⟨r', other⟩, member, rfl⟩
    obtain ⟨stored, here⟩ := List.mem_filter.mp member
    obtain rfl : r' = r := of_decide_eq_true here
    exact stored
  · intro stored
    exact ⟨(r, held), List.mem_filter.mpr ⟨stored, decide_eq_true rfl⟩, rfl⟩

end Numbered

namespace Session

variable {s : Session} {settings : Settings} {lastSequence : Nat}

/-- A new session has the settings it was made with, and holds nothing. -/
theorem create_eq_ok (created : create settings lastSequence = .ok s) :
    s = ⟨{ settings, lastSequence }, []⟩ := by
  unfold create Telemetry.create Settings.validate at created
  split at created
  · cases created
  · split at created
    · exact (Except.ok.inj created).symm
    · cases created

theorem definition?_create (created : create settings lastSequence = .ok s) (id : DefinitionId) :
    s.telemetry.definition? id = none := by
  obtain rfl := create_eq_ok created
  exact Catalog.get?_empty id

theorem numbered_create (created : create settings lastSequence = .ok s) :
    Numbered lastSequence [] s.telemetry := by
  have empty : ∀ r, s.telemetry.samples r = [] := fun r => by
    rw [Telemetry.samples, definition?_create created]
    rfl
  have number : s.telemetry.lastSequence = lastSequence := by
    obtain rfl := create_eq_ok created
    rfl
  refine ⟨?_, Nat.le_of_eq number.symm, ?_, ?_, ?_, ?_⟩
  · intro id d found
    rw [definition?_create created] at found
    cases found
  · intro r
    rw [empty]
    exact .nil
  · intro r sample member
    rw [empty] at member
    cases member
  · intro e member
    cases member
  · intro r
    rw [empty]
    exact .nil

/-- Telemetry is numbered after every run. -/
theorem run_numbered (created : create settings lastSequence = .ok s)
    (operations : List Operation) :
    Numbered lastSequence (s.record operations) (s.run operations).telemetry :=
  run_induction (fun past s => Numbered lastSequence past s.telemetry)
    (fun operation holds => holds.effect (step_effect holds.filed operation))
    (numbered_create created) operations

/-- A store is in the order of the numbers after every run. -/
theorem run_ascending {r : InstanceRef} {d : Definition} {i : Instance}
    (created : create settings lastSequence = .ok s) (operations : List Operation)
    (found : (s.run operations).telemetry.instance? r = some (d, i)) :
    Store.Ascending i.store.samples := by
  have ascending := (run_numbered created operations).ascending r
  rw [Telemetry.samples_of_instance? found] at ascending
  exact ascending

/-- Stores stay sorted over every run, the source of numbers has seen all their numbers, and every
new sample gets a number larger than all before. -/
theorem run_numbering (created : create settings lastSequence = .ok s)
    (operations : List Operation) :
    (∀ r d i, (s.run operations).telemetry.instance? r = some (d, i) →
      Store.Ascending i.store.samples ∧
      (∀ sample ∈ i.store.samples,
        sample.sequence ≤ (s.run operations).telemetry.lastSequence) ∧
      i.store.samples.Perm (storedIn r (s.record operations)) ∧
      i.store.size = (storedIn r (s.record operations)).length ∧
      ∀ sample k, i.store.indexOf? sample = some k ↔
        ∃ other, i.store.samples[k]? = some other ∧ other.sequence = sample.sequence) ∧
    ∀ operation r sample, operation.isWrite →
      Entry.stored? ⟨operation, ((s.run operations).step operation).1⟩ = some (r, sample) →
      (∀ r d i, (s.run operations).telemetry.instance? r = some (d, i) →
        ∀ other ∈ i.store.samples, other.sequence < sample.sequence) ∧
      (∀ e ∈ s.record operations, ∀ n ∈ e.numbers, n < sample.sequence) ∧
      lastSequence < sample.sequence ∧
      ∃ d i, ((s.run operations).step operation).2.telemetry.instance? r = some (d, i) ∧
        i.store.samples.getLast? = some sample := by
  have holds := run_numbered created operations
  constructor
  · intro r d i found
    rw [← Telemetry.samples_of_instance? found]
    have ascending : Store.Ascending i.store.samples := by
      rw [← Telemetry.samples_of_instance? found]
      exact holds.ascending r
    refine ⟨holds.ascending r, holds.seen r, holds.stored r, ?_, ?_⟩
    · rw [Store.size, ← Telemetry.samples_of_instance? found]
      exact (holds.stored r).length_eq
    · intro sample k
      rw [Telemetry.samples_of_instance? found]
      exact Store.indexOf?_eq_some_iff ascending
  · intro operation r sample write stored
    obtain ⟨fresh, puts⟩ := step_write holds.filed write stored
    refine ⟨?_, ?_, Nat.lt_of_le_of_lt holds.begun fresh, ?_⟩
    · intro r d i found other member
      rw [← Telemetry.samples_of_instance? found] at member
      exact Nat.lt_of_le_of_lt (holds.seen r other member) fresh
    · intro e member n number
      exact Nat.lt_of_le_of_lt (holds.numbers e member n number) fresh
    · have last : sample ∈ ((s.run operations).step operation).2.telemetry.samples r := by
        rw [puts.here]
        exact List.mem_append_right _ (List.mem_singleton_self sample)
      obtain ⟨d, i, found⟩ := Telemetry.exists_instance_of_mem last
      refine ⟨d, i, found, ?_⟩
      rw [← Telemetry.samples_of_instance? found, puts.here]
      exact List.getLast?_concat

/-- A counter whose fifth sample is loaded before a reading is written, and the third after it. -/
def lateLoad : List Operation :=
  [.define (.counterSampled .totalCount) ⟨"queue", "jobs", "done"⟩, .openInstance 0 none,
   .rehydrate ⟨0, 0⟩ ⟨5, .earliest, .counter ⟨1, none⟩⟩,
   .writeReading ⟨0, 0⟩ ⟨2, none⟩ .latest,
   .rehydrate ⟨0, 0⟩ ⟨3, .earliest, .counter ⟨0, none⟩⟩]

theorem run_numbering_lateLoad :
    let s : Session := ⟨{}, []⟩
    let write : Operation := .writeReading ⟨0, 0⟩ ⟨4, none⟩ .earliest
    let sample : Sample := ⟨7, .earliest, .counter ⟨4, none⟩⟩
    create {} 0 = .ok s ∧
    (storedIn ⟨0, 0⟩ (s.record lateLoad)).map (·.sequence) = [5, 6, 3] ∧
    Entry.stored? ⟨write, ((s.run lateLoad).step write).1⟩ = some (⟨0, 0⟩, sample) ∧
    (∃ d i, (s.run lateLoad).telemetry.instance? ⟨0, 0⟩ = some (d, i) ∧
      Store.Ascending i.store.samples ∧ i.store.size = 3) ∧
    ∃ d i, ((s.run lateLoad).step write).2.telemetry.instance? ⟨0, 0⟩ = some (d, i) ∧
      i.store.samples.getLast? = some sample := by
  intro s write sample
  have created : create {} 0 = .ok s := rfl
  have numbers : (storedIn ⟨0, 0⟩ (s.record lateLoad)).map (·.sequence) = [5, 6, 3] := by
    decide +kernel
  have stored : Entry.stored? ⟨write, ((s.run lateLoad).step write).1⟩ = some (⟨0, 0⟩, sample) := by
    decide +kernel
  have opened : ((s.run lateLoad).telemetry.instance? ⟨0, 0⟩).isSome := by decide +kernel
  obtain ⟨⟨d, i⟩, found⟩ := Option.isSome_iff_exists.mp opened
  obtain ⟨stores, writes⟩ := run_numbering created lateLoad
  obtain ⟨ascending, -, -, size, -⟩ := stores ⟨0, 0⟩ d i found
  obtain ⟨-, -, -, last⟩ := writes write ⟨0, 0⟩ sample rfl stored
  have three := congrArg List.length numbers
  rw [List.length_map, ← size] at three
  exact ⟨created, numbers, stored, ⟨d, i, found, ascending, three⟩, last⟩

end Session

end Metering
