import Metering.Proofs.Numbering

/-!
When sequence numbers are unique among all instances.

A number that is handed out is new to every store, but the number of a sample that is loaded is
looked up in the store of its own instance only. `loadsApart` checks the record of a run for loads
whose number another instance had stored before, and `run_uniqueNumbers_iff` says that only such
loads can bring two samples with one number about.
-/

namespace Metering

open Metering.Time

/-! ### Unique numbers -/

/-- No two places in the stores hold the same number. -/
def Telemetry.UniqueNumbers (t : Telemetry) : Prop :=
  ∀ {r r' : InstanceRef} {k k' : Nat} {sample sample' : Sample},
    (t.samples r)[k]? = some sample → (t.samples r')[k']? = some sample' →
    sample.sequence = sample'.sequence → r = r' ∧ k = k'

/-- Samples with the same number are held by the same instance. -/
def Telemetry.NumbersApart (t : Telemetry) : Prop :=
  ∀ {r r' : InstanceRef}, ∀ sample ∈ t.samples r, ∀ sample' ∈ t.samples r',
    sample.sequence = sample'.sequence → r = r'

/-- A sample was loaded under a number that another instance had stored before. -/
def Entry.repeats (past : List Entry) (e : Entry) : Bool :=
  match e.operation.isWrite, e.stored? with
  | false, some (r, sample) =>
    (past.filterMap Entry.stored?).any fun stored =>
      stored.1 ≠ r && stored.2.sequence = sample.sequence
  | _, _ => false

/-- No sample was loaded under a number that another instance had stored before. -/
def loadsApart (past : List Entry) : Bool :=
  past.zipIdx.all fun entry => !entry.1.repeats (past.take entry.2)

theorem loadsApart_append (past : List Entry) (e : Entry) :
    loadsApart (past ++ [e]) = (loadsApart past && !e.repeats past) := by
  have before : ∀ entry ∈ past.zipIdx, (past ++ [e]).take entry.2 = past.take entry.2 := by
    intro entry member
    have within : entry.2 < past.length := by simpa using (List.mem_zipIdx member).2.1
    exact List.take_append_of_le_length (Nat.le_of_lt within)
  rw [loadsApart, List.zipIdx_append, List.all_append, loadsApart]
  congr 1
  · rw [Bool.eq_iff_iff, List.all_eq_true, List.all_eq_true]
    exact forall₂_congr fun entry member => by rw [before entry member]
  · simp

/-- In ascending stores two samples of one instance differ in their numbers anyway. -/
theorem Telemetry.uniqueNumbers_iff {t : Telemetry}
    (ascending : ∀ r, Store.Ascending (t.samples r)) : t.UniqueNumbers ↔ t.NumbersApart := by
  constructor
  · intro unique r r' sample member sample' member' same
    obtain ⟨k, at_k⟩ := List.mem_iff_getElem?.mp member
    obtain ⟨k', at_k'⟩ := List.mem_iff_getElem?.mp member'
    exact (unique at_k at_k' same).1
  · intro apart r r' k k' sample sample' at_k at_k' same
    obtain rfl := apart sample (List.mem_of_getElem? at_k) sample' (List.mem_of_getElem? at_k') same
    refine ⟨rfl, ?_⟩
    rcases Nat.lt_trichotomy k k' with before | equal | after
    · have := Store.sequence_lt (s := ⟨t.samples r⟩) (ascending r) at_k at_k' before
      omega
    · exact equal
    · have := Store.sequence_lt (s := ⟨t.samples r⟩) (ascending r) at_k' at_k after
      omega

/-! ### What one operation does to them -/

section Step

variable {start : Nat} {past : List Entry} {e : Entry} {t t' : Telemetry} {r : InstanceRef}
  {sample : Sample} {samples : List Sample}

theorem Telemetry.Puts.mem_iff (puts : t.Puts t' r sample samples)
    (same : samples.Perm (sample :: t.samples r)) {r' : InstanceRef} {held : Sample} :
    held ∈ t'.samples r' ↔ (r' = r ∧ held = sample) ∨ held ∈ t.samples r' := by
  by_cases here : r' = r
  · subst here
    rw [puts.here, same.mem_iff, List.mem_cons]
    simp
  · rw [puts.elsewhere r' here]
    simp [here]

/-- A sample keeps the numbers apart if no other instance holds its number. -/
theorem Telemetry.Puts.numbersApart_iff (puts : t.Puts t' r sample samples)
    (same : samples.Perm (sample :: t.samples r)) :
    t'.NumbersApart ↔
      t.NumbersApart ∧ ∀ r', r' ≠ r → ∀ other ∈ t.samples r', other.sequence ≠ sample.sequence := by
  constructor
  · intro apart
    refine ⟨?_, ?_⟩
    · intro r₁ r₂ first member₁ second member₂
      exact apart first ((puts.mem_iff same).mpr (.inr member₁)) second
        ((puts.mem_iff same).mpr (.inr member₂))
    · intro r' elsewhere other member equal
      exact elsewhere (apart other ((puts.mem_iff same).mpr (.inr member)) sample
        ((puts.mem_iff same).mpr (.inl ⟨rfl, rfl⟩)) equal)
  · rintro ⟨apart, free⟩ r₁ r₂ first member₁ second member₂ equal
    rcases (puts.mem_iff same).mp member₁ with ⟨rfl, rfl⟩ | held₁
    · rcases (puts.mem_iff same).mp member₂ with ⟨rfl, rfl⟩ | held₂
      · rfl
      · by_cases here : r₂ = r₁
        · exact here.symm
        · exact absurd equal.symm (free r₂ here second held₂)
    · rcases (puts.mem_iff same).mp member₂ with ⟨rfl, rfl⟩ | held₂
      · by_cases here : r₁ = r₂
        · exact here
        · exact absurd equal (free r₁ here first held₁)
      · exact apart first held₁ second held₂ equal

theorem Numbered.not_repeats_iff (holds : Numbered start past t)
    (load : e.operation.isWrite = false) (stored : e.stored? = some (r, sample)) :
    (!e.repeats past) = true ↔
      ∀ r', r' ≠ r → ∀ other ∈ t.samples r', other.sequence ≠ sample.sequence := by
  simp only [Entry.repeats, load, stored, Bool.not_eq_true', List.any_eq_false, Bool.and_eq_true,
    decide_eq_true_eq, holds.mem_iff]
  constructor
  · intro none_repeats r' elsewhere other member equal
    exact none_repeats (r', other) member ⟨elsewhere, equal⟩
  · rintro free ⟨r', other⟩ member ⟨elsewhere, equal⟩
    exact free r' elsewhere other member equal

/-- An operation leaves the numbers apart if they were, unless it is a load that repeats one. -/
theorem Numbered.numbersApart_iff (holds : Numbered start past t) (effect : Effect e t t') :
    t'.NumbersApart ↔ t.NumbersApart ∧ (!e.repeats past) = true := by
  cases effect with
  | keeps nothing keeps =>
      have quiet : e.repeats past = false := by
        unfold Entry.repeats
        rw [nothing]
        cases e.operation.isWrite with
        | true => rfl
        | false => rfl
      simp only [Telemetry.NumbersApart, keeps.samples, quiet, Bool.not_false, and_true]
  | @appends r sample write stored fresh puts =>
      have quiet : e.repeats past = false := by
        unfold Entry.repeats
        rw [write]
      rw [puts.numbersApart_iff (List.perm_append_singleton sample _), quiet]
      refine and_congr_right fun _ => iff_of_true ?_ rfl
      intro r' _ other member
      exact Nat.ne_of_lt (Nat.lt_of_le_of_lt (holds.seen r' other member) fresh)
  | @inserts r sample store store' load stored held placed puts =>
      have ascending : Store.Ascending store.samples := held ▸ holds.ascending r
      have same := (Store.rehydrate_eq_ok ascending placed).2
      rw [puts.numbersApart_iff (held ▸ same), holds.not_repeats_iff load stored]

end Step

/-! ### Whole runs -/

namespace Session

variable {s : Session} {settings : Settings} {lastSequence : Nat}

/-- **When numbers are unique.** After a run, no two samples of any instances share a number just if
no sample was loaded under a number that another instance had stored before. -/
theorem run_uniqueNumbers_iff (created : create settings lastSequence = .ok s)
    (operations : List Operation) :
    (s.run operations).telemetry.UniqueNumbers ↔ loadsApart (s.record operations) = true := by
  have begun := numbered_create created
  have empty : s.telemetry.NumbersApart := by
    intro r r' sample member
    rw [begun.mem_iff] at member
    cases member
  have whole := run_induction
    (fun past s => Numbered lastSequence past s.telemetry ∧
      (s.telemetry.NumbersApart ↔ loadsApart past = true))
    (fun {past s} operation ⟨holds, iff⟩ => by
      have effect := step_effect holds.filed operation
      refine ⟨holds.effect effect, ?_⟩
      rw [holds.numbersApart_iff effect, loadsApart_append, Bool.and_eq_true, iff])
    ⟨begun, iff_of_true empty rfl⟩ operations
  rw [Telemetry.uniqueNumbers_iff whole.1.ascending]
  exact whole.2

/-- Two counters, each with a sample that is loaded, and a reading in between. -/
def loads (first second : Nat) : List Operation :=
  [.define (.counterSampled .rawCount) ⟨"queue", "jobs", "waiting"⟩,
   .openInstance 0 (some "a"), .openInstance 0 (some "b"),
   .rehydrate ⟨0, 0⟩ ⟨first, .earliest, .counter ⟨1, none⟩⟩,
   .writeReading ⟨0, 1⟩ ⟨2, none⟩ .latest,
   .rehydrate ⟨0, 1⟩ ⟨second, .earliest, .counter ⟨3, none⟩⟩]

/-- A load below a number that was handed out does no harm as long as it is new. -/
theorem run_uniqueNumbers_iff_loads :
    let s : Session := ⟨{}, []⟩
    create {} 0 = .ok s ∧
    (storedIn ⟨0, 0⟩ (s.record (loads 5 4))).map (·.sequence) = [5] ∧
    (storedIn ⟨0, 1⟩ (s.record (loads 5 4))).map (·.sequence) = [6, 4] ∧
    (s.run (loads 5 4)).telemetry.UniqueNumbers := by
  intro s
  have created : create {} 0 = .ok s := rfl
  have apart : loadsApart (s.record (loads 5 4)) = true := by decide +kernel
  exact ⟨created, by decide +kernel, by decide +kernel,
    (run_uniqueNumbers_iff created (loads 5 4)).mpr apart⟩

/-- The second counter loads the number that the first one holds. -/
theorem run_not_uniqueNumbers :
    let s : Session := ⟨{}, []⟩
    create {} 0 = .ok s ∧ ¬ (s.run (loads 5 5)).telemetry.UniqueNumbers := by
  intro s
  refine ⟨rfl, fun unique => ?_⟩
  have first : ((s.run (loads 5 5)).telemetry.samples ⟨0, 0⟩)[0]? =
      some ⟨5, .earliest, .counter ⟨1, none⟩⟩ := by decide +kernel
  have second : ((s.run (loads 5 5)).telemetry.samples ⟨0, 1⟩)[0]? =
      some ⟨5, .earliest, .counter ⟨3, none⟩⟩ := by decide +kernel
  have same_instance := (unique first second rfl).1
  cases same_instance

end Session

end Metering
