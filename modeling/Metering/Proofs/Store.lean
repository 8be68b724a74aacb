import Metering.Sample

/-!
The store as a sorted list of samples.

The search halves the places between two bounds. What carries it is that every sample before the
lower bound has a smaller number, and every sample from the upper bound on a larger one
(`search_holds`); on sorted samples the place it ends at is right. So a sample that is put in its
place keeps the samples sorted, and the place of a sample is found exactly when its number is there.
-/

namespace Metering.Store

/-- The samples stand by ascending sequence number, and no two have the same one. -/
def Ascending (samples : List Sample) : Prop :=
  samples.Pairwise fun earlier later => earlier.sequence < later.sequence

/-- What a position says about the samples. -/
def Position.Holds (samples : List Sample) (sequence : Nat) : Position → Prop
  | .taken index => ∃ sample, samples[index]? = some sample ∧ sample.sequence = sequence
  | .free index => index ≤ samples.length ∧
    (∀ sample ∈ samples.take index, sample.sequence < sequence) ∧
    ∀ sample ∈ samples.drop index, sequence < sample.sequence

section Search

variable {samples : List Sample} {sequence : Nat}

/-- A sample stands after all with smaller numbers and before all with larger ones. -/
theorem ascending_around (ascending : Ascending samples) {i : Nat} {middle : Sample}
    (found : samples[i]? = some middle) :
    (∀ sample ∈ samples.take i, sample.sequence < middle.sequence) ∧
      samples.drop i = middle :: samples.drop (i + 1) ∧
      ∀ sample ∈ samples.drop (i + 1), middle.sequence < sample.sequence := by
  obtain ⟨bound, rfl⟩ := List.getElem?_eq_some_iff.mp found
  have split := List.drop_eq_getElem_cons bound
  unfold Ascending at ascending
  rw [← List.take_append_drop i samples, List.pairwise_append, split, List.pairwise_cons] at ascending
  obtain ⟨-, ⟨after, -⟩, across⟩ := ascending
  exact ⟨fun sample member => across sample member _ List.mem_cons_self, split, after⟩

theorem lt_of_mem_take (ascending : Ascending samples) {i : Nat} {middle : Sample}
    (found : samples[i]? = some middle) (less : middle.sequence < sequence) :
    ∀ sample ∈ samples.take (i + 1), sample.sequence < sequence := by
  obtain ⟨before, -, -⟩ := ascending_around ascending found
  rw [List.take_add_one, found]
  intro sample member
  rcases List.mem_append.mp member with member | member
  · exact Nat.lt_trans (before sample member) less
  · obtain rfl : sample = middle := by simpa using member
    exact less

theorem lt_of_mem_drop (ascending : Ascending samples) {i : Nat} {middle : Sample}
    (found : samples[i]? = some middle) (greater : sequence < middle.sequence) :
    ∀ sample ∈ samples.drop i, sequence < sample.sequence := by
  obtain ⟨-, split, after⟩ := ascending_around ascending found
  rw [split]
  intro sample member
  rcases List.mem_cons.mp member with rfl | member
  · exact greater
  · exact Nat.lt_trans greater (after sample member)

/-- The place the search ends at is right. -/
theorem search_holds (ascending : Ascending samples) {lo hi : Nat} (ordered : lo ≤ hi)
    (bounded : hi ≤ samples.length)
    (below : ∀ sample ∈ samples.take lo, sample.sequence < sequence)
    (above : ∀ sample ∈ samples.drop hi, sequence < sample.sequence) :
    (search samples sequence lo hi).Holds samples sequence := by
  fun_induction search samples sequence lo hi with
  | case1 lo hi open_ missing =>
      rw [List.getElem?_eq_none_iff] at missing
      omega
  | case2 lo hi open_ middle found same => exact ⟨middle, found, same⟩
  | case3 lo hi open_ middle found _ less ih =>
      exact ih (by omega) bounded (lt_of_mem_take ascending found less) above
  | case4 lo hi open_ middle found different less ih =>
      have greater : sequence < middle.sequence := by omega
      exact ih (by omega) (by omega) below (lt_of_mem_drop ascending found greater)
  | case5 lo hi closed =>
      obtain rfl : lo = hi := by omega
      exact ⟨bounded, below, above⟩

theorem position_holds {s : Store} (ascending : Ascending s.samples) (sequence : Nat) :
    (s.position sequence).Holds s.samples sequence := by
  refine search_holds ascending (Nat.zero_le _) (Nat.le_refl _) ?_ ?_
  · simp
  · simp [size]

end Search

section Operations

variable {s s' : Store} {sample : Sample}

/-- A sample further on has a larger number. -/
theorem sequence_lt (ascending : Ascending s.samples) {i j : Nat} {a b : Sample}
    (at_i : s.samples[i]? = some a) (at_j : s.samples[j]? = some b) (before : i < j) :
    a.sequence < b.sequence := by
  obtain ⟨bound_i, rfl⟩ := List.getElem?_eq_some_iff.mp at_i
  obtain ⟨bound_j, rfl⟩ := List.getElem?_eq_some_iff.mp at_j
  exact List.pairwise_iff_getElem.mp ascending i j bound_i bound_j before

/-- The place of a sample is where its number stands. -/
theorem indexOf?_eq_some_iff (ascending : Ascending s.samples) {i : Nat} :
    s.indexOf? sample = some i ↔
      ∃ other, s.samples[i]? = some other ∧ other.sequence = sample.sequence := by
  have right := position_holds ascending sample.sequence
  unfold indexOf?
  cases located : s.position sample.sequence with
  | taken index =>
      rw [located] at right
      obtain ⟨found, at_index, same⟩ := right
      constructor
      · intro answer
        obtain rfl : index = i := Option.some.inj answer
        exact ⟨found, at_index, same⟩
      · rintro ⟨other, at_i, same'⟩
        rcases Nat.lt_trichotomy index i with before | rfl | after
        · have := sequence_lt ascending at_index at_i before
          omega
        · rfl
        · have := sequence_lt ascending at_i at_index after
          omega
  | free index =>
      rw [located] at right
      obtain ⟨-, below, above⟩ := right
      constructor
      · intro answer
        cases answer
      · rintro ⟨other, at_i, same⟩
        have member := List.mem_of_getElem? at_i
        rw [← List.take_append_drop index s.samples] at member
        rcases List.mem_append.mp member with member | member
        · have := below other member
          omega
        · have := above other member
          omega

theorem insertIdx_eq {samples : List Sample} {index : Nat} (within : index ≤ samples.length)
    (sample : Sample) :
    samples.insertIdx index sample = samples.take index ++ sample :: samples.drop index := by
  induction index generalizing samples with
  | zero => rfl
  | succ index ih =>
      cases samples with
      | nil => cases within
      | cons first rest =>
          rw [List.insertIdx_succ_cons, ih (Nat.le_of_succ_le_succ within)]
          rfl

/-- A sample that is put in its place is the only one with its number, and the samples stay
sorted. -/
theorem rehydrate_eq_ok (ascending : Ascending s.samples)
    (rehydrated : s.rehydrate sample = .ok s') :
    Ascending s'.samples ∧ s'.samples.Perm (sample :: s.samples) := by
  have right := position_holds ascending sample.sequence
  unfold rehydrate at rehydrated
  cases located : s.position sample.sequence with
  | taken index => simp [located] at rehydrated
  | free index =>
      rw [located] at right rehydrated
      obtain ⟨within, below, above⟩ := right
      obtain rfl : (⟨s.samples.insertIdx index sample⟩ : Store) = s' := Except.ok.inj rehydrated
      refine ⟨?_, List.perm_insertIdx sample s.samples within⟩
      unfold Ascending at ascending ⊢
      rw [← List.take_append_drop index s.samples, List.pairwise_append] at ascending
      obtain ⟨first, second, across⟩ := ascending
      rw [insertIdx_eq within, List.pairwise_append, List.pairwise_cons]
      refine ⟨first, ⟨above, second⟩, ?_⟩
      intro earlier before later member
      rcases List.mem_cons.mp member with rfl | member
      · exact below earlier before
      · exact across earlier before later member

/-- A sample with a larger number than all others can stand at the end. -/
theorem ascending_append (ascending : Ascending s.samples)
    (larger : ∀ other ∈ s.samples, other.sequence < sample.sequence) :
    Ascending (s.append sample).samples := by
  refine List.pairwise_append.mpr ⟨ascending, List.pairwise_singleton _ _, ?_⟩
  intro earlier before later member
  obtain rfl := List.mem_singleton.mp member
  exact larger earlier before

end Operations

end Metering.Store
