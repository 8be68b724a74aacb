import Metering.Proofs.Decimal.Rounding
import Metering.Proofs.Series.ValueHistory

/-!
The percentile of the values of a series.

Its rank among so many values is a product rounded up, and is one of their places as long as
their number has at most 53 bits (`rank_bounds`). The value at that place of the sorted values is
the one with fewer values below it than the rank, and as many as the rank at or below it
(`orderStatistic?_eq_some_iff`), so the order of the values does not matter
(`orderStatistic?_perm`). An answer that was left behind is always the one for the values that are
there (`reported_run`). Floats are in the order of their places, in which the bits of undefined results
count (`linear_floatBits`). Together this gives `run_percentile`.
-/

namespace Metering.Series

open Decimal ValueSet
open Float.Model (UnpackedFloat)

/-! ### Ranks -/

section

variable {p : Float}

/-- The product with a number of values is finite, and is at most that number as it is rounded. -/
theorem mul_count_bounds (positive : 0 < p) (most : p ≤ 1) (n : Nat) :
    (p * n.toUInt64.toFloat).isFinite = true ∧
      (0 < n.toUInt64.toNat → 0 < exactValue (p * n.toUInt64.toFloat) ∧
        exactValue (p * n.toUInt64.toFloat) ≤ exactValue n.toUInt64.toFloat) := by
  obtain ⟨-, finite, above, below⟩ := exactValue_of_proportion positive most
  rcases Nat.eq_zero_or_pos n.toUInt64.toNat with none | some
  · obtain ⟨m, e, pos, unpacked, -⟩ := exists_proper_of_pos finite above
    have no_count : n.toUInt64 = 0 := UInt64.toNat_inj.mp none
    have zero : (0 : UInt64).toFloat.toModel.unpack = .zero .positive := rfl
    refine ⟨?_, fun some => absurd none (Nat.ne_of_gt some)⟩
    change UnpackedFloat.isFinite (UnpackedFloat.unpack .binary64 (UnpackedFloat.pack .binary64
      (UnpackedFloat.mul .binary64 p.toModel.unpack n.toUInt64.toFloat.toModel.unpack))) = true
    have product : UnpackedFloat.mul .binary64 (.finite .positive m e pos) (.zero .positive) =
        .zero .positive := rfl
    rw [no_count, unpacked, zero, product]
    rfl
  · obtain ⟨finite', one, -⟩ := toFloat_bounds some
    obtain ⟨finite'', bounds⟩ := mul_bounds finite finite' above below one
    exact ⟨finite'', fun _ => bounds⟩

/-- The rank is the product rounded up, in the range of 64-bit words. -/
theorem rank_eq (positive : 0 < p) (most : p ≤ 1) (n : Nat) :
    rank p n = min ⌈exactValue (p * n.toUInt64.toFloat)⌉₊ (UInt64.size - 1) :=
  ceiling_eq (mul_count_bounds positive most n).1

example : rank 0.95 20 = 19 := by decide +kernel

/-- **The rank is one of the places**, as long as the values are counted exactly. -/
theorem rank_bounds (positive : 0 < p) (most : p ≤ 1) {n : Nat} (some : 0 < n) (few : n ≤ 2 ^ 53) :
    1 ≤ rank p n ∧ rank p n ≤ n := by
  have counted : n.toUInt64.toNat = n := by
    rw [Nat.toUInt64, UInt64.toNat_ofNat_of_lt' (Nat.lt_of_le_of_lt few (by decide))]
  obtain ⟨-, bounds⟩ := mul_count_bounds positive most n
  have exactly := (toFloat_bounds (counted.symm ▸ some)).2.2 (counted.symm ▸ few)
  rw [exactly, counted] at bounds
  obtain ⟨above, below⟩ := bounds some
  rw [rank_eq positive most]
  exact ⟨le_min (Nat.ceil_pos.mpr above) (by decide),
    (min_le_left _ _).trans (Nat.ceil_le.mpr below)⟩

end

/-! ### Order statistics -/

section

variable {ν : Type} [Arithmetic ν]

variable (ν) in
/-- The order of all numbers, undefined results included, is linear. -/
structure Linear : Prop where
  total : ∀ a b : ν, (Arithmetic.totalLe a b || Arithmetic.totalLe b a) = true
  trans : ∀ a b c : ν, Arithmetic.totalLe a b = true → Arithmetic.totalLe b c = true →
    Arithmetic.totalLe a c = true
  antisymm : ∀ a b : ν, Arithmetic.totalLe a b = true → Arithmetic.totalLe b a = true → a = b

theorem FloatBits.totalLe_iff {a b : FloatBits} : a.totalLe b = true ↔ a.place ≤ b.place :=
  decide_eq_true_iff

theorem FloatBits.not_totalLe (a b : FloatBits) : (!a.totalLe b) = decide (b.place < a.place) := by
  rw [totalLe, ← decide_not, decide_eq_decide, Int.not_le]

/-- Floats with different bits have different places. -/
theorem FloatBits.place_injective : Function.Injective FloatBits.place := by
  rintro ⟨bits⟩ ⟨bits'⟩ same
  have bound : bits.toNat < 2 ^ 64 := bits.toNat_lt
  have bound' : bits'.toNat < 2 ^ 64 := bits'.toNat_lt
  refine congrArg FloatBits.mk (UInt64.toNat_inj.mp ?_)
  simp only [place] at same
  split at same <;> split at same <;> omega

theorem linear_floatBits : Linear FloatBits where
  total a b := by
    rw [Bool.or_eq_true]
    change a.totalLe b = true ∨ b.totalLe a = true
    rw [FloatBits.totalLe_iff, FloatBits.totalLe_iff]
    exact Int.le_total _ _
  trans a b c below below' := FloatBits.totalLe_iff.mpr
    (Int.le_trans (FloatBits.totalLe_iff.mp below) (FloatBits.totalLe_iff.mp below'))
  antisymm a b below above := FloatBits.place_injective
    (Int.le_antisymm (FloatBits.totalLe_iff.mp below) (FloatBits.totalLe_iff.mp above))

/-- Of the numbers fewer than `r` are below this one, and at least `r` are at or below it. -/
structure HasRank (r : Nat) (numbers : List ν) (v : ν) : Prop where
  member : v ∈ numbers
  fewer : numbers.countP (fun w => !Arithmetic.totalLe v w) < r
  enough : r ≤ numbers.countP fun w => Arithmetic.totalLe w v

variable {numbers numbers' : List ν} {r : Nat} {v w : ν}

theorem HasRank.perm (ranked : HasRank r numbers v) (same : numbers.Perm numbers') :
    HasRank r numbers' v where
  member := same.mem_iff.mp ranked.member
  fewer := same.countP_eq _ ▸ ranked.fewer
  enough := same.countP_eq _ ▸ ranked.enough

/-- Only one number has a rank. -/
theorem HasRank.unique (linear : Linear ν) (ranked : HasRank r numbers v)
    (ranked' : HasRank r numbers w) : v = w := by
  have at_most : ∀ {v w : ν}, HasRank r numbers v → HasRank r numbers w →
      Arithmetic.totalLe w v = true := by
    intro v w ranked ranked'
    refine Decidable.byContradiction fun above => ?_
    -- What is at or below `v` is below `w`.
    have all_below := List.countP_mono_left (l := numbers)
      (p := fun u => Arithmetic.totalLe u v) (q := fun u => !Arithmetic.totalLe w u)
      fun u _ below => by
        rw [Bool.not_eq_true']
        exact Bool.eq_false_iff.mpr fun not_below => above (linear.trans _ _ _ not_below below)
    exact absurd ranked'.fewer (Nat.not_lt.mpr (Nat.le_trans ranked.enough all_below))
  exact linear.antisymm _ _ (at_most ranked' ranked) (at_most ranked ranked')

/-- The places of a sorted list are the ranks. -/
theorem hasRank_of_pairwise (linear : Linear ν) {before after : List ν}
    (sorted : (before ++ v :: after).Pairwise fun a b => Arithmetic.totalLe a b = true) :
    HasRank (before.length + 1) (before ++ v :: after) v := by
  obtain ⟨-, rest, earlier⟩ := List.pairwise_append.mp sorted
  have later := (List.pairwise_cons.mp rest).1
  have itself : Arithmetic.totalLe v v = true := (Bool.or_self _).symm.trans (linear.total v v)
  refine ⟨List.mem_append_right _ List.mem_cons_self, ?_, ?_⟩
  · have none_later : (v :: after).countP (fun w => !Arithmetic.totalLe v w) = 0 := by
      refine List.countP_eq_zero.mpr fun w member => ?_
      rcases List.mem_cons.mp member with rfl | member
      · rw [itself]
        exact Bool.false_ne_true
      · rw [later w member]
        exact Bool.false_ne_true
    rw [List.countP_append, none_later]
    exact Nat.lt_succ_of_le List.countP_le_length
  · have all_earlier : before.countP (fun w => Arithmetic.totalLe w v) = before.length :=
      List.countP_eq_length.mpr fun w member => earlier w member v List.mem_cons_self
    rw [List.countP_append, all_earlier,
      List.countP_cons_of_pos (p := fun w => Arithmetic.totalLe w v) itself]
    omega

theorem pairwise_mergeSort (linear : Linear ν) (numbers : List ν) :
    (numbers.mergeSort Arithmetic.totalLe).Pairwise fun a b => Arithmetic.totalLe a b = true :=
  List.pairwise_mergeSort linear.trans linear.total numbers

/-- **The number found has the rank of the percentile**, and it is the only one. -/
theorem orderStatistic?_eq_some_iff (linear : Linear ν) {p : Float}
    (place : 0 < numbers.length →
      1 ≤ rank p numbers.length ∧ rank p numbers.length ≤ numbers.length) :
    orderStatistic? p numbers = some v ↔ HasRank (rank p numbers.length) numbers v := by
  have hasRank {v : ν} (found : orderStatistic? p numbers = some v) :
      HasRank (rank p numbers.length) numbers v := by
    obtain ⟨inside, rfl⟩ := List.getElem?_eq_some_iff.mp found
    have some_number := Nat.zero_lt_of_lt inside
    rw [List.length_mergeSort] at some_number
    obtain ⟨first, -⟩ := place some_number
    have split := List.take_append_drop (rank p numbers.length - 1)
      (numbers.mergeSort Arithmetic.totalLe)
    rw [← List.getElem_cons_drop inside] at split
    have ranked := hasRank_of_pairwise linear (split ▸ pairwise_mergeSort linear numbers)
    rw [split, List.length_take, Nat.min_eq_left (Nat.le_of_lt inside),
      Nat.sub_add_cancel first] at ranked
    exact ranked.perm (List.mergeSort_perm numbers _)
  refine ⟨hasRank, fun ranked => ?_⟩
  obtain ⟨first, last⟩ := place (List.length_pos_of_mem ranked.member)
  have inside : rank p numbers.length - 1 < (numbers.mergeSort Arithmetic.totalLe).length := by
    rw [List.length_mergeSort]
    omega
  have found : orderStatistic? p numbers = some _ := List.getElem?_eq_getElem inside
  rw [found, (hasRank found).unique linear ranked]

theorem orderStatistic?_eq_none_iff {p : Float}
    (last : 0 < numbers.length → rank p numbers.length ≤ numbers.length) :
    orderStatistic? p numbers = none ↔ numbers = [] := by
  rw [orderStatistic?, List.getElem?_eq_none_iff, List.length_mergeSort]
  constructor
  · intro outside
    refine List.eq_nil_iff_length_eq_zero.mpr ?_
    omega
  · rintro rfl
    exact Nat.zero_le _

/-- **The order of the numbers does not matter.** -/
theorem orderStatistic?_perm (linear : Linear ν) (p : Float) (same : numbers.Perm numbers') :
    orderStatistic? p numbers = orderStatistic? p numbers' := by
  have sorted : numbers.mergeSort Arithmetic.totalLe = numbers'.mergeSort Arithmetic.totalLe :=
    List.Perm.eq_of_pairwise (fun a b _ _ => linear.antisymm a b)
      (pairwise_mergeSort linear numbers) (pairwise_mergeSort linear numbers')
      ((List.mergeSort_perm numbers _).trans (same.trans (List.mergeSort_perm numbers' _).symm))
  rw [orderStatistic?, orderStatistic?, sorted, same.length_eq]

/-- Of floats, the one is found whose bits are found among theirs. -/
theorem orderStatistic?_ofFloat (p : Float) (floats : List Float) :
    (orderStatistic? p floats).map FloatBits.ofFloat =
      orderStatistic? p (floats.map FloatBits.ofFloat) := by
  have sorted : (floats.mergeSort Arithmetic.totalLe).map FloatBits.ofFloat =
      (floats.map FloatBits.ofFloat).mergeSort Arithmetic.totalLe :=
    List.map_mergeSort fun _ _ _ _ => rfl
  rw [orderStatistic?, orderStatistic?, ← sorted, List.getElem?_map, List.length_map]

/-! ### The answer that was left behind -/

/-- An answer that was left behind is the one for the values that are there. -/
def Current (s : ValueSet ν) : Prop :=
  ∀ answer, s.lookedUp = some answer → answer = orderStatistic? s.percentile s.numbers

theorem Current.reported_fst {s : ValueSet ν} (current : Current s) :
    s.reported.1 = orderStatistic? s.percentile s.numbers := by
  unfold reported
  cases known : s.lookedUp with
  | some answer => exact current answer known
  | none => rfl

/-- Additions forget the answer, and a question leaves the right one. -/
theorem current_run (p : Float) (uses : List (Use ν)) :
    Current ((ValueSet.empty p : ValueSet ν).run uses) := by
  refine run_rule (fun _ s => Current s) ?_ ?_ ?_ uses
  · exact fun _ known => nomatch known
  · exact fun _ _ _ _ known => nomatch known
  · intro _ s current answer known
    rw [reported_snd] at known ⊢
    exact (Option.some.inj known).symm.trans current.reported_fst

/-- **The answer is never stale.** -/
theorem reported_run (p : Float) (uses : List (Use ν)) :
    ((ValueSet.empty p : ValueSet ν).run uses).reported.1 =
      orderStatistic? p ((added uses).map (·.2)) := by
  rw [(current_run p uses).reported_fst, percentile_run, numbers_run]

end

/-- **The percentile is the right order statistic, and never stale.** It is found among floats with all
of their bits, undefined results included. A set of `Float`s has the percentile whose bits are found
among theirs. -/
theorem run_percentile {p : Float} (positive : 0 < p) (most : p ≤ 1) (uses : List (Use FloatBits))
    (ranked : 2 ^ 53 < (added uses).length →
      1 ≤ rank p (added uses).length ∧ rank p (added uses).length ≤ (added uses).length) :
    let s := (ValueSet.empty p : ValueSet FloatBits).run uses
    let r := rank p s.size
    s.numbers = (added uses).map (·.2) ∧
      r = min ⌈exactValue (p * s.size.toUInt64.toFloat)⌉₊ (UInt64.size - 1) ∧
      (s.reported.1 = none ↔ added uses = []) ∧
      (∀ v, s.reported.1 = some v ↔ v ∈ s.numbers ∧
        s.numbers.countP (fun w => w.place < v.place) < r ∧
        r ≤ s.numbers.countP fun w => w.place ≤ v.place) ∧
      (∀ others : List (Use FloatBits), ((added others).map (·.2)).Perm s.numbers →
        ((ValueSet.empty p : ValueSet FloatBits).run others).reported.1 = s.reported.1) ∧
      ∀ floats : List (Use Float),
        ((added floats).map fun given => FloatBits.ofFloat given.2).Perm s.numbers →
        ((ValueSet.empty p : ValueSet Float).run floats).reported.1.map .ofFloat =
          s.reported.1 := by
  intro s r
  have numbers : s.numbers = (added uses).map (·.2) := numbers_run p uses
  have reported : s.reported.1 = orderStatistic? p s.numbers := numbers ▸ reported_run p uses
  have counted : s.numbers.length = s.size := by
    rw [ValueSet.numbers, List.length_map, Array.length_toList, ValueSet.size]
  have counted' : (added uses).length = s.size := by rw [← counted, numbers, List.length_map]
  have none_added : added uses = [] ↔ s.numbers = [] := by rw [numbers, List.map_eq_nil_iff]
  rw [counted'] at ranked
  have ranks : r = rank p s.numbers.length := by rw [counted]
  have place (some : 0 < s.numbers.length) :
      1 ≤ rank p s.numbers.length ∧ rank p s.numbers.length ≤ s.numbers.length := by
    rw [counted] at some ⊢
    rcases Nat.lt_or_ge (2 ^ 53) s.size with many | few
    · exact ranked many
    · exact rank_bounds positive most some few
  have below (v : FloatBits) :
      (fun w : FloatBits => !Arithmetic.totalLe v w) = fun w => decide (w.place < v.place) :=
    funext (FloatBits.not_totalLe v)
  refine ⟨numbers, rank_eq positive most s.size, ?none, fun v => ?found, fun others same => ?order,
    fun floats same => ?floats⟩
  case none => rw [reported, none_added, orderStatistic?_eq_none_iff fun some => (place some).2]
  case found =>
    rw [reported, ranks, orderStatistic?_eq_some_iff linear_floatBits place]
    exact ⟨fun h => ⟨h.member, below v ▸ h.fewer, h.enough⟩,
      fun h => ⟨h.1, (below v).symm ▸ h.2.1, h.2.2⟩⟩
  case order =>
    rw [reported, reported_run]
    exact orderStatistic?_perm linear_floatBits p same
  case floats =>
    rw [reported, reported_run, orderStatistic?_ofFloat, List.map_map]
    exact orderStatistic?_perm linear_floatBits p same

/-- Of two undefined results and a number between them, the number is the median. -/
theorem run_percentile_median :
    let uses : List (Use FloatBits) :=
      [.add .earliest ⟨0x7ff8000000000000⟩, .ask, .add .earliest ⟨0xfff8000000000000⟩, .ask,
        .add .earliest (.ofFloat 2)]
    ((0 : Float) < 0.5 ∧ (0.5 : Float) ≤ 1) ∧
      (2 ^ 53 < (added uses).length → 1 ≤ rank 0.5 (added uses).length ∧
        rank 0.5 (added uses).length ≤ (added uses).length) ∧
      ((ValueSet.empty 0.5 : ValueSet FloatBits).run uses).reported.1 = some (.ofFloat 2) := by
  intro uses
  have positive : (0 : Float) < 0.5 := by decide +kernel
  have most : (0.5 : Float) ≤ 1 := by decide +kernel
  have few : 2 ^ 53 < (added uses).length → 1 ≤ rank 0.5 (added uses).length ∧
      rank 0.5 (added uses).length ≤ (added uses).length :=
    fun many => absurd many (by decide +kernel)
  obtain ⟨numbers, -, -, found, -⟩ := run_percentile positive most uses few
  refine ⟨⟨positive, most⟩, few, (found (.ofFloat 2)).mpr ⟨?_, by decide +kernel, by decide +kernel⟩⟩
  rw [numbers]
  exact .tail _ (.tail _ (.head _))

end Metering.Series
