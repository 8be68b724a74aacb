import Mathlib.Data.List.TakeWhile
import Metering.Series.Scan

/-!
Which window a sample falls to, said without the scan.

Windows that cover a range without gaps are a `Tiles`, and what `tile` cuts is one
(`tiles_tile`). A sample is consumed during the first window that ends no earlier than the latest
timestamp up to that sample (`windowOf?`); whatever the timestamps do, the samples consumed during
one window stand together, and `consumed_cons` peels them off window by window.
-/

namespace Metering.Series

open Metering.Time

/-! ### Windows without gaps -/

/-- The windows lead from a start to `stop` without a gap, and each ends after its start. -/
inductive Tiles (stop : Timestamp) : Timestamp → List Window → Prop where
  | done : Tiles stop stop []
  | window {start next : Timestamp} {windows : List Window} : start < next → next ≤ stop →
      Tiles stop next windows → Tiles stop start (⟨start, next⟩ :: windows)

/-- Every window of a tiling ends after its start and no later than the range. -/
theorem Tiles.bounds {start stop : Timestamp} {windows : List Window}
    (tiles : Tiles stop start windows) :
    ∀ w ∈ windows, start ≤ w.start ∧ start < w.stop ∧ w.stop ≤ stop := by
  induction tiles with
  | done => simp
  | window later bounded _ ih =>
      intro w member
      rcases List.mem_cons.mp member with rfl | member
      · exact ⟨Std.le_refl _, later, bounded⟩
      · have := ih w member
        grind

/-- Only a range with some width has windows. -/
theorem Tiles.eq_nil_of_not_lt {start stop : Timestamp} {windows : List Window}
    (tiles : Tiles stop start windows) (no_width : ¬ start < stop) : windows = [] := by
  cases tiles with
  | done => rfl
  | window later bounded _ => exact absurd (Std.lt_of_lt_of_le later bounded) no_width

theorem Tiles.eq_nil {stop : Timestamp} {windows : List Window} (tiles : Tiles stop stop windows) :
    windows = [] :=
  tiles.eq_nil_of_not_lt Std.lt_irrefl

/-- The windows cut from a range cover it, unless one of them has no end. -/
theorem tiles_tile {g : Granularity} {start stop : Timestamp} (ordered : start ≤ stop)
    (fits : (tile g start stop).overflow = none) :
    Tiles stop start (tile g start stop).windows := by
  fun_induction tile g start stop with
  | case1 => simp at fits
  | case2 start before next _ later rest ih =>
      have bounded : min next stop ≤ stop := by
        simp only [Timestamp.le_def, Timestamp.nanos_min]
        omega
      have onward : start < min next stop := by
        simp only [Timestamp.lt_def, Timestamp.nanos_min] at *
        omega
      exact .window onward bounded (ih bounded fits)
  | case3 => simp at fits
  | case4 start after =>
      obtain rfl : start = stop := by grind
      exact .done

/-! ### The window a sample falls to -/

/-- The samples before the first one stamped after `stop`. -/
def reached (stop : Timestamp) (samples : List Sample) : List Sample :=
  samples.takeWhile fun sample => sample.timestamp ≤ stop

/-- The samples from the first one stamped after `stop`. -/
def unreached (stop : Timestamp) (samples : List Sample) : List Sample :=
  samples.dropWhile fun sample => sample.timestamp ≤ stop

/-- The latest timestamp among the samples up to and including place `i`. -/
def highWater? (samples : List Sample) (i : Nat) : Option Timestamp :=
  ((samples.take (i + 1)).map (·.timestamp)).max?

/-- The window during which the sample at place `i` is consumed: the first one that ends no
earlier than the latest timestamp up to there. -/
def windowOf? (windows : List Window) (samples : List Sample) (i : Nat) : Option Nat :=
  windows.findIdx? fun w => (highWater? samples i).all fun high => decide (high ≤ w.stop)

/-- The samples consumed during the selected windows, in sequence order. -/
def consumed (windows : List Window) (samples : List Sample) (during : Nat → Bool) :
    List Sample :=
  (samples.zipIdx.filter fun entry => (windowOf? windows samples entry.2).any during).map (·.1)

/-- The samples consumed during the window with number `k`. -/
def consumedIn (windows : List Window) (samples : List Sample) (k : Nat) : List Sample :=
  consumed windows samples fun window => window == k

/-- The samples stamped within the bounds of the window. -/
def Window.members (w : Window) (samples : List Sample) : List Sample :=
  samples.filter fun sample => w.start ≤ sample.timestamp

/-- The samples stamped before the window begins. -/
def Window.stragglers (w : Window) (samples : List Sample) : List Sample :=
  samples.filter fun sample => sample.timestamp < w.start

section Cons

variable {stop : Timestamp} {w : Window} {sample : Sample} {rest : List Sample}

theorem reached_cons_of_le (le : sample.timestamp ≤ stop) :
    reached stop (sample :: rest) = sample :: reached stop rest := by
  simp [reached, le]

theorem reached_cons_of_lt (lt : stop < sample.timestamp) : reached stop (sample :: rest) = [] := by
  simp [reached, Std.not_le.mpr lt]

theorem unreached_cons_of_le (le : sample.timestamp ≤ stop) :
    unreached stop (sample :: rest) = unreached stop rest := by
  simp [unreached, le]

theorem unreached_cons_of_lt (lt : stop < sample.timestamp) :
    unreached stop (sample :: rest) = sample :: rest := by
  simp [unreached, Std.not_le.mpr lt]

theorem Window.members_cons_of_le (le : w.start ≤ sample.timestamp) :
    w.members (sample :: rest) = sample :: w.members rest := by
  simp [Window.members, le]

theorem Window.members_cons_of_lt (lt : sample.timestamp < w.start) :
    w.members (sample :: rest) = w.members rest := by
  simp [Window.members, Std.not_le.mpr lt]

theorem Window.stragglers_cons_of_le (le : w.start ≤ sample.timestamp) :
    w.stragglers (sample :: rest) = w.stragglers rest := by
  simp [Window.stragglers, Std.not_lt.mpr le]

theorem Window.stragglers_cons_of_lt (lt : sample.timestamp < w.start) :
    w.stragglers (sample :: rest) = sample :: w.stragglers rest := by
  simp [Window.stragglers, lt]

end Cons

theorem reached_append_unreached (stop : Timestamp) (samples : List Sample) :
    reached stop samples ++ unreached stop samples = samples :=
  List.takeWhile_append_dropWhile

theorem le_of_mem_reached {stop : Timestamp} {samples : List Sample} {sample : Sample}
    (member : sample ∈ reached stop samples) : sample.timestamp ≤ stop := by
  have all := List.all_eq_true.mp
    (List.all_takeWhile (p := fun sample : Sample => decide (sample.timestamp ≤ stop))) sample member
  exact of_decide_eq_true all

/-- The first sample that is not reached is stamped after `stop`. -/
theorem lt_of_unreached_eq_cons {stop : Timestamp} {samples rest : List Sample} {sample : Sample}
    (unreached_eq : unreached stop samples = sample :: rest) : stop < sample.timestamp := by
  have := List.head?_dropWhile_not (fun sample : Sample => decide (sample.timestamp ≤ stop)) samples
  unfold unreached at unreached_eq
  rw [unreached_eq] at this
  simp at this
  grind

/-- Reaching a later instant goes on from where an earlier one was reached. -/
theorem reached_of_le {t stop : Timestamp} (le : t ≤ stop) (samples : List Sample) :
    reached stop samples = reached t samples ++ reached stop (unreached t samples) := by
  conv => lhs; rw [← reached_append_unreached t samples]
  refine List.takeWhile_append_of_pos fun sample member => ?_
  exact decide_eq_true (Std.le_trans (le_of_mem_reached member) le)

theorem reached_reached {t stop : Timestamp} (le : t ≤ stop) (samples : List Sample) :
    reached t (reached stop samples) = reached t samples := by
  have both : (fun sample : Sample =>
      decide (decide (sample.timestamp ≤ t) = true ∧ decide (sample.timestamp ≤ stop) = true)) =
      fun sample => decide (sample.timestamp ≤ t) := by
    funext sample
    simp only [decide_eq_true_eq]
    exact decide_eq_decide.mpr ⟨fun h => h.1, fun h => ⟨h, Std.le_trans h le⟩⟩
  rw [reached, reached, List.takeWhile_takeWhile, both]
  rfl

theorem unreached_reached {t stop : Timestamp} (le : t ≤ stop) (samples : List Sample) :
    unreached t (reached stop samples) = reached stop (unreached t samples) := by
  have split := reached_append_unreached t (reached stop samples)
  rw [reached_reached le] at split
  exact List.append_cancel_left (split.trans (reached_of_le le samples))

theorem reached_unreached (t : Timestamp) (samples : List Sample) :
    reached t (unreached t samples) = [] := by
  cases remaining : unreached t samples with
  | nil => rfl
  | cons first rest =>
      exact reached_cons_of_lt (lt_of_unreached_eq_cons remaining)

theorem unreached_unreached {t stop : Timestamp} (le : t ≤ stop) (samples : List Sample) :
    unreached stop (unreached t samples) = unreached stop samples := by
  conv => rhs; rw [← reached_append_unreached t samples]
  refine (List.dropWhile_append_of_pos fun sample member => ?_).symm
  exact decide_eq_true (Std.le_trans (le_of_mem_reached member) le)

theorem highWater?_all_le_iff {samples : List Sample} {i : Nat} {t : Timestamp} :
    ((highWater? samples i).all fun high => decide (high ≤ t)) = true ↔
      ∀ sample ∈ samples.take (i + 1), sample.timestamp ≤ t := by
  unfold highWater?
  cases high : ((samples.take (i + 1)).map (·.timestamp)).max? with
  | none =>
      rw [List.max?_eq_none_iff, List.map_eq_nil_iff] at high
      simp [high]
  | some latest =>
      simp only [Option.all_some, decide_eq_true_eq]
      rw [List.max?_le_iff high]
      exact List.forall_mem_map

/-! ### Peeling off the first window -/

theorem findIdx?_eq_of_agree {p q : Window → Bool} {windows : List Window}
    (agree : ∀ w ∈ windows, p w = q w) : windows.findIdx? p = windows.findIdx? q := by
  induction windows with
  | nil => rfl
  | cons w windows ih =>
      rw [List.findIdx?_cons, List.findIdx?_cons, agree w List.mem_cons_self,
        ih fun other member => agree other (List.mem_cons_of_mem _ member)]

section FirstWindow

variable {w : Window} {windows : List Window} {segment rest : List Sample}

/-- A sample that no earlier one hinders falls to the first window it fits in. -/
theorem windowOf?_append_left (inside : ∀ sample ∈ segment, sample.timestamp ≤ w.stop) {i : Nat}
    (here : i < segment.length) : windowOf? (w :: windows) (segment ++ rest) i = some 0 := by
  have fits : (highWater? (segment ++ rest) i).all (fun high => decide (high ≤ w.stop)) = true := by
    rw [highWater?_all_le_iff, List.take_append_of_le_length here]
    exact fun sample member => inside sample (List.mem_of_mem_take member)
  rw [windowOf?, List.findIdx?_cons, if_pos fits]

/-- Once a sample is stamped after the end of the first window, all that follow fall to later
windows, as if the samples before it did not exist. -/
theorem windowOf?_append_right {first : Sample}
    (inside : ∀ sample ∈ segment, sample.timestamp ≤ w.stop) (outside : w.stop < first.timestamp)
    (later : ∀ other ∈ windows, w.stop ≤ other.stop) (j : Nat) :
    windowOf? (w :: windows) (segment ++ first :: rest) (segment.length + j) =
      (windowOf? windows (first :: rest) j).map (· + 1) := by
  have upTo : (segment ++ first :: rest).take (segment.length + j + 1) =
      segment ++ (first :: rest).take (j + 1) := by
    rw [Nat.add_assoc, List.take_length_add_append]
  have missed : ¬ (highWater? (segment ++ first :: rest) (segment.length + j)).all
      (fun high => decide (high ≤ w.stop)) = true := by
    rw [highWater?_all_le_iff, upTo]
    intro fits
    have := fits first (by simp)
    grind
  have same : ∀ other ∈ windows,
      ((highWater? (segment ++ first :: rest) (segment.length + j)).all
        fun high => decide (high ≤ other.stop)) =
      (highWater? (first :: rest) j).all fun high => decide (high ≤ other.stop) := by
    intro other member
    rw [Bool.eq_iff_iff, highWater?_all_le_iff, highWater?_all_le_iff, upTo]
    constructor
    · exact fun fits sample mem => fits sample (List.mem_append_right _ mem)
    · intro fits sample mem
      rcases List.mem_append.mp mem with mem | mem
      · exact Std.le_trans (inside sample mem) (later other member)
      · exact fits sample mem
  rw [windowOf?, List.findIdx?_cons, if_neg missed]
  simp only [windowOf?]
  congr 1
  exact findIdx?_eq_of_agree same

/-- A selection of the samples before a sample that is stamped after the first window. -/
theorem consumed_append_left (inside : ∀ sample ∈ segment, sample.timestamp ≤ w.stop)
    (during : Nat → Bool) :
    ((segment.zipIdx.filter fun entry =>
        (windowOf? (w :: windows) (segment ++ rest) entry.2).any during).map (·.1)) =
      if during 0 then segment else [] := by
  have same : ∀ entry ∈ segment.zipIdx,
      (windowOf? (w :: windows) (segment ++ rest) entry.2).any during = during 0 := by
    intro entry member
    have here : entry.2 < segment.length := by
      simpa using (List.mem_zipIdx member).2.1
    rw [windowOf?_append_left inside here, Option.any_some]
  rw [List.filter_congr same]
  by_cases chosen : during 0 = true
  · rw [List.filter_eq_self.mpr fun _ _ => chosen, List.zipIdx_map_fst, if_pos chosen]
  · rw [List.filter_eq_nil_iff.mpr fun _ _ => chosen, if_neg chosen, List.map_nil]

/-- A selection of the samples from one that is stamped after the first window. -/
theorem consumed_append_right {first : Sample}
    (inside : ∀ sample ∈ segment, sample.timestamp ≤ w.stop) (outside : w.stop < first.timestamp)
    (later : ∀ other ∈ windows, w.stop ≤ other.stop) (during : Nat → Bool) :
    ((((first :: rest).zipIdx segment.length).filter fun entry =>
        (windowOf? (w :: windows) (segment ++ first :: rest) entry.2).any during).map (·.1)) =
      consumed windows (first :: rest) fun k => during (k + 1) := by
  have same : ∀ entry : Sample × Nat,
      (windowOf? (w :: windows) (segment ++ first :: rest) (segment.length + entry.2)).any during =
      (windowOf? windows (first :: rest) entry.2).any fun k => during (k + 1) := by
    intro entry
    rw [windowOf?_append_right inside outside later, Option.any_map]
  rw [List.zipIdx_eq_map_add, List.filter_map, List.map_map]
  simp only [Function.comp_def, same, consumed]

end FirstWindow

/-- The samples up to the end of the first window are consumed during it, and the rest during the
windows after it. -/
theorem consumed_cons {w : Window} {windows : List Window}
    (later : ∀ other ∈ windows, w.stop ≤ other.stop) (samples : List Sample)
    (during : Nat → Bool) :
    consumed (w :: windows) samples during =
      (if during 0 then reached w.stop samples else []) ++
        consumed windows (unreached w.stop samples) fun k => during (k + 1) := by
  -- Whatever the first window leaves begins with a sample stamped after its end.
  conv => lhs; rw [← reached_append_unreached w.stop samples]
  have inside : ∀ sample ∈ reached w.stop samples, sample.timestamp ≤ w.stop :=
    fun sample member => le_of_mem_reached member
  rw [consumed, List.zipIdx_append, List.filter_append, List.map_append,
    consumed_append_left inside]
  congr 1
  cases remaining : unreached w.stop samples with
  | nil => rfl
  | cons first rest =>
      rw [Nat.zero_add]
      exact consumed_append_right inside (lt_of_unreached_eq_cons remaining) later during

theorem consumed_sublist (windows : List Window) (samples : List Sample) (during : Nat → Bool) :
    (consumed windows samples during).Sublist samples := by
  have chosen : (consumed windows samples during).Sublist (samples.zipIdx.map (·.1)) :=
    List.filter_sublist.map _
  rwa [List.zipIdx_map_fst] at chosen

theorem consumed_nil (samples : List Sample) (during : Nat → Bool) :
    consumed [] samples during = [] := by
  simp [consumed, windowOf?]

section Tiling

variable {start stop : Timestamp} {w : Window} {windows : List Window}

theorem Tiles.start_of_zero (tiles : Tiles stop start windows) (at_zero : windows[0]? = some w) :
    w.start = start := by
  cases tiles with
  | done => simp at at_zero
  | window later bounded rest =>
      obtain rfl : _ = w := by simpa using at_zero
      rfl

theorem Tiles.later (tiles : Tiles stop start (w :: windows)) :
    ∀ other ∈ windows, w.stop ≤ other.stop := by
  cases tiles with
  | window _ _ rest => exact fun other member => Std.le_of_lt (rest.bounds other member).2.1

theorem consumedIn_cons_zero (tiles : Tiles stop start (w :: windows)) (samples : List Sample) :
    consumedIn (w :: windows) samples 0 = reached w.stop samples := by
  have none_later : (consumed windows (unreached w.stop samples) fun k => k + 1 == 0) = [] := by
    simp [consumed]
  rw [consumedIn, consumed_cons tiles.later, none_later]
  simp

theorem consumedIn_cons_succ (tiles : Tiles stop start (w :: windows)) (samples : List Sample)
    (k : Nat) :
    consumedIn (w :: windows) samples (k + 1) =
      consumedIn windows (unreached w.stop samples) k := by
  rw [consumedIn, consumed_cons tiles.later]
  simp [consumedIn]

/-- Samples that are not reached have no part in the assignment of those that are. -/
theorem consumed_reached (tiles : Tiles stop start windows) (samples : List Sample)
    (during : Nat → Bool) :
    consumed windows (reached stop samples) during = consumed windows samples during := by
  induction tiles generalizing samples during with
  | done => rw [consumed_nil, consumed_nil]
  | window later bounded rest ih =>
      have onward := (Tiles.window later bounded rest).later
      rw [consumed_cons onward, consumed_cons onward, reached_reached bounded,
        unreached_reached bounded, ih]

/-- The first window consumes all samples up to its end. -/
theorem consumedIn_zero (tiles : Tiles stop start windows) (at_zero : windows[0]? = some w)
    (samples : List Sample) : consumedIn windows samples 0 = reached w.stop samples := by
  cases tiles with
  | done => simp at at_zero
  | window later bounded rest =>
      obtain rfl : _ = w := by simpa using at_zero
      exact consumedIn_cons_zero (.window later bounded rest) samples

/-- A later window consumes the samples from where its start was passed up to its end. -/
theorem consumedIn_succ (tiles : Tiles stop start windows) {k : Nat}
    (at_k : windows[k + 1]? = some w) (samples : List Sample) :
    consumedIn windows samples (k + 1) = reached w.stop (unreached w.start samples) := by
  induction tiles generalizing k samples with
  | done => simp at at_k
  | @window start next windows later bounded rest ih =>
      rw [List.getElem?_cons_succ] at at_k
      rw [consumedIn_cons_succ (.window later bounded rest)]
      cases k with
      | zero =>
          rw [consumedIn_zero rest at_k, rest.start_of_zero at_k]
      | succ k =>
          have after := (rest.bounds w (List.mem_of_getElem? at_k)).1
          rw [ih at_k, unreached_unreached after]

end Tiling

/-! ### Samples in order -/

/-- The timestamps never run back. -/
def InOrder (samples : List Sample) : Prop :=
  samples.Pairwise fun earlier later => earlier.timestamp ≤ later.timestamp

theorem InOrder.reached {samples : List Sample} (inOrder : InOrder samples) (t : Timestamp) :
    InOrder (reached t samples) :=
  inOrder.sublist (List.takeWhile_sublist _)

theorem InOrder.unreached {samples : List Sample} (inOrder : InOrder samples) (t : Timestamp) :
    InOrder (unreached t samples) :=
  inOrder.sublist (List.dropWhile_sublist _)

theorem reached_eq_filter {samples : List Sample} (inOrder : InOrder samples) (t : Timestamp) :
    reached t samples = samples.filter fun sample => sample.timestamp ≤ t := by
  induction inOrder with
  | nil => rfl
  | @cons sample rest first _ ih =>
      by_cases upTo : sample.timestamp ≤ t
      · rw [reached_cons_of_le upTo, ih]
        simp [upTo]
      · have none_left : ∀ other ∈ sample :: rest, ¬ decide (other.timestamp ≤ t) = true := by
          intro other member
          rw [decide_eq_true_eq]
          rcases List.mem_cons.mp member with rfl | member
          · exact upTo
          · exact fun le => upTo (Std.le_trans (first other member) le)
        rw [reached_cons_of_lt (Std.not_le.mp upTo), List.filter_eq_nil_iff.mpr none_left]

theorem unreached_eq_filter {samples : List Sample} (inOrder : InOrder samples) (t : Timestamp) :
    unreached t samples = samples.filter fun sample => t < sample.timestamp := by
  induction inOrder with
  | nil => rfl
  | @cons sample rest first _ ih =>
      by_cases upTo : sample.timestamp ≤ t
      · rw [unreached_cons_of_le upTo, ih]
        simp [Std.not_lt.mpr upTo]
      · have past := Std.not_le.mp upTo
        have all_left : ∀ other ∈ sample :: rest, decide (t < other.timestamp) = true := by
          intro other member
          rw [decide_eq_true_eq]
          rcases List.mem_cons.mp member with rfl | member
          · exact past
          · exact Std.lt_of_lt_of_le past (first other member)
        rw [unreached_cons_of_lt past, List.filter_eq_self.mpr all_left]

end Metering.Series
