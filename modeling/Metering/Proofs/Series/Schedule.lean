import Mathlib.Algebra.GroupWithZero.Nat
import Metering.Proofs.Series.Assignment
import Metering.Series.Query

/-!
What a scan asks of its evaluator, and in which order.

`take_eq` says what one window takes. An evaluator that keeps a log gives the same values as the
one inside it; `scanIntervals_calls` says that the log is the `schedule`, which reads off the
assignment of samples to windows alone: window by window, first what the window passes over, then
one evaluation of its members. A query with bounds in order is one scan of its range, and an answered
one was that or had nothing to scan (`scan_eq_ok`).
-/

namespace Metering.Series

open Metering.Time

/-- What a scan asks of an evaluator. -/
inductive Call where
  | observe (sample : Sample)
  | evaluate (samples : List Sample)
deriving DecidableEq, Repr

variable {σ ν α : Type}

/-- The evaluator together with a log of its calls. -/
def Evaluator.logged (ev : Evaluator σ ν) : Evaluator (σ × List Call) ν where
  observe state sample := (ev.observe state.1 sample, state.2 ++ [.observe sample])
  evaluate state samples :=
    (ev.evaluate state.1 samples).map fun answer =>
      (answer.1, answer.2, state.2 ++ [.evaluate samples])

/-! ### What a window does with its samples -/

/-- The calls of a window during which the given samples are consumed. -/
def Window.calls (w : Window) (samples : List Sample) : List Call :=
  (w.stragglers samples).map .observe ++ [.evaluate (w.members samples)]

/-- What the windows make of the samples consumed during them, one after the other. -/
def perWindow (part : Window → List Sample → List α) (windows : List Window)
    (samples : List Sample) : List α :=
  (windows.mapIdx fun k w => part w (consumedIn windows samples k)).flatten

/-- The same for the windows before the one with number `k`. -/
def perWindowBefore (part : Window → List Sample → List α) (windows : List Window)
    (samples : List Sample) (k : Nat) : List α :=
  ((windows.mapIdx fun j w => part w (consumedIn windows samples j)).take k).flatten

/-- The calls of a scan over the windows. -/
def schedule (windows : List Window) (samples : List Sample) : List Call :=
  perWindow Window.calls windows samples

/-- The samples that are consumed without a window, in the order in which that happens. -/
def passedOver (windows : List Window) (samples : List Sample) : List Sample :=
  perWindow Window.stragglers windows samples

theorem perWindow_cons (part : Window → List Sample → List α) {start stop : Timestamp} {w : Window}
    {windows : List Window} (tiles : Tiles stop start (w :: windows)) (samples : List Sample) :
    perWindow part (w :: windows) samples =
      part w (reached w.stop samples) ++ perWindow part windows (unreached w.stop samples) := by
  simp only [perWindow, List.mapIdx_cons, List.flatten_cons, consumedIn_cons_zero tiles,
    consumedIn_cons_succ tiles]

theorem perWindowBefore_zero (part : Window → List Sample → List α) (windows : List Window)
    (samples : List Sample) : perWindowBefore part windows samples 0 = [] := by
  rw [perWindowBefore, List.take_zero, List.flatten_nil]

theorem perWindowBefore_cons_succ (part : Window → List Sample → List α) {start stop : Timestamp}
    {w : Window} {windows : List Window} (tiles : Tiles stop start (w :: windows))
    (samples : List Sample) (k : Nat) :
    perWindowBefore part (w :: windows) samples (k + 1) =
      part w (reached w.stop samples) ++
        perWindowBefore part windows (unreached w.stop samples) k := by
  simp only [perWindowBefore, List.mapIdx_cons, List.take_succ_cons, List.flatten_cons,
    consumedIn_cons_zero tiles, consumedIn_cons_succ tiles]

theorem perWindowBefore_succ (part : Window → List Sample → List α) {windows : List Window}
    {k : Nat} {w : Window} (at_k : windows[k]? = some w) (samples : List Sample) :
    perWindowBefore part windows samples (k + 1) =
      perWindowBefore part windows samples k ++ part w (consumedIn windows samples k) := by
  simp only [perWindowBefore, List.take_add_one, List.getElem?_mapIdx, at_k, Option.map_some,
    Option.toList_some, List.flatten_append, List.flatten_cons, List.flatten_nil, List.append_nil]

theorem perWindowBefore_length (part : Window → List Sample → List α) (windows : List Window)
    (samples : List Sample) :
    perWindowBefore part windows samples windows.length = perWindow part windows samples := by
  rw [perWindowBefore, perWindow, List.take_of_length_le (by rw [List.length_mapIdx])]

theorem mem_perWindow {part : Window → List Sample → List α} {windows : List Window}
    {samples : List Sample} {x : α} (member : x ∈ perWindow part windows samples) :
    ∃ w ∈ windows, ∃ k, x ∈ part w (consumedIn windows samples k) := by
  obtain ⟨piece, listed, inside⟩ := List.mem_flatten.mp member
  obtain ⟨k, bound, rfl⟩ := List.mem_mapIdx.mp listed
  exact ⟨windows[k], List.getElem_mem bound, k, inside⟩

/-- Window by window, what is consumed is all that is reached. -/
theorem perWindow_consumed {start stop : Timestamp} {windows : List Window}
    (tiles : Tiles stop start windows) (ordered : start < stop) (samples : List Sample) :
    perWindow (fun _ segment => segment) windows samples = reached stop samples := by
  induction tiles generalizing samples with
  | done => exact absurd ordered Std.lt_irrefl
  | @window start next windows later bounded rest ih =>
      rw [perWindow_cons _ (Tiles.window later bounded rest), reached_of_le bounded samples]
      by_cases last : next = stop
      · subst last
        rw [rest.eq_nil, reached_unreached]
        rfl
      · rw [ih (Std.lt_of_le_of_ne bounded last)]

/-- The members and the stragglers of a window are the samples consumed during it. -/
theorem Window.members_append_stragglers (w : Window) (samples : List Sample) :
    (w.members samples ++ w.stragglers samples).Perm samples := by
  have opposite : (fun sample : Sample => decide (sample.timestamp < w.start)) =
      fun sample => !decide (w.start ≤ sample.timestamp) := by
    funext sample
    rw [← decide_not]
    exact decide_eq_decide.mpr Std.not_le.symm
  rw [Window.members, Window.stragglers, opposite]
  exact List.filter_append_perm _ samples

theorem perWindow_members_append_passedOver {start stop : Timestamp} {windows : List Window}
    (tiles : Tiles stop start windows) (samples : List Sample) :
    (perWindow Window.members windows samples ++ passedOver windows samples).Perm
      (perWindow (fun _ segment => segment) windows samples) := by
  induction tiles generalizing samples with
  | done => exact .nil
  | window later bounded rest ih =>
      have tiles := Tiles.window later bounded rest
      rw [passedOver, perWindow_cons _ tiles, perWindow_cons _ tiles, perWindow_cons _ tiles]
      rw [List.append_assoc]
      refine ((List.perm_append_comm_assoc _ _ _).append_left _).trans ?_
      rw [← List.append_assoc]
      exact (Window.members_append_stragglers _ _).append (ih _)

/-! ### One window of a scan -/

section Window

variable (ev : Evaluator σ ν) (start : Timestamp) (w : Window)

/-- What a window takes, read off the samples up to its end. -/
theorem take_eq (state : σ) (samples : List Sample) :
    take ev start w state samples =
      ⟨(w.stragglers (reached w.stop samples)).foldl ev.observe state,
        w.members (reached w.stop samples),
        (w.stragglers (reached w.stop samples)).countP fun sample => start ≤ sample.timestamp,
        unreached w.stop samples⟩ := by
  induction samples generalizing state with
  | nil => rfl
  | cons sample rest ih =>
      by_cases past : w.stop < sample.timestamp
      · rw [take, if_pos past, reached_cons_of_lt past, unreached_cons_of_lt past]
        rfl
      · have upTo := Std.not_lt.mp past
        rw [take, if_neg past, reached_cons_of_le upTo, unreached_cons_of_le upTo]
        by_cases early : sample.timestamp < w.start
        · rw [if_pos early, ih, Window.stragglers_cons_of_lt early,
            Window.members_cons_of_lt early, List.foldl_cons, List.countP_cons]
          simp only [decide_eq_true_eq]
        · have within := Std.not_lt.mp early
          rw [if_neg early, ih, Window.stragglers_cons_of_le within,
            Window.members_cons_of_le within]

variable [Arithmetic ν]

/-- A window that is evaluated adds its value, stamped with its end. -/
theorem scanWindow_eq_ok {samples : List Sample} {p : Progress σ ν} {value : ν} {state : σ}
    (evaluated : ev.evaluate ((w.stragglers (reached w.stop samples)).foldl ev.observe p.state)
      (w.members (reached w.stop samples)) = .ok (value, state)) :
    scanWindow ev start w samples p =
      .ok (⟨state, p.values.add w.stop value, p.skipped +
        (w.stragglers (reached w.stop samples)).countP fun sample => start ≤ sample.timestamp⟩,
        unreached w.stop samples) := by
  rw [scanWindow, take_eq]
  simp only [evaluated]

end Window

/-! ### The calls of a scan -/

theorem foldl_observe_logged (ev : Evaluator σ ν) (samples : List Sample) (state : σ)
    (log : List Call) :
    samples.foldl ev.logged.observe (state, log) =
      (samples.foldl ev.observe state, log ++ samples.map .observe) := by
  induction samples generalizing state log with
  | nil => simp
  | cons sample rest ih =>
      have seen : ev.logged.observe (state, log) sample =
          (ev.observe state sample, log ++ [.observe sample]) := rfl
      rw [List.foldl_cons, seen, ih, List.foldl_cons, List.map_cons, List.append_assoc]
      rfl

section Scan

variable [Arithmetic ν] {ev : Evaluator σ ν} {start current stop : Timestamp}
  {windows : List Window}

/-- The number of samples stamped from `start` on that the windows pass over. -/
def late (start : Timestamp) (windows : List Window) (samples : List Sample) : Nat :=
  (passedOver windows samples).countP fun sample => start ≤ sample.timestamp

theorem late_cons {w : Window} (tiles : Tiles stop current (w :: windows))
    (samples : List Sample) :
    late start (w :: windows) samples =
      ((w.stragglers (reached w.stop samples)).countP fun sample => start ≤ sample.timestamp) +
        late start windows (unreached w.stop samples) := by
  rw [late, passedOver, perWindow_cons _ tiles, List.countP_append]
  rfl

/-- Over windows without gaps the log of a scan is the schedule, and keeping it changes
nothing else. -/
theorem scanWindows_logged (start : Timestamp)
    (total : ∀ state samples, ∃ answer, ev.evaluate state samples = .ok answer)
    (tiles : Tiles stop current windows) (samples : List Sample) (p : Progress σ ν)
    (log : List Call) :
    ∃ state values,
      scanWindows ev start windows samples p =
        .ok ⟨state, values, p.skipped + late start windows samples⟩ ∧
      scanWindows ev.logged start windows samples ⟨(p.state, log), p.values, p.skipped⟩ =
        .ok ⟨(state, log ++ schedule windows samples), values,
          p.skipped + late start windows samples⟩ := by
  -- On the windows: the first one takes what it reaches, and the rest scan what is left.
  induction tiles generalizing samples p log with
  | done => exact ⟨p.state, p.values, rfl, by simp [scanWindows, schedule, late, passedOver, perWindow]⟩
  | @window current next windows later bounded rest ih =>
      have tiles := Tiles.window later bounded rest
      obtain ⟨⟨value, state⟩, evaluated⟩ := total
        ((Window.stragglers ⟨current, next⟩ (reached next samples)).foldl ev.observe p.state)
        (Window.members ⟨current, next⟩ (reached next samples))
      have logged : ev.logged.evaluate
          ((Window.stragglers ⟨current, next⟩ (reached next samples)).foldl ev.logged.observe
            (p.state, log)) (Window.members ⟨current, next⟩ (reached next samples)) =
          .ok (value, state, log ++ Window.calls ⟨current, next⟩ (reached next samples)) := by
        rw [foldl_observe_logged]
        simp [Evaluator.logged, evaluated, Except.map, Window.calls]
      obtain ⟨final, values, plain, kept⟩ := ih (unreached next samples) ⟨state, _, _⟩ _
      refine ⟨final, values, ?_, ?_⟩
      · rw [scanWindows, scanWindow_eq_ok ev start _ evaluated, late_cons tiles, ← Nat.add_assoc]
        exact plain
      · rw [scanWindows, scanWindow_eq_ok ev.logged start _ logged, late_cons tiles,
          ← Nat.add_assoc, schedule, perWindow_cons _ tiles, ← List.append_assoc]
        exact kept

/-- The samples of a range that are stamped from its start on are members of a window, or are
late for theirs. -/
theorem sum_members_add_late (tiles : Tiles stop start windows) (ordered : start < stop)
    (samples : List Sample) :
    (windows.mapIdx fun k w => (w.members (consumedIn windows samples k)).length).sum +
        late start windows samples =
      (reached stop samples).countP fun sample => start ≤ sample.timestamp := by
  have split := perWindow_members_append_passedOver tiles samples
  rw [perWindow_consumed tiles ordered] at split
  have inside : ∀ sample ∈ perWindow Window.members windows samples,
      decide (start ≤ sample.timestamp) = true := by
    intro sample member
    obtain ⟨w, listed, k, here⟩ := mem_perWindow member
    have from_start := of_decide_eq_true (List.mem_filter.mp here).2
    exact decide_eq_true (Std.le_trans (tiles.bounds w listed).1 from_start)
  rw [← split.countP_eq, List.countP_append, List.countP_eq_length.mpr inside, perWindow,
    List.length_flatten, late]
  simp only [List.mapIdx_eq_zipIdx_map, List.map_map, Function.comp_def]

/-- **The calls of a scan.** For an evaluator that never fails, a scan of a range that fits asks
exactly what the schedule of its windows says, on the samples before the first one stamped after
the range. What it skips is late; nothing is taken twice, and nothing is lost. -/
theorem scanIntervals_calls
    (total : ∀ state samples, ∃ answer, ev.evaluate state samples = .ok answer)
    {g : Granularity} (ordered : start < stop) (fits : (tile g start stop).overflow = none)
    (samples : List Sample) (p : Progress σ ν) :
    let windows := (tile g start stop).windows
    let inRange := reached stop samples
    ∃ state values skipped,
      scanIntervals ev g start start stop samples p = .ok ⟨state, values, p.skipped + skipped⟩ ∧
      scanIntervals ev.logged g start start stop samples ⟨(p.state, []), p.values, p.skipped⟩ =
        .ok ⟨(state, schedule windows inRange), values, p.skipped + skipped⟩ ∧
      skipped = (passedOver windows inRange).countP (fun sample => start ≤ sample.timestamp) ∧
      (perWindow Window.members windows inRange ++ passedOver windows inRange).Perm inRange ∧
      (windows.mapIdx fun k w => (w.members (consumedIn windows inRange k)).length).sum + skipped =
        inRange.countP fun sample => start ≤ sample.timestamp := by
  intro windows inRange
  have tiles : Tiles stop start windows := tiles_tile (Std.le_of_lt ordered) fits
  have agrees : ∀ k, consumedIn windows inRange k = consumedIn windows samples k :=
    fun k => consumed_reached tiles samples _
  have whole : reached stop inRange = inRange := reached_reached (Std.le_refl stop) samples
  have split := perWindow_members_append_passedOver tiles inRange
  rw [perWindow_consumed tiles ordered, whole] at split
  have count := sum_members_add_late tiles ordered inRange
  rw [whole] at count
  obtain ⟨state, values, plain, kept⟩ := scanWindows_logged start total tiles samples p []
  have sameLate : late start windows samples = late start windows inRange := by
    simp only [late, passedOver, perWindow, agrees]
  have sameSchedule : schedule windows samples = schedule windows inRange := by
    simp only [schedule, perWindow, agrees]
  rw [sameLate, sameSchedule, List.nil_append] at kept
  rw [sameLate] at plain
  refine ⟨state, values, late start windows inRange, ?_, ?_, rfl, split, count⟩
  · rw [scanIntervals_eq, plain, fits]
    rfl
  · rw [scanIntervals_eq, kept, fits]
    rfl

end Scan

/-! ### Values window by window -/

/-- The samples of a window in the order in which its evaluator gets them. -/
def Window.order (w : Window) (samples : List Sample) : List Sample :=
  w.stragglers samples ++ w.members samples

theorem Window.order_perm (w : Window) (samples : List Sample) :
    (w.order samples).Perm samples :=
  List.perm_append_comm.trans (w.members_append_stragglers samples)

theorem Window.order_of_inOrder (w : Window) {samples : List Sample} (inOrder : InOrder samples) :
    w.order samples = samples := by
  induction inOrder with
  | nil => rfl
  | @cons sample rest first _ ih =>
      by_cases early : sample.timestamp < w.start
      · rw [order, stragglers_cons_of_lt early, members_cons_of_lt early, List.cons_append]
        exact congrArg _ ih
      · have none_early : ∀ other ∈ sample :: rest, w.start ≤ other.timestamp := by
          intro other member
          rcases List.mem_cons.mp member with rfl | member
          · exact Std.not_lt.mp early
          · exact Std.le_trans (Std.not_lt.mp early) (first other member)
        have no_stragglers : w.stragglers (sample :: rest) = [] :=
          List.filter_eq_nil_iff.mpr fun other member => by
            simpa using Std.not_lt.mpr (none_early other member)
        have all_members : w.members (sample :: rest) = sample :: rest :=
          List.filter_eq_self.mpr fun other member => decide_eq_true (none_early other member)
        rw [order, no_stragglers, all_members, List.nil_append]

/-- The samples that an evaluator has got before the window with number `k`, in the order in
which it got them. -/
def fedBefore (windows : List Window) (samples : List Sample) (k : Nat) : List Sample :=
  ((windows.mapIdx fun j w => w.order (consumedIn windows samples j)).take k).flatten

section Values

variable [Arithmetic ν] {ev : Evaluator σ ν} {start current stop : Timestamp}
  {windows : List Window}

theorem fedBefore_zero (windows : List Window) (samples : List Sample) :
    fedBefore windows samples 0 = [] :=
  perWindowBefore_zero Window.order windows samples

theorem fedBefore_cons_succ {w : Window} (tiles : Tiles stop current (w :: windows))
    (samples : List Sample) (k : Nat) :
    fedBefore (w :: windows) samples (k + 1) =
      w.order (reached w.stop samples) ++ fedBefore windows (unreached w.stop samples) k :=
  perWindowBefore_cons_succ Window.order tiles samples k

theorem fedBefore_subset (windows : List Window) (samples : List Sample) (k : Nat) :
    fedBefore windows samples k ⊆ samples := by
  intro sample member
  obtain ⟨piece, listed, inside⟩ := List.mem_flatten.mp member
  obtain ⟨j, bound, rfl⟩ := List.mem_mapIdx.mp (List.mem_of_mem_take listed)
  exact (consumed_sublist windows samples _).subset ((Window.order_perm _ _).mem_iff.mp inside)

/-- In whichever order they came, what an evaluator has got before a window are the samples up to
its start. -/
theorem fedBefore_perm (tiles : Tiles stop current windows) {k : Nat} {w : Window}
    (at_k : windows[k + 1]? = some w) (samples : List Sample) :
    (fedBefore windows samples (k + 1)).Perm (reached w.start samples) := by
  induction tiles generalizing k samples with
  | done => simp at at_k
  | @window current next windows later bounded rest ih =>
      rw [List.getElem?_cons_succ] at at_k
      rw [fedBefore_cons_succ (.window later bounded rest)]
      have first := Window.order_perm ⟨current, next⟩ (reached next samples)
      cases k with
      | zero =>
          rw [fedBefore_zero, List.append_nil, rest.start_of_zero at_k]
          exact first
      | succ k =>
          have after := (rest.bounds w (List.mem_of_getElem? at_k)).1
          rw [reached_of_le after]
          exact first.append (ih at_k _)

/-- Samples in order are got in that order. -/
theorem fedBefore_of_inOrder (tiles : Tiles stop current windows) {k : Nat} {w : Window}
    (at_k : windows[k + 1]? = some w) {samples : List Sample} (inOrder : InOrder samples) :
    fedBefore windows samples (k + 1) = reached w.start samples := by
  induction tiles generalizing k samples with
  | done => simp at at_k
  | @window current next windows later bounded rest ih =>
      rw [List.getElem?_cons_succ] at at_k
      have first := Window.order_of_inOrder ⟨current, next⟩ (inOrder.reached next)
      rw [fedBefore_cons_succ (.window later bounded rest)]
      cases k with
      | zero =>
          rw [fedBefore_zero, List.append_nil, rest.start_of_zero at_k]
          exact first
      | succ k =>
          have after := (rest.bounds w (List.mem_of_getElem? at_k)).1
          rw [reached_of_le after, ← ih at_k (inOrder.unreached next)]
          exact congrArg (· ++ _) first

theorem numbers_add (values : ValueSet ν) (t : Timestamp) (value : ν) :
    (values.add t value).numbers = values.numbers ++ [value] := by
  simp [ValueSet.numbers, ValueSet.add]

/-- A rule for the values of a scan: `inv` relates what `part` makes of the windows so far to the
state, and `spec` a window, what was made before it, and what is consumed during it to its value. -/
theorem scanWindows_rule (part : Window → List Sample → List α) (inv : List α → σ → Prop)
    (spec : Window → List α → List Sample → ν → Prop)
    (step : ∀ {w made segment state value state'}, inv made state →
      ev.evaluate ((w.stragglers segment).foldl ev.observe state) (w.members segment) =
        .ok (value, state') →
      inv (made ++ part w segment) state' ∧ spec w made segment value)
    (tiles : Tiles stop current windows) {made : List α} {samples : List Sample}
    {p final : Progress σ ν} (begun : inv made p.state)
    (scanned : scanWindows ev start windows samples p = .ok final) :
    ∃ numbers, final.values.numbers = p.values.numbers ++ numbers ∧
      numbers.length = windows.length ∧
      ∀ {k w}, windows[k]? = some w → ∃ value, numbers[k]? = some value ∧
        spec w (made ++ perWindowBefore part windows samples k) (consumedIn windows samples k)
          value := by
  induction tiles generalizing made samples p with
  | done =>
      cases scanned
      exact ⟨[], by simp, rfl, by simp⟩
  | @window current next windows later bounded rest ih =>
      have tiles := Tiles.window later bounded rest
      cases evaluated : ev.evaluate
          ((Window.stragglers ⟨current, next⟩ (reached next samples)).foldl ev.observe p.state)
          (Window.members ⟨current, next⟩ (reached next samples)) with
      | error e =>
          rw [scanWindows, scanWindow, take_eq] at scanned
          simp only [evaluated, reduceCtorEq] at scanned
      | ok answer =>
          obtain ⟨value, state⟩ := answer
          rw [scanWindows, scanWindow_eq_ok ev start _ evaluated] at scanned
          obtain ⟨kept, first⟩ := step begun evaluated
          obtain ⟨numbers, appended, sized, each⟩ := ih kept scanned
          refine ⟨value :: numbers, ?_, by simp [sized], ?_⟩
          · rw [appended, numbers_add, List.append_assoc]
            rfl
          · intro k w at_k
            cases k with
            | zero =>
                obtain rfl : ⟨current, next⟩ = w := by simpa using at_k
                refine ⟨value, rfl, ?_⟩
                rw [perWindowBefore_zero, List.append_nil, consumedIn_cons_zero tiles]
                exact first
            | succ k =>
                rw [List.getElem?_cons_succ] at at_k
                obtain ⟨other, found, meets⟩ := each at_k
                refine ⟨other, by rw [List.getElem?_cons_succ, found], ?_⟩
                rw [perWindowBefore_cons_succ part tiles, consumedIn_cons_succ tiles,
                  ← List.append_assoc]
                exact meets

/-- The rule for evaluators that heed all they get: `inv` speaks of all samples so far, in the order
in which the evaluator got them. -/
theorem scanWindows_values (inv : List Sample → σ → Prop)
    (spec : Window → List Sample → List Sample → ν → Prop)
    (step : ∀ {w fed segment state value state'}, inv fed state →
      ev.evaluate ((w.stragglers segment).foldl ev.observe state) (w.members segment) =
        .ok (value, state') →
      inv (fed ++ w.order segment) state' ∧ spec w fed segment value)
    (tiles : Tiles stop current windows) {fed samples : List Sample} {p final : Progress σ ν}
    (begun : inv fed p.state) (scanned : scanWindows ev start windows samples p = .ok final) :
    ∃ numbers, final.values.numbers = p.values.numbers ++ numbers ∧
      numbers.length = windows.length ∧
      ∀ {k w}, windows[k]? = some w → ∃ value, numbers[k]? = some value ∧
        spec w (fed ++ fedBefore windows samples k) (consumedIn windows samples k) value :=
  scanWindows_rule Window.order inv spec step tiles begun scanned

/-- The rule for evaluators whose values do not depend on the state. -/
theorem scanWindows_each (spec : List Sample → ν → Prop)
    (step : ∀ {state members value state'}, ev.evaluate state members = .ok (value, state') →
      spec members value)
    (tiles : Tiles stop current windows) {samples : List Sample} {p final : Progress σ ν}
    (scanned : scanWindows ev start windows samples p = .ok final) :
    ∃ numbers, final.values.numbers = p.values.numbers ++ numbers ∧
      numbers.length = windows.length ∧
      ∀ {k : Nat} {w : Window}, windows[k]? = some w → ∃ value, numbers[k]? = some value ∧
        spec (w.members (consumedIn windows samples k)) value :=
  scanWindows_rule (fun _ _ => []) (fun made _ => made = ([] : List Sample))
    (fun w _ segment => spec (w.members segment))
    (fun none_made evaluated => ⟨by rw [none_made, List.append_nil], step evaluated⟩) tiles rfl
    scanned

end Values

/-! ### Queries -/

section Queries

variable [Arithmetic ν] {ev : Evaluator σ ν} {initial : σ} {settings : AggregationSettings}
  {q : Query} {samples : List Sample} {failures : σ → Nat} {s : Series ν}

/-- The scan of a range: a value for each sample, or for each window. -/
def scanRange (ev : Evaluator σ ν) (g : Granularity) (start stop : Timestamp)
    (samples : List Sample) (p : Progress σ ν) : Except Error (Progress σ ν) :=
  if g.isShortest then scanSamples ev start stop samples p
  else scanIntervals ev g start start stop samples p

/-- A query with bounds in order is one scan of its range. -/
theorem scan_of_bounds {start stop : Timestamp} (ordered : start ≤ stop)
    (bounds : resolveBounds q samples = (some start, some stop)) :
    scan ev initial settings q samples failures =
      (scanRange ev (q.granularity.withFloor settings.floor) start stop samples
        ⟨initial, .empty settings.percentile, 0⟩).map fun final =>
          ⟨final.values, q.granularity.withFloor settings.floor, some (start, stop),
            failures final.state, final.skipped⟩ := by
  have inOrder : checkRange start stop = .ok () := if_neg (Std.not_lt.mpr ordered)
  unfold scan
  simp only [bounds, inOrder]
  rw [← scanRange]
  cases scanRange ev (q.granularity.withFloor settings.floor) start stop samples
      ⟨initial, .empty settings.percentile, 0⟩ with
  | error e => rfl
  | ok final => rfl

/-- What a query was that is answered: a scan of its range, or one for the shortest intervals with
nothing that bounds it. -/
theorem scan_eq_ok (answered : scan ev initial settings q samples failures = .ok s) :
    (∃ start stop final, resolveBounds q samples = (some start, some stop) ∧ start ≤ stop ∧
      scanRange ev (q.granularity.withFloor settings.floor) start stop samples
        ⟨initial, .empty settings.percentile, 0⟩ = .ok final ∧
      s = ⟨final.values, q.granularity.withFloor settings.floor, some (start, stop),
        failures final.state, final.skipped⟩) ∨
    ((∀ start stop, resolveBounds q samples ≠ (some start, some stop)) ∧
      (q.granularity.withFloor settings.floor).isShortest = true ∧
      s = ⟨.empty settings.percentile, q.granularity.withFloor settings.floor, none, 0, 0⟩) := by
  rcases bounds : resolveBounds q samples with ⟨_ | start, _ | stop⟩
  case some.some =>
    by_cases reversed : stop < start
    · simp [scan, bounds, checkRange, reversed] at answered
    · have ordered := Std.not_lt.mp reversed
      rw [scan_of_bounds ordered bounds] at answered
      cases scanned : scanRange ev (q.granularity.withFloor settings.floor) start stop samples
          ⟨initial, .empty settings.percentile, 0⟩ with
      | error e => simp [scanned, Except.map] at answered
      | ok final =>
          rw [scanned] at answered
          exact .inl ⟨start, stop, final, rfl, ordered, scanned, (Except.ok.inj answered).symm⟩
  all_goals
    unfold scan at answered
    simp only [bounds] at answered
    split at answered
    · rename_i finest
      refine .inr ⟨fun start stop both => ?_, finest, (Except.ok.inj answered).symm⟩
      cases (Prod.mk.inj both).1 <;> cases (Prod.mk.inj both).2
    · cases answered

end Queries

/-! ### Queries for intervals -/

/-- The windows of a series of intervals. -/
def windows [Arithmetic ν] (s : Series ν) : List Window :=
  match s.range with
  | some (start, stop) => (tile s.granularity start stop).windows
  | none => []

theorem isShortest_withFloor (floor : Duration) (unit : IntervalUnit) (count : Nat) :
    ((Granularity.interval unit count).withFloor floor).isShortest = false := by
  cases unit <;> rfl

/-- A scan of a range that comes to its end was one over windows that all have an end. -/
theorem scanIntervals_eq_ok [Arithmetic ν] {ev : Evaluator σ ν} {g : Granularity}
    {start stop : Timestamp} {samples : List Sample} {p final : Progress σ ν}
    (scanned : scanIntervals ev g start start stop samples p = .ok final) :
    (tile g start stop).overflow = none ∧
      scanWindows ev start (tile g start stop).windows samples p = .ok final := by
  rw [scanIntervals_eq] at scanned
  cases met : scanWindows ev start (tile g start stop).windows samples p with
  | error e => simp [met, Except.bind] at scanned
  | ok final' =>
      cases fits : (tile g start stop).overflow with
      | some unended => simp [met, fits, Except.bind] at scanned
      | none => simpa [met, fits, Except.bind] using scanned

/-- A query for intervals that is answered was one scan over the windows of the series. -/
theorem scan_intervals_eq_ok [Arithmetic ν] {ev : Evaluator σ ν} {initial : σ}
    {settings : AggregationSettings} {q : Query} {unit : IntervalUnit} {count : Nat}
    {samples : List Sample} {failures : σ → Nat} {s : Series ν}
    (intervals : q.granularity = .interval unit count)
    (answered : scan ev initial settings q samples failures = .ok s) :
    ∃ start stop final, resolveBounds q samples = (some start, some stop) ∧
      s.range = some (start, stop) ∧ Tiles stop start s.windows ∧
      scanWindows ev start s.windows samples ⟨initial, .empty settings.percentile, 0⟩ =
        .ok final ∧
      s = ⟨final.values, q.granularity.withFloor settings.floor, some (start, stop),
        failures final.state, final.skipped⟩ := by
  have coarse : (q.granularity.withFloor settings.floor).isShortest = false := by
    rw [intervals]
    exact isShortest_withFloor ..
  rcases scan_eq_ok answered with
    ⟨start, stop, final, bounds, ordered, scanned, rfl⟩ | ⟨-, finest, -⟩
  · rw [scanRange, if_neg (Bool.eq_false_iff.mp coarse)] at scanned
    obtain ⟨fits, scanned⟩ := scanIntervals_eq_ok scanned
    exact ⟨start, stop, final, bounds, rfl, tiles_tile ordered fits, scanned, rfl⟩
  · cases coarse.symm.trans finest

/-- What is seen of an answer is seen of a series that was computed. -/
theorem exists_of_seen {α β : Type} {answer : Except Error α} {see : α → β} {seen : β}
    (same : (answer.map see).toOption = some seen) : ∃ a, answer = .ok a ∧ see a = seen := by
  cases answer with
  | error e => cases same
  | ok a => exact ⟨a, rfl, Option.some.inj same⟩

/-! ### A reading that arrives late -/

/-- The instant that many seconds after the epoch, or the earliest one if there is none. -/
def atSecond (n : Int) : Timestamp :=
  (Timestamp.ofNanos? (n * 1000000000)).getD .earliest

/-- Readings at zero, six and two seconds: the clock was set back before the last one. -/
def lateReadings : List Sample :=
  [⟨1, ⟨0, by decide⟩, .counter ⟨0, none⟩⟩,
   ⟨2, ⟨6000000000, by decide⟩, .counter ⟨10, none⟩⟩,
   ⟨3, ⟨2000000000, by decide⟩, .counter ⟨20, none⟩⟩]

/-- In windows of five seconds, the late reading is seen before the window it arrives in is
evaluated. -/
theorem scanIntervals_calls_lateReadings :
    let ev : Evaluator (CounterState Float) Float := counterEvaluator .totalCount
    let g := Granularity.interval .second 5
    let start : Timestamp := ⟨0, by decide⟩
    let stop : Timestamp := ⟨10000000000, by decide⟩
    (∀ state samples, ∃ answer, ev.evaluate state samples = .ok answer) ∧
    start < stop ∧ (tile g start stop).overflow = none ∧
    ∃ state values,
      scanIntervals ev.logged g start start stop lateReadings ⟨(.initial, []), .empty 0.95, 0⟩ =
        .ok ⟨(state, [.evaluate (lateReadings.take 1), .observe lateReadings[2],
          .evaluate [lateReadings[1]]]), values, 1⟩ := by
  intro ev g start stop
  have total : ∀ state samples, ∃ answer, ev.evaluate state samples = .ok answer :=
    fun state samples => ⟨counterWindow .totalCount state samples, rfl⟩
  have ordered : start < stop := by decide
  have fits : (tile g start stop).overflow = none := by decide +kernel
  obtain ⟨state, values, skipped, -, kept, counted, -⟩ :=
    scanIntervals_calls total ordered fits lateReadings ⟨.initial, .empty 0.95, 0⟩
  have one : (passedOver (tile g start stop).windows (reached stop lateReadings)).countP
      (fun sample => start ≤ sample.timestamp) = 1 := by decide +kernel
  have calls : schedule (tile g start stop).windows (reached stop lateReadings) =
      [.evaluate (lateReadings.take 1), .observe lateReadings[2], .evaluate [lateReadings[1]]] := by
    decide +kernel
  rw [counted, one, calls] at kept
  exact ⟨total, ordered, fits, state, values, kept⟩

end Metering.Series
