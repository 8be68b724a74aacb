import Mathlib.Algebra.Order.Floor.Div
import Mathlib.Tactic.Ring
import Metering.Proofs.Series.Fault

/-!
The ends of the windows.

`Loops` is the loop over the windows of a range with nothing in it that makes it end: a round cuts the
next window off, and the loop goes on from its end. It does end, for windows of at least one unit
(`loops_scanIntervals`), because a window ends after it starts. Where its windows end is told by
`EndsAt`, and in closed form for a unit of fixed width, whose windows are as many as it takes to cover
the range (`rounds`, `tile_windows_width`). `scanIntervals_ends` says this of a whole scan.
-/

namespace Metering.Series

open Metering.Time

variable {σ ν : Type} [Arithmetic ν]

/-- The timestamps of the values, in order. -/
def ValueSet.stamps (s : ValueSet ν) : List Timestamp :=
  s.entries.toList.map (·.timestamp)

theorem stamps_add (values : ValueSet ν) (t : Timestamp) (value : ν) :
    (values.add t value).stamps = values.stamps ++ [t] := by
  simp [ValueSet.stamps, ValueSet.add]

/-! ### The loop ends -/

/-- What the loop over the windows of a range comes to. -/
inductive Loops (ev : Evaluator σ ν) (g : Granularity) (start stop : Timestamp) :
    Timestamp → List Sample → Progress σ ν → Except Error (Progress σ ν) → Prop where
  | done {current : Timestamp} {samples : List Sample} {p : Progress σ ν} :
      ¬ current < stop → Loops ev g start stop current samples p (.ok p)
  /-- The next window has no end. -/
  | unended {current : Timestamp} {samples : List Sample} {p : Progress σ ν} :
      current < stop → g.advance? current = none →
      Loops ev g start stop current samples p (.error (.range (.overflow g current)))
  /-- The next window has no value. -/
  | fault {current next : Timestamp} {samples : List Sample} {p : Progress σ ν} {e : Error} :
      current < stop → g.advance? current = some next →
      scanWindow ev start ⟨current, min next stop⟩ samples p = .error e →
      Loops ev g start stop current samples p (.error e)
  | round {current next : Timestamp} {samples rest : List Sample} {p p' : Progress σ ν}
      {answer : Except Error (Progress σ ν)} :
      current < stop → g.advance? current = some next →
      scanWindow ev start ⟨current, min next stop⟩ samples p = .ok (p', rest) →
      Loops ev g start stop (min next stop) rest p' answer →
      Loops ev g start stop current samples p answer

section Loop

variable {ev : Evaluator σ ν} {unit : IntervalUnit} {count : Nat} {start stop : Timestamp}

/-- The loop comes to an end, whatever the evaluator does. -/
theorem loops_scanIntervals (positive : 0 < count) (current : Timestamp) (samples : List Sample)
    (p : Progress σ ν) :
    Loops ev (.interval unit count) start stop current samples p
      (scanIntervals ev (.interval unit count) start current stop samples p) := by
  fun_induction scanIntervals ev (.interval unit count) start current stop samples p with
  | case1 current samples p before missing => exact .unended before missing
  | case2 current samples p before next ends _ e faulty => exact .fault before ends faulty
  | case3 current samples p before next ends _ p' rest taken ih => exact .round before ends taken ih
  | case4 current samples p before next ends same =>
      exact absurd (Granularity.lt_of_advance? positive ends) same
  | case5 current samples p after => exact .done after

end Loop

/-! ### Where the windows end -/

/-- A window from `a` ends at `b`, where the granularity advances to unless the range ends before. -/
def EndsAt (g : Granularity) (stop a b : Timestamp) : Prop :=
  ∃ next, g.advance? a = some next ∧ b = min next stop

section Ends

variable {unit : IntervalUnit} {count : Nat} {start stop : Timestamp}

theorem Tiles.ends_pairwise {windows : List Window} (tiles : Tiles stop start windows) :
    (start :: windows.map (·.stop)).Pairwise (· < ·) := by
  induction tiles with
  | done => exact List.pairwise_singleton _ _
  | @window start next windows later bounded rest ih =>
      refine List.pairwise_cons.mpr ⟨fun t member => ?_, ih⟩
      rcases List.mem_cons.mp member with rfl | member
      · exact later
      · obtain ⟨w, listed, rfl⟩ := List.mem_map.mp member
        exact Std.lt_trans later (rest.bounds w listed).2.1

/-- The ends that a range is cut at lead from its start to its end, or to an instant from which no
window has an end. -/
theorem tile_ends (unit : IntervalUnit) (positive : 0 < count) (ordered : start ≤ stop) :
    let tiling := tile (.interval unit count) start stop
    let ends := tiling.windows.map (·.stop)
    (start :: ends).IsChain (EndsAt (.interval unit count) stop) ∧
      match tiling.overflow with
      | none => (start :: ends).getLast? = some stop
      | some t => (start :: ends).getLast? = some t ∧ t < stop ∧
          (Granularity.interval unit count).advance? t = none := by
  fun_induction tile (.interval unit count) start stop with
  | case1 start before missing => exact ⟨.singleton _, rfl, before, missing⟩
  | case2 start before next ends later rest ih =>
      have bounded : min next stop ≤ stop := by
        simp only [Timestamp.le_def, Timestamp.nanos_min]
        omega
      obtain ⟨chain, last⟩ := ih bounded
      exact ⟨.cons_cons ⟨next, ends, rfl⟩ chain, last⟩
  | case3 start before next ends same =>
      exact absurd (Granularity.lt_of_advance? positive ends) same
  | case4 start after =>
      obtain rfl : start = stop := by grind
      exact ⟨.singleton _, rfl⟩

end Ends

/-! ### Windows of a fixed width -/

/-- How many windows of the given width it takes to cover a range. -/
def rounds (width : Nat) (start stop : Timestamp) : Nat :=
  (stop.nanos - start.nanos).toNat ⌈/⌉ width

section Width

variable {width : Nat} {start stop next : Timestamp}

theorem rounds_eq_zero (after : ¬ start < stop) : rounds width start stop = 0 := by
  have none_left : (stop.nanos - start.nanos).toNat = 0 := by
    rw [Timestamp.lt_def] at after
    omega
  rw [rounds, none_left, zero_ceilDiv]

/-- A window as wide as what is left of the range is the last one. -/
theorem rounds_eq_one (before : start < stop) (wide : stop.nanos ≤ start.nanos + width) :
    rounds width start stop = 1 := by
  rw [Timestamp.lt_def] at before
  rw [rounds, Nat.ceilDiv_eq_add_pred_div]
  refine Nat.div_eq_of_lt_le ?_ ?_
  · omega
  · omega

theorem rounds_succ (positive : 0 < width) (before : start < stop)
    (advanced : next.nanos = start.nanos + width) :
    rounds width start stop = rounds width (min next stop) stop + 1 := by
  by_cases last : stop ≤ next
  · have cut : ¬ min next stop < stop := by
      rw [Timestamp.lt_def, Timestamp.nanos_min]
      rw [Timestamp.le_def] at last
      omega
    rw [Timestamp.le_def, advanced] at last
    rw [rounds_eq_zero cut, rounds_eq_one before last]
  · rw [Timestamp.le_def] at last
    have left : (stop.nanos - start.nanos).toNat + width - 1 =
        ((stop.nanos - (min next stop).nanos).toNat + width - 1) + width := by
      rw [Timestamp.nanos_min]
      omega
    rw [rounds, rounds, Nat.ceilDiv_eq_add_pred_div, Nat.ceilDiv_eq_add_pred_div, left,
      Nat.add_div_right _ positive]

end Width

section Fixed

variable {unit : IntervalUnit} {count size : Nat} {start stop next : Timestamp}

theorem nanos_of_advance? (fixed : unit.nanos? = some size)
    (ends : (Granularity.interval unit count).advance? start = some next) :
    next.nanos = start.nanos + (count * size : Nat) := by
  rw [Granularity.advance?_interval, Granularity.endNanos, fixed] at ends
  rw [Timestamp.nanos_of_ofNanos? ends, Nat.cast_mul]

theorem lt_of_advance?_eq_none (positive : 0 < count) (fixed : unit.nanos? = some size)
    (missing : (Granularity.interval unit count).advance? start = none) :
    Timestamp.latest.nanos < start.nanos + (count * size : Nat) := by
  rw [Granularity.advance?_eq_none_iff positive, Granularity.endNanos, fixed] at missing
  rw [Nat.cast_mul]
  exact missing

theorem width_pos (positive : 0 < count) (fixed : unit.nanos? = some size) : 0 < count * size := by
  refine Nat.mul_pos positive ?_
  cases unit <;> cases fixed <;> decide

/-- The windows after the first one start a width later, unless there are none. -/
theorem nanos_min_next (stop : Timestamp)
    (advanced : next.nanos = start.nanos + (count * size : Nat)) :
    (min next stop).nanos = start.nanos + (count * size : Nat) ∨
      rounds (count * size) (min next stop) stop = 0 := by
  by_cases more : min next stop < stop
  · left
    rw [Timestamp.lt_def, Timestamp.nanos_min] at more
    rw [Timestamp.nanos_min, ← advanced]
    omega
  · exact .inr (rounds_eq_zero more)

/-- If the last window would end past the last instant, it has no end. All others have one. -/
theorem tile_overflow_width (positive : 0 < count) (fixed : unit.nanos? = some size)
    (start stop : Timestamp) :
    (tile (.interval unit count) start stop).overflow.map (·.nanos) =
      if Timestamp.latest.nanos < start.nanos + rounds (count * size) start stop * (count * size : Nat)
      then some (start.nanos + (rounds (count * size) start stop - 1) * (count * size : Nat))
      else none := by
  fun_induction tile (.interval unit count) start stop with
  | case1 start before missing =>
      have past := lt_of_advance?_eq_none positive fixed missing
      have one : rounds (count * size) start stop = 1 := by
        have inRange := stop.inRange
        refine rounds_eq_one before ?_
        simp only [Timestamp.latest] at past
        omega
      rw [one, Nat.cast_one, one_mul, if_pos past, sub_self, zero_mul, add_zero]
      rfl
  | case2 start before next ends later rest ih =>
      have advanced := nanos_of_advance? fixed ends
      rw [rounds_succ (width_pos positive fixed) before advanced]
      refine ih.trans ?_
      rcases nanos_min_next stop advanced with onward | none_left
      · rw [onward]
        push_cast
        ring_nf
      · have inRange := (min next stop).inRange
        have inRange' := next.inRange
        rw [none_left, if_neg, if_neg]
        · simp only [Timestamp.latest]
          omega
        · simp only [Timestamp.latest]
          omega
  | case3 start before next ends same =>
      exact absurd (Granularity.lt_of_advance? positive ends) same
  | case4 start after =>
      have inRange := start.inRange
      rw [rounds_eq_zero after, if_neg]
      · rfl
      · simp only [Timestamp.latest]
        omega

/-- A range is cut at every multiple of the width, and at its end. -/
theorem tile_windows_width (positive : 0 < count) (fixed : unit.nanos? = some size)
    {start stop : Timestamp} (fits : (tile (.interval unit count) start stop).overflow = none) :
    (tile (.interval unit count) start stop).windows.map (·.stop.nanos) =
      (List.range (rounds (count * size) start stop)).map fun k : Nat =>
        min (start.nanos + (k + 1) * (count * size : Nat)) stop.nanos := by
  fun_induction tile (.interval unit count) start stop with
  | case1 start before missing => cases fits
  | case2 start before next ends later rest ih =>
      have advanced := nanos_of_advance? fixed ends
      rw [rounds_succ (width_pos positive fixed) before advanced, List.range_succ_eq_map,
        List.map_cons, List.map_cons, List.map_map, ih fits]
      congr 1
      · rw [Timestamp.nanos_min, advanced, Nat.cast_zero, zero_add, one_mul]
      · rcases nanos_min_next stop advanced with onward | none_left
        · refine List.map_congr_left fun k _ => ?_
          rw [onward, Function.comp_apply]
          push_cast
          ring_nf
        · rw [none_left]
          rfl
  | case3 start before next ends same =>
      exact absurd (Granularity.lt_of_advance? positive ends) same
  | case4 start after =>
      rw [rounds_eq_zero after]
      rfl

end Fixed

/-! ### Scans -/

section Scan

variable {ev : Evaluator σ ν} {unit : IntervalUnit} {count : Nat} {start stop : Timestamp}

/-- A scan that succeeds has one value for each window, stamped with its end. -/
theorem scanWindows_stamps {windows : List Window} {samples : List Sample} {p final : Progress σ ν}
    (scanned : scanWindows ev start windows samples p = .ok final) :
    final.values.stamps = p.values.stamps ++ windows.map (·.stop) := by
  induction windows generalizing samples p with
  | nil =>
      cases scanned
      rw [List.map_nil, List.append_nil]
  | cons w windows ih =>
      rw [scanWindows] at scanned
      cases taken : scanWindow ev start w samples p with
      | error e => simp [taken] at scanned
      | ok step =>
          obtain ⟨p', rest⟩ := step
          simp only [taken] at scanned
          have added : p'.values.stamps = p.values.stamps ++ [w.stop] := by
            unfold scanWindow at taken
            simp only at taken
            split at taken
            · cases taken
            · cases taken
              exact stamps_add ..
          rw [ih scanned, added, List.append_assoc]
          rfl

theorem exists_scanWindows_eq_ok
    (total : ∀ state samples, ∃ answer, ev.evaluate state samples = .ok answer) (start : Timestamp)
    (windows : List Window) (samples : List Sample) (p : Progress σ ν) :
    ∃ final, scanWindows ev start windows samples p = .ok final := by
  induction windows generalizing samples p with
  | nil => exact ⟨p, rfl⟩
  | cons w windows ih =>
      obtain ⟨⟨value, state⟩, evaluated⟩ := total
        ((w.stragglers (reached w.stop samples)).foldl ev.observe p.state)
        (w.members (reached w.stop samples))
      rw [scanWindows, scanWindow_eq_ok ev start w evaluated]
      exact ih _ _

/-- For an evaluator that never fails, a scan is refused just if a window has no end, and otherwise
has a value for each window. -/
theorem scanIntervals_of_total
    (total : ∀ state samples, ∃ answer, ev.evaluate state samples = .ok answer)
    (g : Granularity) (start stop : Timestamp) (samples : List Sample) (p : Progress σ ν) :
    match (tile g start stop).overflow with
    | some t => scanIntervals ev g start start stop samples p = .error (.range (.overflow g t))
    | none => ∃ final, scanIntervals ev g start start stop samples p = .ok final ∧
        final.values.stamps = p.values.stamps ++ (tile g start stop).windows.map (·.stop) := by
  obtain ⟨final, scanned⟩ :=
    exists_scanWindows_eq_ok total start (tile g start stop).windows samples p
  rw [scanIntervals_eq, scanned]
  cases (tile g start stop).overflow with
  | some t => rfl
  | none => exact ⟨final, rfl, scanWindows_stamps scanned⟩

/-- **The windows of a scan tile its range.** For windows of at least one unit the loop ends. With a
unit of fixed width it is refused just if the last of the windows that cover the range would end past
the last instant; otherwise every one of them has a value, stamped with its end. With any unit the
windows end one after the other, the next one where the granularity advances to from the one before,
up to the end of the range; or the scan is refused for an instant from which there is no advance. -/
theorem scanIntervals_ends
    (total : ∀ state samples, ∃ answer, ev.evaluate state samples = .ok answer)
    (unit : IntervalUnit) (positive : 0 < count) (ordered : start < stop) (samples : List Sample)
    (p : Progress σ ν) :
    let g := Granularity.interval unit count
    let scanned := scanIntervals ev g start start stop samples p
    Loops ev g start stop start samples p scanned ∧
    (∀ {size : Nat}, unit.nanos? = some size →
      let width := count * size
      let n := rounds width start stop
      ((∃ t, scanned = .error (.range (.overflow g t))) ↔
        Timestamp.latest.nanos < start.nanos + n * width) ∧
      (start.nanos + n * width ≤ Timestamp.latest.nanos → ∃ final added,
        scanned = .ok final ∧ final.values.stamps = p.values.stamps ++ added ∧
        added.map (·.nanos) =
          (List.range n).map fun k : Nat => min (start.nanos + (k + 1) * width) stop.nanos)) ∧
    ∃ ends : List Timestamp, (start :: ends).Pairwise (· < ·) ∧
      (start :: ends).IsChain (EndsAt g stop) ∧
      (((start :: ends).getLast? = some stop ∧ ∃ final, scanned = .ok final ∧
          final.values.stamps = p.values.stamps ++ ends) ∨
        ∃ t, (start :: ends).getLast? = some t ∧ t < stop ∧ g.advance? t = none ∧
          scanned = .error (.range (.overflow g t))) := by
  intro g scanned
  have outcome := scanIntervals_of_total total g start stop samples p
  obtain ⟨chain, last⟩ := tile_ends unit positive (Std.le_of_lt ordered)
  have tiles := tiles_tile_upTo (g := g) (Std.le_of_lt ordered)
  refine ⟨loops_scanIntervals positive start samples p, ?fixed, _, tiles.ends_pairwise, chain, ?ends⟩
  case fixed =>
    intro size fixed width n
    have overflow := tile_overflow_width positive fixed start stop
    cases unended : (tile g start stop).overflow with
    | some t =>
        rw [unended, Option.map_some] at overflow
        rw [unended] at outcome
        have past : Timestamp.latest.nanos < start.nanos + n * width := by
          by_contra within
          rw [if_neg within] at overflow
          cases overflow
        exact ⟨⟨fun _ => past, fun _ => ⟨t, outcome⟩⟩, fun within => absurd past (by omega)⟩
    | none =>
        rw [unended, Option.map_none] at overflow
        rw [unended] at outcome
        have within : ¬ Timestamp.latest.nanos < start.nanos + n * width := by
          intro past
          rw [if_pos past] at overflow
          cases overflow
        obtain ⟨final, answered, stamps⟩ := outcome
        refine ⟨⟨?_, fun past => absurd past within⟩, fun _ => ⟨final, _, answered, stamps, ?_⟩⟩
        · rintro ⟨t, refused⟩
          cases refused.symm.trans answered
        · rw [List.map_map]
          exact tile_windows_width positive fixed unended
  case ends =>
    cases unended : (tile g start stop).overflow with
    | none =>
        rw [unended] at last outcome
        exact .inl ⟨last, outcome⟩
    | some t =>
        rw [unended] at last outcome
        exact .inr ⟨t, last.1, last.2.1, last.2.2, outcome⟩

end Scan

/-- Windows of two seconds over five seconds, the same up to the last instant, and windows of a month
from the last day of January of a leap year. -/
theorem scanIntervals_ends_leapYear :
    let ev : Evaluator (TrendState Float) Float := trendEvaluator none .fail
    let p : Progress (TrendState Float) Float := ⟨.initial, .empty 0.95, 0⟩
    let scan (g : Granularity) (start stop : Timestamp) := scanIntervals ev g start start stop [] p
    let nearly : Timestamp := ⟨8210266876798999999999, by decide⟩
    let january := atSecond 1706659200
    let march := atSecond 1711670400
    (∀ state samples, ∃ answer, ev.evaluate state samples = .ok answer) ∧ 0 < 2 ∧
    (∃ final, scan (.interval .second 2) (atSecond 0) (atSecond 5) = .ok final ∧
      final.values.stamps.map (·.nanos) = [2000000000, 4000000000, 5000000000]) ∧
    (∃ t, scan (.interval .second 2) nearly .latest =
      .error (.range (.overflow (.interval .second 2) t))) ∧
    ∃ final, scan (.interval .month 1) january (atSecond 1712707200) = .ok final ∧
      final.values.stamps = [atSecond 1709164800, march, atSecond 1712707200] ∧
      EndsAt (.interval .month 1) (atSecond 1712707200) (atSecond 1709164800) march := by
  intro ev p scan nearly january march
  have total : ∀ state samples, ∃ answer, ev.evaluate state samples = .ok answer :=
    fun state samples => ⟨_, rfl⟩
  refine ⟨total, by decide, ?seconds, ?past, ?months⟩
  case seconds =>
    obtain ⟨-, fixed, -⟩ := scanIntervals_ends total .second (show 0 < 2 by decide)
      (show atSecond 0 < atSecond 5 by decide) [] p
    obtain ⟨final, added, answered, stamps, ends⟩ := (fixed rfl).2 (by decide +kernel)
    refine ⟨final, answered, ?_⟩
    rw [stamps, List.map_append, ends]
    decide +kernel
  case past =>
    obtain ⟨-, fixed, -⟩ := scanIntervals_ends total .second (show 0 < 2 by decide)
      (show nearly < .latest by decide) [] p
    exact (fixed rfl).1.mpr (by decide +kernel)
  case months =>
    have seen : ((scan (.interval .month 1) january (atSecond 1712707200)).map fun final =>
        final.values.stamps).toOption =
          some [atSecond 1709164800, march, atSecond 1712707200] := by decide +kernel
    obtain ⟨final, answered, stamps⟩ := exists_of_seen seen
    obtain ⟨-, -, ends, -, chain, ⟨-, final', answered', stamps'⟩ | ⟨t, -, -, -, refused⟩⟩ :=
      scanIntervals_ends total .month (show 0 < 1 by decide)
        (show january < atSecond 1712707200 by decide) [] p
    · obtain rfl : final = final' := Except.ok.inj (answered.symm.trans answered')
      obtain rfl : ends = [atSecond 1709164800, march, atSecond 1712707200] :=
        stamps'.symm.trans stamps
      refine ⟨final, answered, stamps, ?_⟩
      exact (List.isChain_cons_cons.mp (List.isChain_cons_cons.mp chain).2).1
    · cases answered.symm.trans refused

end Metering.Series
