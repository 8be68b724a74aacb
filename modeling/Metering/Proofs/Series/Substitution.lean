import Metering.Proofs.Series.Bounds

/-!
Values that are taken as zero.

A value that is to be trended and is no number is taken as zero, or makes the series fail, as the
policy has it. The evaluators of the two policies agree on all other samples, and of those they
evaluate the lenient one counts the rest (`Coercing`). So a lenient series that counts none is the
strict one too (`scan_of_readable`), and one that counts some is refused by the strict policy for the
first of them, which comes before anything else that the scan could have been refused for
(`refusal_scan_fail`). `run_compute_policies` says this of any query after any run.
-/

namespace Metering

open Metering.Time

namespace Series

/-- The sample has a value that is to be trended, but is no number. -/
def unreadable (target : Option TrendTarget) (sample : Sample) : Bool :=
  match target with
  | none => false
  | some t => !t.isCounted && (sample.value? t.index).any fun value => value.number?.isNone

/-- The samples in the windows of a series, in order; for the shortest intervals, those that have a
value. -/
def windowed {ν : Type} [Arithmetic ν] (s : Series ν) (samples : List Sample) : List Sample :=
  match s.range with
  | some (start, stop) => evaluated s.granularity start stop samples
  | none => []

/-- Evaluators, one for each policy, that differ in what they make of unreadable samples. -/
structure Coercing {σ ν : Type} (ev : CoercionPolicy → Evaluator σ ν) (failures : σ → Nat)
    (target : Option TrendTarget) : Prop where
  observe : ∀ policy policy', (ev policy').observe = (ev policy).observe
  unnoticed : ∀ policy state sample, failures ((ev policy).observe state sample) = failures state
  /-- What is unreadable is counted. -/
  counts : ∀ {policy state state' value} {members : List Sample},
    (ev policy).evaluate state members = .ok (value, state') →
      failures state' = failures state + members.countP (unreadable target)
  agrees : ∀ {policy policy' state} {members : List Sample},
    (∀ sample ∈ members, unreadable target sample = false) →
      (ev policy').evaluate state members = (ev policy).evaluate state members
  refuses : ∀ policy state (members : List Sample),
    refusal? ((ev policy).evaluate state members) =
      members.findSome? (unconvertible? policy target)

/-! ### Unreadable samples -/

section Unreadable

variable {t : TrendTarget} {target : Option TrendTarget} {sample : Sample} {e : Error}

theorem unconvertible?_fail_eq_some (refused : unconvertible? .fail target sample = some e) :
    ∃ t value, target = some t ∧ t.isCounted = false ∧ sample.value? t.index = some value ∧
      value.number? = none ∧ e = .coercion t.column.name value.written := by
  cases target with
  | none => cases refused
  | some t =>
      cases counted : t.isCounted with
      | true => simp [unconvertible?, counted] at refused
      | false =>
          simp only [unconvertible?, counted, Bool.false_eq_true, if_false,
            Option.bind_eq_some_iff, Option.ite_none_right_eq_some, Option.some.injEq,
            Option.isNone_iff_eq_none] at refused
          obtain ⟨value, held, no_number, rfl⟩ := refused
          exact ⟨t, value, rfl, counted, held, no_number, rfl⟩

theorem unconvertible?_fail_eq_none_iff :
    unconvertible? .fail target sample = none ↔ unreadable target sample = false := by
  cases target with
  | none => simp [unconvertible?, unreadable]
  | some t =>
      cases counted : t.isCounted with
      | true => simp [unconvertible?, unreadable, counted]
      | false =>
          cases held : sample.value? t.index with
          | none => simp [unconvertible?, unreadable, counted, held]
          | some value =>
              simp [unconvertible?, unreadable, counted, held, Option.isSome_iff_ne_none]

/-- Of samples that are not all readable, the first one that is not is refused. -/
theorem first_unreadable {samples : List Sample}
    (some_unreadable : 0 < samples.countP (unreadable target)) :
    ∃ t before sample after value, target = some t ∧ t.isCounted = false ∧
      samples = before ++ sample :: after ∧
      (∀ earlier ∈ before, unreadable target earlier = false) ∧
      sample.value? t.index = some value ∧ value.number? = none ∧
      samples.findSome? (unconvertible? .fail target) =
        some (.coercion t.column.name value.written) := by
  obtain ⟨other, listed, bad⟩ := List.countP_pos_iff.mp some_unreadable
  cases found : samples.findSome? (unconvertible? .fail target) with
  | none =>
      have readable := List.findSome?_eq_none_iff.mp found other listed
      rw [unconvertible?_fail_eq_none_iff, bad] at readable
      cases readable
  | some e =>
      obtain ⟨before, sample, after, split, met, none_before⟩ :=
        List.findSome?_eq_some_iff.mp found
      obtain ⟨t, value, trended, trends, held, no_number, rfl⟩ := unconvertible?_fail_eq_some met
      exact ⟨t, before, sample, after, value, trended, trends, split,
        fun earlier member => unconvertible?_fail_eq_none_iff.mp (none_before earlier member), held,
        no_number, rfl⟩

/-- The position that a column got when its set was locked does not matter. -/
theorem unreadable_position (column : Column) (position : Option Nat) (index : Nat) :
    unreadable (some ⟨{ column with index := position }, index⟩) =
      unreadable (some ⟨column, index⟩) :=
  rfl

end Unreadable

/-! ### Evaluators under a policy -/

section Evaluators

variable {ν : Type} [Arithmetic ν] {t : TrendTarget} {policy policy' : CoercionPolicy}
  {samples : List Sample}

/-- A contribution that is not refused is substituted just if the sample is unreadable. -/
theorem substituted_eq (trends : t.isCounted = false) {sample : Sample} {x : ν} {substituted : Bool}
    (given : contribution t policy sample = .ok (x, substituted)) :
    substituted = unreadable (some t) sample := by
  unfold contribution at given
  cases held : sample.value? t.index with
  | none =>
      rw [held] at given
      simpa [unreadable, held] using (congrArg Prod.snd (Except.ok.inj given)).symm
  | some value =>
      cases number : value.number? with
      | some x' =>
          simp only [held, number, Except.ok.injEq, Prod.mk.injEq] at given
          simp [unreadable, held, number, given.2]
      | none =>
          cases policy with
          | fail => simp [held, number] at given
          | substituteZero =>
              simp only [held, number, Except.ok.injEq, Prod.mk.injEq] at given
              simp [unreadable, trends, held, number, ← given.2]

theorem contribution_of_readable (policy policy' : CoercionPolicy) (trends : t.isCounted = false)
    {sample : Sample} (readable : unreadable (some t) sample = false) :
    (contribution t policy' sample : Except Error (ν × Bool)) = contribution t policy sample := by
  cases held : sample.value? t.index with
  | none => simp only [contribution, held]
  | some value =>
      cases number : value.number? with
      | some x => simp only [contribution, held, number]
      | none => simp [unreadable, trends, held, number] at readable

theorem accumulate_counts (trends : t.isCounted = false) {acc acc' : RunningSum ν}
    {failures failures' : Nat}
    (added : accumulate t policy samples acc failures = .ok (acc', failures')) :
    failures' = failures + samples.countP (unreadable (some t)) := by
  -- On the samples: each adds what it contributes, and one to the failures if it was substituted.
  induction samples generalizing acc failures with
  | nil => exact (congrArg Prod.snd (Except.ok.inj added)).symm
  | cons sample rest ih =>
      rw [accumulate] at added
      cases given : (contribution t policy sample : Except Error (ν × Bool)) with
      | error e => simp [given] at added
      | ok answer =>
          obtain ⟨x, substituted⟩ := answer
          simp only [given] at added
          rw [ih added, List.countP_cons, substituted_eq trends given]
          split <;> omega

theorem accumulate_of_readable (policy policy' : CoercionPolicy) (trends : t.isCounted = false)
    (acc : RunningSum ν) (failures : Nat)
    (readable : ∀ sample ∈ samples, unreadable (some t) sample = false) :
    accumulate t policy' samples acc failures = accumulate t policy samples acc failures := by
  induction samples generalizing acc failures with
  | nil => rfl
  | cons sample rest ih =>
      have ih := fun acc failures =>
        ih acc failures fun other listed => readable other (List.mem_cons_of_mem _ listed)
      have first : (contribution t policy' sample : Except Error (ν × Bool)) = _ :=
        contribution_of_readable policy policy' trends (readable sample List.mem_cons_self)
      simp only [accumulate, first, ih]

theorem trendWindow_counts {target : Option TrendTarget} {state state' : TrendState ν} {value : ν}
    (evaluated : trendWindow target policy state samples = .ok (value, state')) :
    state'.failures = state.failures + samples.countP (unreadable target) := by
  have none_counted : ∀ {target : Option TrendTarget},
      (∀ sample, unreadable target sample = false) → samples.countP (unreadable target) = 0 :=
    fun readable => List.countP_eq_zero.mpr fun sample _ => by simp [readable sample]
  cases target with
  | none =>
      cases evaluated
      rw [none_counted fun _ => rfl]
      rfl
  | some t =>
      cases counted : t.isCounted with
      | true =>
          simp only [trendWindow, counted, if_true, Except.ok.injEq, Prod.mk.injEq] at evaluated
          rw [← evaluated.2, none_counted fun sample => by simp [unreadable, counted]]
          rfl
      | false =>
          simp only [trendWindow, counted, Bool.false_eq_true, if_false] at evaluated
          split at evaluated
          · cases evaluated
          · rename_i acc failures added
            cases evaluated
            exact accumulate_counts counted added

theorem trendWindow_of_readable {target : Option TrendTarget} (state : TrendState ν)
    (readable : ∀ sample ∈ samples, unreadable target sample = false) :
    trendWindow target policy' state samples = trendWindow target policy state samples := by
  cases target with
  | none => rfl
  | some t =>
      cases counted : t.isCounted with
      | true => simp only [trendWindow, counted, if_true]
      | false =>
          simp only [trendWindow, counted, Bool.false_eq_true, if_false,
            accumulate_of_readable policy policy' counted _ _ readable]

theorem coercing_trendEvaluator (target : Option TrendTarget) :
    Coercing (fun policy => (trendEvaluator target policy : Evaluator (TrendState ν) ν))
      (·.failures) target where
  observe _ _ := rfl
  unnoticed _ _ _ := rfl
  counts evaluated := trendWindow_counts evaluated
  agrees readable := trendWindow_of_readable _ readable
  refuses policy state members := refusal_trendWindow target policy state members

/-- A counter has nothing to convert. -/
theorem coercing_counterEvaluator (type : SamplingType) :
    Coercing (fun _ => (counterEvaluator type : Evaluator (CounterState ν) ν)) (fun _ => 0)
      none where
  observe _ _ := rfl
  unnoticed _ _ _ := rfl
  counts := fun {_ _ _ _ members} _ => by
    rw [List.countP_eq_zero.mpr fun sample _ => by simp [unreadable]]
  agrees _ := rfl
  refuses policy _ members := by
    rw [List.findSome?_eq_none_iff.mpr fun sample _ => unconvertible?_none policy sample]
    rfl

end Evaluators

/-! ### Scans under a policy -/

section Scan

variable {σ ν : Type} {ev : CoercionPolicy → Evaluator σ ν} {failures : σ → Nat}
  {target : Option TrendTarget} {policy policy' : CoercionPolicy}

theorem Coercing.congr {target' : Option TrendTarget} (coercing : Coercing ev failures target)
    (reads : unreadable target' = unreadable target)
    (refuses : ∀ policy, unconvertible? policy target' = unconvertible? policy target) :
    Coercing ev failures target' where
  observe := coercing.observe
  unnoticed := coercing.unnoticed
  counts := by
    rw [reads]
    exact coercing.counts
  agrees := by
    rw [reads]
    exact coercing.agrees
  refuses policy := by
    rw [refuses policy]
    exact coercing.refuses policy

theorem Coercing.foldl_unnoticed (coercing : Coercing ev failures target) (late : List Sample)
    (state : σ) : failures (late.foldl (ev policy).observe state) = failures state := by
  induction late generalizing state with
  | nil => rfl
  | cons sample rest ih => rw [List.foldl_cons, ih, coercing.unnoticed]

variable [Arithmetic ν] {start current stop : Timestamp} {windows : List Window}
  {samples : List Sample} {p final : Progress σ ν}

theorem perWindow_members_sublist (tiles : Tiles stop current windows) (samples : List Sample) :
    (perWindow Window.members windows samples).Sublist samples := by
  induction tiles generalizing samples with
  | done => exact List.nil_sublist _
  | @window current next windows later bounded rest ih =>
      rw [perWindow_cons _ (Tiles.window later bounded rest)]
      conv => rhs; rw [← reached_append_unreached next samples]
      exact List.filter_sublist.append (ih _)

/-- A scan over windows counts the unreadable ones among their members. -/
theorem scanWindows_counts (coercing : Coercing ev failures target)
    (tiles : Tiles stop current windows)
    (scanned : scanWindows (ev policy) start windows samples p = .ok final) :
    failures final.state = failures p.state +
      (perWindow Window.members windows samples).countP (unreadable target) := by
  -- On the windows: what a window passes over is not counted, and its members are.
  induction tiles generalizing samples p with
  | done =>
      cases scanned
      rfl
  | @window current next windows later bounded rest ih =>
      cases evaluated : (ev policy).evaluate
          ((Window.stragglers ⟨current, next⟩ (reached next samples)).foldl (ev policy).observe
            p.state)
          (Window.members ⟨current, next⟩ (reached next samples)) with
      | error e =>
          rw [scanWindows, scanWindow, take_eq] at scanned
          simp only [evaluated, reduceCtorEq] at scanned
      | ok answer =>
          obtain ⟨value, state⟩ := answer
          rw [scanWindows, scanWindow_eq_ok _ start _ evaluated] at scanned
          rw [ih scanned, coercing.counts evaluated, coercing.foldl_unnoticed,
            perWindow_cons _ (Tiles.window later bounded rest), List.countP_append, Nat.add_assoc]

/-- If all members can be read, the policy does not matter. -/
theorem scanWindows_of_readable (coercing : Coercing ev failures target)
    (tiles : Tiles stop current windows)
    (readable : ∀ sample ∈ perWindow Window.members windows samples,
      unreadable target sample = false) :
    scanWindows (ev policy') start windows samples p =
      scanWindows (ev policy) start windows samples p := by
  induction tiles generalizing samples p with
  | done => rfl
  | @window current next windows later bounded rest ih =>
      rw [perWindow_cons _ (Tiles.window later bounded rest)] at readable
      have here := @Coercing.agrees _ _ _ _ _ coercing policy policy'
        ((Window.stragglers ⟨current, next⟩ (reached next samples)).foldl (ev policy).observe p.state)
        _ fun sample member => readable sample (List.mem_append_left _ member)
      rw [scanWindows, scanWindows, scanWindow, scanWindow, take_eq, take_eq,
        coercing.observe policy policy']
      simp only [here]
      cases (ev policy).evaluate
          ((Window.stragglers ⟨current, next⟩ (reached next samples)).foldl (ev policy).observe
            p.state)
          (Window.members ⟨current, next⟩ (reached next samples)) with
      | error e => rfl
      | ok answer => exact ih fun sample member => readable sample (List.mem_append_right _ member)

theorem scanSamples_counts (coercing : Coercing ev failures target) (ordered : start ≤ stop)
    (scanned : scanSamples (ev policy) start stop samples p = .ok final) :
    failures final.state = failures p.state +
      (Window.members ⟨start, stop⟩ (reached stop samples)).countP (unreadable target) := by
  induction samples generalizing p with
  | nil =>
      cases scanned
      rfl
  | cons sample rest ih =>
      rw [scanSamples] at scanned
      by_cases early : sample.timestamp < start
      · rw [if_pos early] at scanned
        rw [reached_cons_of_le (Std.le_trans (Std.le_of_lt early) ordered),
          Window.members_cons_of_lt early, ih scanned, coercing.unnoticed]
      · rw [if_neg early] at scanned
        by_cases past : stop < sample.timestamp
        · rw [if_pos past] at scanned
          cases scanned
          rw [reached_cons_of_lt past]
          rfl
        · rw [if_neg past] at scanned
          cases evaluated : (ev policy).evaluate p.state [sample] with
          | error e => simp [evaluated] at scanned
          | ok answer =>
              simp only [evaluated] at scanned
              rw [ih scanned, coercing.counts evaluated, reached_cons_of_le (Std.not_lt.mp past),
                Window.members_cons_of_le (Std.not_lt.mp early), List.countP_singleton,
                List.countP_cons, Nat.add_assoc, Nat.add_comm (List.countP ..)]

theorem scanSamples_of_readable (coercing : Coercing ev failures target) (ordered : start ≤ stop)
    (readable : ∀ sample ∈ Window.members ⟨start, stop⟩ (reached stop samples),
      unreadable target sample = false) :
    scanSamples (ev policy') start stop samples p =
      scanSamples (ev policy) start stop samples p := by
  induction samples generalizing p with
  | nil => rfl
  | cons sample rest ih =>
      rw [scanSamples, scanSamples]
      by_cases early : sample.timestamp < start
      · rw [reached_cons_of_le (Std.le_trans (Std.le_of_lt early) ordered),
          Window.members_cons_of_lt early] at readable
        rw [if_pos early, if_pos early, coercing.observe policy policy']
        exact ih readable
      · by_cases past : stop < sample.timestamp
        · rw [if_neg early, if_neg early, if_pos past, if_pos past]
        · rw [reached_cons_of_le (Std.not_lt.mp past),
            Window.members_cons_of_le (Std.not_lt.mp early)] at readable
          have here : (ev policy').evaluate p.state [sample] =
              (ev policy).evaluate p.state [sample] := by
            refine coercing.agrees fun other only => ?_
            rw [List.mem_singleton.mp only]
            exact readable sample List.mem_cons_self
          rw [if_neg early, if_neg early, if_neg past, if_neg past, here]
          cases (ev policy).evaluate p.state [sample] with
          | error e => rfl
          | ok answer => exact ih fun other member => readable other (List.mem_cons_of_mem _ member)

theorem scanRange_counts (coercing : Coercing ev failures target) (ordered : start ≤ stop)
    {g : Granularity} (scanned : scanRange (ev policy) g start stop samples p = .ok final) :
    failures final.state = failures p.state +
      (evaluated g start stop samples).countP (unreadable target) := by
  unfold scanRange at scanned
  unfold evaluated
  split at scanned
  · rename_i finest
    rw [if_pos finest]
    exact scanSamples_counts coercing ordered scanned
  · rename_i coarse
    rw [if_neg coarse]
    exact scanWindows_counts coercing (tiles_tile_upTo ordered) (scanIntervals_eq_ok scanned).2

theorem scanRange_of_readable (coercing : Coercing ev failures target) (ordered : start ≤ stop)
    {g : Granularity}
    (readable : ∀ sample ∈ evaluated g start stop samples, unreadable target sample = false) :
    scanRange (ev policy') g start stop samples p =
      scanRange (ev policy) g start stop samples p := by
  unfold evaluated at readable
  unfold scanRange
  split
  · rename_i finest
    rw [if_pos finest] at readable
    exact scanSamples_of_readable coercing ordered readable
  · rename_i coarse
    rw [if_neg coarse] at readable
    rw [scanIntervals_eq, scanIntervals_eq,
      scanWindows_of_readable coercing (tiles_tile_upTo ordered) readable]

/-- The lenient policy refuses a range just for a window that has no end. -/
theorem refusal_scanRange_lenient (coercing : Coercing ev failures target) (ordered : start ≤ stop)
    (g : Granularity) (samples : List Sample) (p : Progress σ ν) :
    refusal? (scanRange (ev .substituteZero) g start stop samples p) = overflow? g start stop := by
  have converted : (evaluated g start stop samples).findSome?
      (unconvertible? .substituteZero target) = none :=
    List.findSome?_eq_none_iff.mpr fun _ _ => rfl
  rw [refusal_scanRange (coercing.refuses .substituteZero) ordered, converted, Option.none_or]

/-- The samples of the windows of a range are in the order of the store. -/
theorem evaluated_sublist (ordered : start ≤ stop) (g : Granularity) (samples : List Sample) :
    (evaluated g start stop samples).Sublist samples := by
  unfold evaluated
  split
  · exact List.filter_sublist.trans (List.takeWhile_sublist _)
  · exact perWindow_members_sublist (tiles_tile_upTo ordered) samples

/-! ### Series under a policy -/

variable {initial : σ} {settings : AggregationSettings} {q : Query} {s : Series ν}

/-- A series that nothing bounds does not depend on the evaluator. -/
theorem scan_of_unbounded {ev ev' : Evaluator σ ν}
    (unbounded : ∀ start stop, resolveBounds q samples ≠ (some start, some stop)) :
    scan ev' initial settings q samples failures = scan ev initial settings q samples failures := by
  unfold scan
  split
  · rename_i start stop bounds
    exact absurd bounds (unbounded start stop)
  · rfl

/-- What is unreadable in the windows is counted. -/
theorem scan_counts (coercing : Coercing ev failures target) (fresh : failures initial = 0)
    (answered : scan (ev policy) initial settings q samples failures = .ok s) :
    s.coercionFailures = (s.windowed samples).countP (unreadable target) := by
  rcases scan_eq_ok answered with ⟨start, stop, final, -, ordered, scanned, rfl⟩ | ⟨-, -, rfl⟩
  · have counted := scanRange_counts coercing ordered scanned
    rw [fresh, Nat.zero_add] at counted
    exact counted
  · rfl

/-- A series whose windows can be read is the same under every policy. -/
theorem scan_of_readable (coercing : Coercing ev failures target)
    (answered : scan (ev policy) initial settings q samples failures = .ok s)
    (readable : ∀ sample ∈ s.windowed samples, unreadable target sample = false) :
    scan (ev policy') initial settings q samples failures = .ok s := by
  rcases scan_eq_ok answered with ⟨start, stop, final, bounds, ordered, scanned, rfl⟩ |
    ⟨unbounded, -, -⟩
  · rw [scan_of_bounds ordered bounds, scanRange_of_readable coercing ordered readable, scanned]
    rfl
  · rw [scan_of_unbounded unbounded, answered]

/-- Where the lenient policy has a series, only an unreadable sample makes the strict one fail. -/
theorem refusal_scan_fail (coercing : Coercing ev failures target)
    (answered : scan (ev .substituteZero) initial settings q samples failures = .ok s) :
    refusal? (scan (ev .fail) initial settings q samples failures) =
      (s.windowed samples).findSome? (unconvertible? .fail target) := by
  rcases scan_eq_ok answered with ⟨start, stop, final, bounds, ordered, scanned, rfl⟩ |
    ⟨unbounded, -, rfl⟩
  · have ends := refusal_scanRange_lenient coercing ordered
      (q.granularity.withFloor settings.floor) samples ⟨initial, .empty settings.percentile, 0⟩
    rw [scanned] at ends
    rw [scan_of_bounds ordered bounds, refusal?_map,
      refusal_scanRange (coercing.refuses .fail) ordered, ← ends]
    exact Option.or_none
  · rw [scan_of_unbounded unbounded, answered]
    rfl

/-- What the lenient policy refuses, the strict one refuses too: for the same reason, or for a sample
that comes before it. -/
theorem refusal_scan_refused (coercing : Coercing ev failures target)
    (checked : checkBounds q = .ok ()) {e : Error}
    (refused : scan (ev .substituteZero) initial settings q samples failures = .error e) :
    ∃ e', scan (ev .fail) initial settings q samples failures = .error e' ∧
      (e' = e ∨ ∃ column value, e' = .coercion column value) := by
  rcases resolveBounds_cases checked samples with ⟨start, stop, bounds, ordered⟩ | ⟨bounds, -⟩
  · -- The windows are the same, so the strict policy meets what the lenient one was refused for,
    -- unless it meets a sample before that.
    have lenient : refusal? (scan (ev .substituteZero) initial settings q samples failures) =
        some e := refusal?_eq_some_iff.mpr refused
    rw [scan_of_bounds ordered bounds, refusal?_map,
      refusal_scanRange_lenient coercing ordered] at lenient
    have strict : refusal? (scan (ev .fail) initial settings q samples failures) =
        ((evaluated (q.granularity.withFloor settings.floor) start stop samples).findSome?
          (unconvertible? .fail target)).or (some e) := by
      rw [scan_of_bounds ordered bounds, refusal?_map,
        refusal_scanRange (coercing.refuses .fail) ordered, lenient]
    cases found : (evaluated (q.granularity.withFloor settings.floor) start stop samples).findSome?
        (unconvertible? .fail target) with
    | none =>
        rw [found] at strict
        exact ⟨e, refusal?_eq_some_iff.mp strict, .inl rfl⟩
    | some e' =>
        rw [found] at strict
        obtain ⟨sample, -, met⟩ := List.exists_of_findSome?_eq_some found
        obtain ⟨t, value, -, -, -, -, coercion⟩ := unconvertible?_fail_eq_some met
        exact ⟨e', refusal?_eq_some_iff.mp strict, .inr ⟨_, _, coercion⟩⟩
  · refine ⟨e, ?_, .inl rfl⟩
    rw [← refused]
    exact scan_of_unbounded fun start stop both => by simp [bounds] at both

theorem windowed_sublist {ev : Evaluator σ ν}
    (answered : scan ev initial settings q samples failures = .ok s) :
    (s.windowed samples).Sublist samples := by
  rcases scan_eq_ok answered with ⟨start, stop, final, -, ordered, -, rfl⟩ | ⟨-, -, rfl⟩
  · exact evaluated_sublist ordered _ samples
  · exact List.nil_sublist samples

end Scan

/-! ### Queries -/

section Compute

variable {ν : Type} [Arithmetic ν] {q : Query} {d : Definition} {trended : Option Nat}

/-- A query that passes the first checks is one scan, by evaluators that differ in what they make of
unreadable values of the trended column. -/
theorem exists_coercing (consistent : ∀ s, d.columns? = some s → s.Consistent)
    (owned : ∀ s, d.columns? = some s → s.owner = d.key.text) (planned : plan q d = .ok trended)
    (settings : AggregationSettings) :
    ∃ (σ : Type) (ev : CoercionPolicy → Evaluator σ ν) (initial : σ) (failures : σ → Nat),
      Coercing ev failures (trended? d q.selector) ∧ failures initial = 0 ∧
      ∀ policy samples, computeOver { settings with coercion := policy } q d samples =
        scan (ev policy) initial settings q samples failures := by
  obtain ⟨-, -, resolved⟩ := plan_eq_ok planned
  have selected : d.columns?.bind (selected? · q.selector) = trended := by
    rw [resolve_eq consistent owned] at resolved
    cases unknown : unknownColumn? d q.selector with
    | some e => simp [unknown] at resolved
    | none => simpa [unknown] using resolved
  unfold computeOver
  rw [planned]
  cases body : d.body with
  | counterSampled type =>
      have counter : d.columns? = none := by rw [Definition.columns?, body]
      have nothing : trended? d q.selector = none := by simp [trended?, counter]
      rw [nothing]
      exact ⟨_, fun _ => counterEvaluator type, .initial, fun _ => 0, coercing_counterEvaluator type,
        rfl, fun _ _ => rfl⟩
  | event columns =>
      have event := Definition.columns?_eq_some_iff.mpr body
      rw [event, Option.bind_some] at selected
      cases trended with
      | none =>
          have nothing : trended? d q.selector = none := by simp [trended?, event, selected]
          rw [nothing]
          exact ⟨_, fun policy => trendEvaluator none policy, .initial, _,
            coercing_trendEvaluator none, rfl, fun _ _ => rfl⟩
      | some serial =>
          have consistent := consistent columns event
          obtain ⟨column, index, held, place, found⟩ :=
            targetOf_lock_eq_ok consistent (selected?_mem consistent selected)
          have target : trended? d q.selector = some ⟨column, index⟩ := by
            simp [trended?, event, selected, held, place]
          have coercing := coercing_trendEvaluator (ν := ν)
            (some ⟨{ column with index := some index }, index⟩)
          simp only [found]
          rw [target]
          exact ⟨_, _, .initial, _, coercing.congr (unreadable_position ..).symm
            fun policy => (unconvertible?_position policy ..).symm, rfl, fun _ _ => rfl⟩

end Compute

end Series

namespace Session

open Series

variable {s : Session} {settings : Settings} {lastSequence : Nat} {r : InstanceRef} {d : Definition}
  {i : Instance}

/-- **The two policies agree.** After any run, a series that is computed with zero for what is
unreadable counts just the unreadable ones among the samples of its windows. If it counts none, the
strict policy gives the same series. If it counts some, the strict policy refuses the first of them
in the order of their numbers, with the name of the trended column. What the lenient policy refuses,
the strict one refuses too. -/
theorem run_compute_policies {ν : Type} [Arithmetic ν]
    (created : create settings lastSequence = .ok s) (operations : List Operation)
    (found : (s.run operations).telemetry.instance? r = some (d, i))
    (aggregation : AggregationSettings) (q : Query) :
    let under : CoercionPolicy → Except Error (Series ν) := fun policy =>
      compute { aggregation with coercion := policy } q d i
    let target := trended? d q.selector
    (∀ {series : Series ν}, under .substituteZero = .ok series →
      let windowed := series.windowed i.store.samples
      windowed.Sublist i.store.samples ∧ Store.Ascending windowed ∧
      series.coercionFailures = windowed.countP (unreadable target) ∧
      (series.coercionFailures = 0 → under .fail = .ok series) ∧
      (0 < series.coercionFailures → ∃ t before sample after value, target = some t ∧
        t.isCounted = false ∧ windowed = before ++ sample :: after ∧
        (∀ earlier ∈ before, unreadable target earlier = false) ∧
        sample.value? t.index = some value ∧ value.number? = none ∧
        under .fail = .error (.coercion t.column.name value.written))) ∧
    ∀ {e : Error}, under .substituteZero = .error e →
      ∃ e', under .fail = .error e' ∧ (e' = e ∨ ∃ column value, e' = .coercion column value) := by
  intro under target
  obtain ⟨defined, -⟩ := Telemetry.instance?_eq_some_iff.mp found
  have sound := run_sound (sound_create created) operations
  have consistent : ∀ columns, d.columns? = some columns → columns.Consistent :=
    fun _ event => sound.columns defined event
  have owned : ∀ columns, d.columns? = some columns → columns.owner = d.key.text :=
    fun columns event => run_owned created operations _ d columns defined event
  cases planned : plan q d with
  | error e =>
      have refuses : ∀ policy, under policy = .error e := fun policy => by
        simp only [under, compute, planned]
      refine ⟨fun answered => ?_, fun refused => ⟨e, refuses .fail, .inl ?_⟩⟩
      · cases (refuses .substituteZero).symm.trans answered
      · exact Except.error.inj ((refuses .substituteZero).symm.trans refused)
  | ok trended =>
      obtain ⟨-, checked, -⟩ := plan_eq_ok planned
      obtain ⟨σ, ev, initial, failures, coercing, fresh, scans⟩ :=
        exists_coercing (ν := ν) consistent owned planned aggregation
      have computes : ∀ policy, under policy =
          scan (ev policy) initial aggregation q i.store.samples failures :=
        fun policy => (compute_eq_computeOver _ q d i).trans (scans policy i.store.samples)
      simp only [computes]
      refine ⟨fun {series} answered => ?_, refusal_scan_refused coercing checked⟩
      have within := windowed_sublist answered
      have counted := scan_counts coercing fresh answered
      refine ⟨within, (run_ascending created operations found).sublist within, counted,
        fun none_failed => ?_, fun some_failed => ?_⟩
      · rw [counted, List.countP_eq_zero] at none_failed
        exact scan_of_readable coercing answered fun sample listed =>
          Bool.eq_false_iff.mpr (none_failed sample listed)
      · rw [counted] at some_failed
        obtain ⟨t, before, sample, after, value, trended, trends, split, readable, held, no_number,
          refused⟩ := first_unreadable some_failed
        exact ⟨t, before, sample, after, value, trended, trends, split, readable, held, no_number,
          refusal?_eq_some_iff.mp ((refusal_scan_fail coercing answered).trans refused)⟩

/-- Latencies that are texts, of which the second and the fourth spell no number, and the third comes
late, from two seconds. -/
def spelledLatencies : List Operation :=
  [.define .event ⟨"web", "http", "requests"⟩,
   .addColumn 0 "Latency" .text { trendable := some true, trend := some .sum },
   .openInstance 0 none,
   .writeSample ⟨0, 0⟩ [some (.text "12")] (atSecond 1),
   .writeSample ⟨0, 0⟩ [some (.text "n/a")] (atSecond 7),
   .writeSample ⟨0, 0⟩ [some (.text "late")] (atSecond 2),
   .writeSample ⟨0, 0⟩ [some (.text "?")] (atSecond 8)]

/-- Over ten seconds two values are taken as zero, and the strict policy refuses the first; the late
one is in no window. Over five seconds all can be read. A month from the last instant but one is
refused either way. -/
theorem run_compute_policies_spelledLatencies :
    let s : Session := ⟨{}, []⟩
    let strict : AggregationSettings := { coercion := .fail }
    let upTo : Int → Query := fun n =>
      ⟨.interval .second 5, some (atSecond 0), some (atSecond n), .named "LATENCY"⟩
    let unended : Timestamp := ⟨8210266876799999999998, by decide⟩
    let q : Query := ⟨.interval .month 1, some unended, some .latest, .named "LATENCY"⟩
    create {} 0 = .ok s ∧
    ∃ d i, (s.run spelledLatencies).telemetry.instance? ⟨0, 0⟩ = some (d, i) ∧
      (∃ series : Series Float, compute {} (upTo 10) d i = .ok series ∧
        series.coercionFailures = 2 ∧ ∃ value : Value, value.number? = none ∧
          (compute strict (upTo 10) d i : Except Error (Series Float)) =
            .error (.coercion "Latency" value.written)) ∧
      (∃ series : Series Float, compute {} (upTo 5) d i = .ok series ∧
        series.coercionFailures = 0 ∧ compute strict (upTo 5) d i = .ok series) ∧
      (compute {} q d i : Except Error (Series Float)) =
        .error (.range (.overflow q.granularity unended)) ∧
      ∃ e, (compute strict q d i : Except Error (Series Float)) = .error e := by
  intro s strict upTo unended q
  have created : create {} 0 = .ok s := rfl
  have seen : ((s.run spelledLatencies).telemetry.instance? ⟨0, 0⟩).map (fun found =>
      (((compute {} (upTo 10) found.1 found.2 : Except Error (Series Float)).map
          (·.coercionFailures)).toOption,
        ((compute {} (upTo 5) found.1 found.2 : Except Error (Series Float)).map
          (·.coercionFailures)).toOption,
        refusal? (compute {} q found.1 found.2 : Except Error (Series Float)),
        (trended? found.1 (.named "LATENCY")).map (·.column.name))) =
      some (some 2, some 0, some (.range (.overflow q.granularity unended)), some "Latency") := by
    decide +kernel
  obtain ⟨⟨d, i⟩, found, seen⟩ := Option.map_eq_some_iff.mp seen
  simp only [Prod.mk.injEq] at seen
  obtain ⟨two, no_failures, overflow, column⟩ := seen
  obtain ⟨series, computed, two⟩ := exists_of_seen two
  obtain ⟨series', computed', no_failures⟩ := exists_of_seen no_failures
  have refused := refusal?_eq_some_iff.mp overflow
  have agree : ∀ q, _ := fun q =>
    @run_compute_policies _ _ _ _ _ _ Float _ created spelledLatencies found {} q
  obtain ⟨-, -, -, -, fails⟩ := (agree (upTo 10)).1 computed
  obtain ⟨-, -, -, same, -⟩ := (agree (upTo 5)).1 computed'
  obtain ⟨e, refused', -⟩ := (agree q).2 refused
  obtain ⟨t, _, _, _, value, target, -, -, -, -, no_number, strictly⟩ := fails (by omega)
  rw [target, Option.map_some, Option.some.injEq] at column
  rw [column] at strictly
  exact ⟨created, d, i, found, ⟨series, computed, two, value, no_number, strictly⟩,
    ⟨series', computed', no_failures, same no_failures⟩, refused, e, refused'⟩

end Session

end Metering
