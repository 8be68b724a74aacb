import Mathlib.Tactic.Ring
import Metering.Proofs.Series.Advance

/-!
Windows of months, put end to end.

A month may be too short for the day that a window starts on. The window then ends on the last day of
that month, and the windows after it start from there, so the day never comes back. `advanceTimes?_month`
says where a number of such windows lead: the month moves evenly, and the day is cut to the shortest
month on the way. One window of all those months is cut by its last month alone, so it ends at another
instant where a month before the last one was shorter (`foldl_min_eq_iff`).
-/

namespace Metering

namespace Time

/-! ### Months by number -/

/-- How many days the month has that lies the given number of months after January of year zero. -/
def daysInMonthAt (index : Int) : Nat :=
  daysInMonth (index / 12) ((index % 12).toNat + 1)

/-- The given day of the month that lies the given number of months after January of year zero. -/
def Date.atMonth (index : Int) (day : Nat) : Date :=
  ⟨index / 12, (index % 12).toNat + 1, day⟩

namespace Date

variable {a b d : Date}

theorem monthIndex_atMonth (index : Int) (day : Nat) : (atMonth index day).monthIndex = index := by
  simp only [atMonth, monthIndex]
  omega

theorem addMonths_eq (d : Date) (months : Int) :
    d.addMonths months =
      atMonth (d.monthIndex + months) (min d.day (daysInMonthAt (d.monthIndex + months))) :=
  rfl

/-- A date is told by its month and its day. -/
theorem Valid.eq_atMonth (valid : d.Valid) : d = atMonth d.monthIndex d.day := by
  obtain ⟨first, last, -, -⟩ := valid
  obtain ⟨year, month, day⟩ := d
  simp only [atMonth, monthIndex, Date.mk.injEq, and_true] at first last ⊢
  omega

theorem Valid.day_le (valid : d.Valid) : d.day ≤ daysInMonthAt d.monthIndex := by
  have whole := valid.eq_atMonth
  obtain ⟨-, -, -, short⟩ := valid
  rw [whole] at short
  exact short

theorem valid_atMonth {index : Int} {day : Nat} (first : 1 ≤ day) (short : day ≤ daysInMonthAt index) :
    (atMonth index day).Valid := by
  refine ⟨?_, ?_, first, short⟩
  · simp only [atMonth]
    omega
  · simp only [atMonth]
    omega

/-- Dates are counted in the order of their months, and within a month in the order of their days. -/
theorem toDays_le (first : a.Valid) (second : b.Valid)
    (ordered : a.monthIndex < b.monthIndex ∨ a.monthIndex = b.monthIndex ∧ a.day ≤ b.day) :
    a.toDays ≤ b.toDays := by
  rcases ordered with later | ⟨month, day⟩
  · exact Int.le_of_lt (toDays_lt first second later)
  · rw [first.eq_atMonth, second.eq_atMonth, month]
    have year : (atMonth b.monthIndex a.day).marchYear = (atMonth b.monthIndex b.day).marchYear := rfl
    have march : (atMonth b.monthIndex a.day).marchMonth = (atMonth b.monthIndex b.day).marchMonth := rfl
    have here : (atMonth b.monthIndex a.day).day = a.day := rfl
    have there : (atMonth b.monthIndex b.day).day = b.day := rfl
    rw [toDays, toDays, marchDay, marchDay, year, march, here, there]
    omega

end Date

/-! ### The date and the time of day of an instant -/

namespace Timestamp

variable {a b t next : Timestamp} {months : Int}

theorem valid_date (t : Timestamp) : t.date.Valid :=
  Date.valid_ofDays _

theorem timeOfDay_lt (t : Timestamp) : t.timeOfDay < nanosPerDay := by
  simp only [timeOfDay, nanosPerDay, secondsPerDay, nanosPerSecond]
  omega

theorem nanos_eq (t : Timestamp) : t.nanos = t.date.toDays * nanosPerDay + t.timeOfDay := by
  rw [date, Date.toDays_ofDays]
  simp only [timeOfDay, nanosPerDay, secondsPerDay, nanosPerSecond]
  omega

/-- The date and the time of day are those that the nanoseconds were counted from. -/
theorem date_timeOfDay_of_nanos {d : Date} {time : Nat} (valid : d.Valid) (within : time < nanosPerDay)
    (nanos : t.nanos = d.toDays * nanosPerDay + time) : t.date = d ∧ t.timeOfDay = time := by
  have day : t.nanos / nanosPerDay = d.toDays := by
    simp only [nanos, nanosPerDay, secondsPerDay, nanosPerSecond] at within ⊢
    omega
  refine ⟨?_, ?_⟩
  · rw [date, day, Date.ofDays_toDays valid]
  · simp only [timeOfDay, nanos, nanosPerDay, secondsPerDay, nanosPerSecond] at within ⊢
    omega

theorem ext_date (date : a.date = b.date) (time : a.timeOfDay = b.timeOfDay) : a = b := by
  apply ext
  rw [a.nanos_eq, b.nanos_eq, date, time]

/-- Moving by months moves the date, and keeps the time of day. -/
theorem addMonths?_eq_some_iff :
    t.addMonths? months = some next ↔
      next.date = t.date.addMonths months ∧ next.timeOfDay = t.timeOfDay := by
  constructor
  · intro moved
    exact date_timeOfDay_of_nanos (t.valid_date.addMonths months) t.timeOfDay_lt
      (nanos_of_ofNanos? moved)
  · rintro ⟨date, time⟩
    rw [addMonths?, ← date, ← time, ← next.nanos_eq]
    exact next.ofNanos?_nanos

theorem earliest_le (t : Timestamp) : earliest ≤ t :=
  t.inRange.1

theorem le_latest (t : Timestamp) : t ≤ latest :=
  t.inRange.2

/-- Of two instants, the later one is in no earlier month. -/
theorem monthIndex_mono (later : a ≤ b) : a.date.monthIndex ≤ b.date.monthIndex := by
  by_contra earlier
  have days := Date.toDays_lt b.valid_date a.valid_date (Int.not_le.mp earlier)
  have a_time := a.timeOfDay_lt
  have b_time := b.timeOfDay_lt
  rw [le_def, a.nanos_eq, b.nanos_eq] at later
  simp only [nanosPerDay, secondsPerDay, nanosPerSecond] at later a_time b_time
  omega

/-- The range of instants begins and ends with a whole month, so all of a month is in it that an
instant of the month is in. -/
theorem exists_inMonth (t : Timestamp) {day time : Nat} (first : 1 ≤ day)
    (short : day ≤ daysInMonthAt t.date.monthIndex) (within : time < nanosPerDay) :
    ∃ u : Timestamp, u.date = .atMonth t.date.monthIndex day ∧ u.timeOfDay = time := by
  generalize target : Date.atMonth t.date.monthIndex day = d
  have valid : d.Valid := target ▸ Date.valid_atMonth first short
  have month : d.monthIndex = t.date.monthIndex := target ▸ Date.monthIndex_atMonth ..
  have same_day : d.day = day := target ▸ rfl
  have lower : earliest.date.toDays ≤ d.toDays := by
    refine Date.toDays_le earliest.valid_date valid ?_
    rw [month, same_day]
    rcases Int.lt_or_eq_of_le (monthIndex_mono t.earliest_le) with later | same
    · exact .inl later
    · exact .inr ⟨same, first⟩
  have upper : d.toDays ≤ latest.date.toDays := by
    have whole : daysInMonthAt latest.date.monthIndex = latest.date.day := by decide +kernel
    refine Date.toDays_le valid latest.valid_date ?_
    rw [month, same_day]
    rcases Int.lt_or_eq_of_le (monthIndex_mono t.le_latest) with earlier | same
    · exact .inl earlier
    · exact .inr ⟨same, whole ▸ same ▸ short⟩
  have inRange : earliest.nanos ≤ d.toDays * nanosPerDay + time ∧
      d.toDays * nanosPerDay + time ≤ latest.nanos := by
    have midnight : earliest.timeOfDay = 0 := by decide +kernel
    have last : latest.timeOfDay = nanosPerDay - 1 := by decide +kernel
    rw [earliest.nanos_eq, latest.nanos_eq, midnight, last]
    simp only [nanosPerDay, secondsPerDay, nanosPerSecond] at within ⊢
    omega
  exact ⟨⟨_, inRange⟩, date_timeOfDay_of_nanos valid within rfl⟩

end Timestamp

end Time

open Metering.Time

/-! ### Windows put end to end -/

/-- The least of a list of numbers and one more. -/
theorem le_foldl_min_iff {bound start : Nat} {xs : List Nat} :
    bound ≤ xs.foldl min start ↔ bound ≤ start ∧ ∀ x ∈ xs, bound ≤ x := by
  induction xs generalizing start with
  | nil => simp
  | cons x rest ih => rw [List.foldl_cons, ih, Nat.le_min, List.forall_mem_cons, and_assoc]

/-- A last number decides, together with the first one, unless one between them is less than both. -/
theorem foldl_min_eq_iff {start last : Nat} {xs : List Nat} :
    (xs ++ [last]).foldl min start = min start last ↔ ∀ x ∈ xs, ¬ x < min start last := by
  rw [List.foldl_append, List.foldl_cons, List.foldl_nil]
  constructor
  · intro same x member less
    have least := le_foldl_min_iff.mp (Nat.le_refl (xs.foldl min start))
    have := least.2 x member
    omega
  · intro none_less
    have below : min start last ≤ xs.foldl min start :=
      le_foldl_min_iff.mpr ⟨Nat.min_le_left _ _, fun x member => Nat.le_of_not_lt (none_less x member)⟩
    have above := (le_foldl_min_iff.mp (Nat.le_refl (xs.foldl min start))).1
    omega

namespace Granularity

/-- The instant that a number of windows lead to, each starting where the one before it ends. -/
def advanceTimes? (g : Granularity) : Nat → Timestamp → Option Timestamp
  | 0, t => some t
  | n + 1, t => (g.advanceTimes? n t).bind g.advance?

/-- The month that a number of windows of `count` months lead to. -/
def monthReached (t : Timestamp) (count times : Nat) : Int :=
  t.date.monthIndex + times * count

/-- The months in which the windows end, in order. -/
def monthsVisited (t : Timestamp) (count times : Nat) : List Int :=
  (List.range times).map fun n => monthReached t count (n + 1)

/-- The day that the windows lead to: it is cut to the shortest of the months on the way. -/
def dayReached (t : Timestamp) (count times : Nat) : Nat :=
  ((monthsVisited t count times).map daysInMonthAt).foldl min t.date.day

variable {t last : Timestamp} {count times : Nat}

theorem monthReached_zero (t : Timestamp) (count : Nat) :
    monthReached t count 0 = t.date.monthIndex := by
  rw [monthReached, Nat.cast_zero, zero_mul, add_zero]

theorem monthReached_succ (t : Timestamp) (count times : Nat) :
    monthReached t count (times + 1) = monthReached t count times + count := by
  rw [monthReached, monthReached, Nat.cast_succ, add_mul, one_mul, add_assoc]

theorem monthsVisited_succ (t : Timestamp) (count times : Nat) :
    monthsVisited t count (times + 1) =
      monthsVisited t count times ++ [monthReached t count (times + 1)] := by
  rw [monthsVisited, List.range_succ, List.map_append, monthsVisited, List.map_singleton]

theorem dayReached_succ (t : Timestamp) (count times : Nat) :
    dayReached t count (times + 1) =
      min (dayReached t count times) (daysInMonthAt (monthReached t count (times + 1))) := by
  rw [dayReached, monthsVisited_succ, List.map_append, List.foldl_append, dayReached]
  rfl

theorem advance?_month_eq_some_iff :
    (interval .month count).advance? t = some last ↔
      last.date = t.date.addMonths count ∧ last.timeOfDay = t.timeOfDay :=
  Timestamp.addMonths?_eq_some_iff

/-- Windows that lead somewhere have led to an instant after each of them. -/
theorem exists_advanceTimes? {g : Granularity} {fewer : Nat} (le : fewer ≤ times)
    (reached : g.advanceTimes? times t = some last) :
    ∃ earlier, g.advanceTimes? fewer t = some earlier := by
  induction times generalizing last with
  | zero =>
      obtain rfl := Nat.le_zero.mp le
      exact ⟨last, reached⟩
  | succ n ih =>
      rcases Nat.le_or_eq_of_le_succ le with before | rfl
      · obtain ⟨previous, found, -⟩ := Option.bind_eq_some_iff.mp reached
        exact ih before found
      · exact ⟨last, reached⟩

/-- Where windows of months lead. -/
theorem date_of_advanceTimes? (reached : (interval .month count).advanceTimes? times t = some last) :
    last.date = .atMonth (monthReached t count times) (dayReached t count times) ∧
      last.timeOfDay = t.timeOfDay := by
  induction times generalizing last with
  | zero =>
      obtain rfl := Option.some.inj reached
      rw [monthReached_zero]
      exact ⟨t.valid_date.eq_atMonth, rfl⟩
  | succ n ih =>
      obtain ⟨previous, found, advanced⟩ := Option.bind_eq_some_iff.mp reached
      obtain ⟨date, time⟩ := ih found
      obtain ⟨date', time'⟩ := advance?_month_eq_some_iff.mp advanced
      refine ⟨?_, time'.trans time⟩
      have month : previous.date.monthIndex = monthReached t count n := by
        rw [date, Date.monthIndex_atMonth]
      have day : previous.date.day = dayReached t count n := by
        rw [date]
        rfl
      rw [date', Date.addMonths_eq, month, day, dayReached_succ, monthReached_succ]

/-- Each window ends after it starts. -/
theorem lt_of_advanceTimes? (positive : 0 < count)
    (reached : (interval .month count).advanceTimes? times t = some last) {n : Nat} (within : n < times) :
    ∃ a b, (interval .month count).advanceTimes? n t = some a ∧
      (interval .month count).advanceTimes? (n + 1) t = some b ∧
      (interval .month count).advance? a = some b ∧ a < b := by
  obtain ⟨b, there⟩ := exists_advanceTimes? within reached
  obtain ⟨a, here, advanced⟩ := Option.bind_eq_some_iff.mp there
  exact ⟨a, b, here, there, advanced, lt_of_advance? positive advanced⟩

/-- One window of as many months leads to the same month, where the day is cut only once. -/
theorem exists_advance?_once (reached : (interval .month count).advanceTimes? times t = some last) :
    ∃ once : Timestamp, (interval .month (times * count)).advance? t = some once ∧
      once.timeOfDay = t.timeOfDay ∧
      once.date = .atMonth (monthReached t count times)
        (min t.date.day (daysInMonthAt (monthReached t count times))) := by
  obtain ⟨date, time⟩ := date_of_advanceTimes? reached
  have month : last.date.monthIndex = monthReached t count times := by
    rw [date, Date.monthIndex_atMonth]
  have first : 1 ≤ min t.date.day (daysInMonthAt last.date.monthIndex) :=
    Nat.le_min.mpr ⟨t.valid_date.2.2.1, one_le_daysInMonth ..⟩
  obtain ⟨once, once_date, once_time⟩ :=
    last.exists_inMonth first (Nat.min_le_right _ _) t.timeOfDay_lt
  rw [month] at once_date
  refine ⟨once, advance?_month_eq_some_iff.mpr ⟨?_, once_time⟩, once_time, once_date⟩
  rw [once_date, Date.addMonths_eq, Nat.cast_mul]
  rfl

theorem dayReached_eq_once_iff (t : Timestamp) (count times : Nat) :
    dayReached t count times = min t.date.day (daysInMonthAt (monthReached t count times)) ↔
      ∀ month ∈ monthsVisited t count (times - 1),
        ¬ daysInMonthAt month < min t.date.day (daysInMonthAt (monthReached t count times)) := by
  cases times with
  | zero =>
      rw [monthReached_zero, Nat.min_eq_left t.valid_date.day_le]
      exact iff_of_true rfl (fun month none => absurd none List.not_mem_nil)
  | succ n =>
      rw [dayReached, monthsVisited_succ, List.map_append, List.map_singleton, foldl_min_eq_iff,
        List.forall_mem_map, Nat.add_sub_cancel]

/-- All of the windows that have an end span less months than the range of instants has. -/
theorem mul_le_of_advanceTimes? (reached : (interval .month count).advanceTimes? times t = some last) :
    times * count ≤ maxCount := by
  obtain ⟨date, -⟩ := date_of_advanceTimes? reached
  have month : last.date.monthIndex = monthReached t count times := by
    rw [date, Date.monthIndex_atMonth]
  have lower := Timestamp.monthIndex_mono t.earliest_le
  have upper := Timestamp.monthIndex_mono last.le_latest
  have first : Timestamp.earliest.date.monthIndex = -3145716 := by decide +kernel
  have final : Timestamp.latest.date.monthIndex = 3145715 := by decide +kernel
  rw [first] at lower
  rw [final, month, monthReached, ← Nat.cast_mul] at upper
  simp only [maxCount, UInt32.size]
  omega

/-- **Where windows of months lead that are put end to end.** The time of day stays, the month moves
evenly, and the day is cut to the shortest of the months on the way. Every window ends after it starts.
One window of all those months has an end too; it is the same instant just if none of the months before
the last one is shorter than both the day and the last month. -/
theorem advanceTimes?_month (positive : 0 < count)
    (reached : (interval .month count).advanceTimes? times t = some last) :
    let windows := interval .month count
    let once := interval .month (times * count)
    last.timeOfDay = t.timeOfDay ∧
    last.date = .atMonth (t.date.monthIndex + times * count) (dayReached t count times) ∧
    (∀ n < times, ∃ a b, windows.advanceTimes? n t = some a ∧
      windows.advanceTimes? (n + 1) t = some b ∧ windows.advance? a = some b ∧ a < b) ∧
    times * count ≤ maxCount ∧ (once.advance? t).isSome ∧
    (windows.advanceTimes? times t = once.advance? t ↔
      ∀ month ∈ monthsVisited t count (times - 1),
        ¬ daysInMonthAt month < min t.date.day (daysInMonthAt last.date.monthIndex)) := by
  intro windows once
  obtain ⟨date, time⟩ := date_of_advanceTimes? reached
  obtain ⟨whole, found, whole_time, whole_date⟩ := exists_advance?_once reached
  have month : last.date.monthIndex = monthReached t count times := by
    rw [date, Date.monthIndex_atMonth]
  refine ⟨time, date, fun n within => lt_of_advanceTimes? positive reached within,
    mul_le_of_advanceTimes? reached, Option.isSome_of_eq_some found, ?_⟩
  rw [reached, found, month, ← dayReached_eq_once_iff, Option.some.injEq]
  constructor
  · rintro rfl
    exact congrArg Date.day (date.symm.trans whole_date)
  · intro same
    refine Timestamp.ext_date ?_ (time.trans whole_time.symm)
    rw [date, whole_date, same]

/-- Three months from the last day of January of a leap year, one after the other: the day of February
stays, while three months at once lead to the last day of April. -/
theorem advanceTimes?_month_leapYear :
    let january : Timestamp := ⟨1706659200000000000, by decide⟩
    january.date = ⟨2024, 1, 31⟩ ∧ 0 < 1 ∧
    ∃ last, (interval .month 1).advanceTimes? 3 january = some last ∧ last.date = ⟨2024, 4, 29⟩ ∧
      last.timeOfDay = 0 ∧
      (interval .month 1).advanceTimes? 3 january ≠ (interval .month 3).advance? january := by
  intro january
  have some_end : ((interval .month 1).advanceTimes? 3 january).isSome := by decide +kernel
  obtain ⟨last, reached⟩ := Option.isSome_iff_exists.mp some_end
  obtain ⟨time, date, -, -, -, same_iff⟩ := advanceTimes?_month Nat.one_pos reached
  have april : last.date = ⟨2024, 4, 29⟩ := date.trans (by decide +kernel)
  refine ⟨by decide +kernel, Nat.one_pos, last, reached, april, time.trans (by decide +kernel), ?_⟩
  intro same
  have february := same_iff.mp same (january.date.monthIndex + 1) (by decide +kernel)
  rw [april] at february
  exact february (by decide +kernel)

end Granularity

end Metering
