/-!
Civil dates in the proleptic Gregorian calendar, with a year zero and negative years before
it, and the count of days since 1 January 1970.

The day count runs over years that begin in March, so that the leap day is the last day of
its year. Counting and dating are inverse to each other: `toDays_ofDays` and `ofDays_toDays`.
-/

namespace Metering.Time

/-- A day of the calendar. -/
structure Date where
  year : Int
  month : Nat
  day : Nat
deriving DecidableEq, Repr

def isLeapYear (year : Int) : Bool :=
  year % 4 == 0 && (year % 100 != 0 || year % 400 == 0)

/-- How many days the month has in the given year. -/
def daysInMonth (year : Int) (month : Nat) : Nat :=
  if month = 2 then (if isLeapYear year then 29 else 28)
  else if month = 4 ∨ month = 6 ∨ month = 9 ∨ month = 11 then 30
  else 31

/-- The date exists in the calendar. -/
def Date.Valid (d : Date) : Prop :=
  1 ≤ d.month ∧ d.month ≤ 12 ∧ 1 ≤ d.day ∧ d.day ≤ daysInMonth d.year d.month

instance (d : Date) : Decidable d.Valid := by
  unfold Date.Valid
  infer_instance

/-! ### Counting days -/

/-- Days from 1 March of year zero to 1 January 1970. -/
def epochOffset : Int := 719468

/-- Days from 1 March of year zero to 1 March of the given year. -/
def daysBeforeYear (year : Int) : Int :=
  365 * year + year / 4 - year / 100 + year / 400

/-- Days from 1 March to the first day of a month, which is counted from March. -/
def daysBeforeMonth (month : Int) : Int :=
  (153 * month + 2) / 5

/-- The year that begins in the March before the date. -/
def Date.marchYear (d : Date) : Int :=
  if d.month ≤ 2 then d.year - 1 else d.year

/-- The month counted from March. -/
def Date.marchMonth (d : Date) : Int :=
  if d.month ≤ 2 then d.month + 9 else d.month - 3

/-- Days since the 1 March before the date. -/
def Date.marchDay (d : Date) : Int :=
  daysBeforeMonth d.marchMonth + d.day - 1

/-- Days since 1 January 1970. -/
def Date.toDays (d : Date) : Int :=
  daysBeforeYear d.marchYear + d.marchDay - epochOffset

/-- The year, begun in March, of the day with the given number, counted from 1 March of year
zero. A year has 365.2425 days on average, which puts the first guess at most one year off. -/
def marchYearOf (n : Int) : Int :=
  let guess := 400 * n / 146097
  if n < daysBeforeYear guess then guess - 1
  else if daysBeforeYear (guess + 1) ≤ n then guess + 1
  else guess

/-- The date with the given year begun in March, and the given number of days after that
March began. -/
def Date.ofMarch (year day : Int) : Date :=
  let month := (5 * day + 2) / 153
  ⟨if month < 10 then year else year + 1,
    (if month < 10 then month + 3 else month - 9).toNat,
    (day - daysBeforeMonth month + 1).toNat⟩

/-- The date that lies the given number of days after 1 January 1970. -/
def Date.ofDays (days : Int) : Date :=
  let n := days + epochOffset
  let year := marchYearOf n
  .ofMarch year (n - daysBeforeYear year)

/-! ### Moving by months -/

/-- Months since January of year zero. -/
def Date.monthIndex (d : Date) : Int :=
  12 * d.year + d.month - 1

/-- The same day of the month a number of months later, or the last day of that month if
it is shorter. -/
def Date.addMonths (d : Date) (months : Int) : Date :=
  let index := d.monthIndex + months
  let year := index / 12
  let month := (index % 12).toNat + 1
  ⟨year, month, min d.day (daysInMonth year month)⟩

/-! ### Counting and dating -/

theorem daysBeforeYear_add_le {a b : Int} (h : a ≤ b) :
    daysBeforeYear a + 365 * (b - a) ≤ daysBeforeYear b := by
  unfold daysBeforeYear
  omega

theorem daysBeforeYear_succ (year : Int) :
    daysBeforeYear (year + 1) =
      daysBeforeYear year + (if isLeapYear (year + 1) then 366 else 365) := by
  unfold daysBeforeYear isLeapYear
  simp only [Bool.and_eq_true, Bool.or_eq_true, beq_iff_eq, bne_iff_ne]
  split <;> omega

/-- The day with number `n` lies in the year `marchYearOf n`. -/
theorem marchYearOf_bounds (n : Int) :
    daysBeforeYear (marchYearOf n) ≤ n ∧ n < daysBeforeYear (marchYearOf n + 1) := by
  unfold marchYearOf daysBeforeYear
  simp only
  split
  · omega
  · split <;> omega

/-- No other year holds the day. -/
theorem marchYearOf_unique {year n : Int} (first : daysBeforeYear year ≤ n)
    (last : n < daysBeforeYear (year + 1)) : marchYearOf n = year := by
  have ⟨lower, upper⟩ := marchYearOf_bounds n
  rcases Int.lt_trichotomy (marchYearOf n) year with h | h | h
  · have := daysBeforeYear_add_le (a := marchYearOf n + 1) (b := year) (by omega)
    omega
  · exact h
  · have := daysBeforeYear_add_le (a := year + 1) (b := marchYearOf n) (by omega)
    omega

/-- A valid date lies within the year begun in March that it is counted in. -/
theorem Date.Valid.marchDay_bounds {d : Date} (h : d.Valid) :
    0 ≤ d.marchDay ∧
      d.marchDay < daysBeforeYear (d.marchYear + 1) - daysBeforeYear d.marchYear := by
  obtain ⟨year, month, day⟩ := d
  obtain ⟨h₁, h₂, h₃, h₄⟩ := h
  simp only [daysBeforeYear_succ, marchDay, marchMonth, marchYear, daysBeforeMonth,
    daysInMonth] at *
  split at h₄ <;> split at h₄ <;> split <;> simp_all <;> omega

theorem daysInMonth_february_le (year : Int) : daysInMonth year 2 ≤ 29 := by
  simp only [daysInMonth, if_true]
  split <;> omega

/-- The months of a year begun in March fill it without gaps: the month is found again from
the day. -/
theorem Date.Valid.marchMonth_eq {d : Date} (h : d.Valid) :
    (5 * d.marchDay + 2) / 153 = d.marchMonth := by
  obtain ⟨year, month, day⟩ := d
  obtain ⟨h₁, h₂, h₃, h₄⟩ := h
  simp only [marchDay, marchMonth, daysBeforeMonth] at *
  by_cases february : month = 2
  · subst february
    have short := daysInMonth_february_le year
    simp
    omega
  · have months : month = 1 ∨ month = 3 ∨ month = 4 ∨ month = 5 ∨ month = 6 ∨ month = 7 ∨
        month = 8 ∨ month = 9 ∨ month = 10 ∨ month = 11 ∨ month = 12 := by omega
    rcases months with rfl | rfl | rfl | rfl | rfl | rfl | rfl | rfl | rfl | rfl | rfl <;>
      simp [daysInMonth] at h₄ ⊢ <;> omega

/-- Splitting a valid date into a year begun in March and a day loses nothing. -/
theorem Date.Valid.ofMarch_eq {d : Date} (h : d.Valid) :
    ofMarch d.marchYear d.marchDay = d := by
  have month_eq := h.marchMonth_eq
  obtain ⟨year, month, day⟩ := d
  obtain ⟨h₁, h₂, h₃, -⟩ := h
  simp only [ofMarch, month_eq, Date.mk.injEq]
  simp only [marchYear, marchMonth, marchDay] at *
  split <;> refine ⟨by split <;> omega, by split <;> omega, by omega⟩

/-- Counting the days of a valid date and dating them again gives the date. -/
theorem Date.ofDays_toDays {d : Date} (h : d.Valid) : ofDays d.toDays = d := by
  have ⟨lower, upper⟩ := h.marchDay_bounds
  have year : marchYearOf (d.toDays + epochOffset) = d.marchYear :=
    marchYearOf_unique (by simp only [toDays]; omega) (by simp only [toDays]; omega)
  have day : d.toDays + epochOffset - daysBeforeYear d.marchYear = d.marchDay := by
    simp only [toDays]; omega
  simp only [ofDays, year, day, h.ofMarch_eq]

/-- What a year begun in March and a day in it are split into is a valid date. -/
theorem Date.valid_ofMarch {year day : Int} (lower : 0 ≤ day)
    (upper : day < daysBeforeYear (year + 1) - daysBeforeYear year) :
    (ofMarch year day).Valid := by
  rw [daysBeforeYear_succ] at upper
  by_cases february : (5 * day + 2) / 153 = 11
  · simp only [Valid, ofMarch, february]
    simp [daysInMonth, daysBeforeMonth]
    split at upper <;> simp_all <;> omega
  · have months : (5 * day + 2) / 153 = 0 ∨ (5 * day + 2) / 153 = 1 ∨ (5 * day + 2) / 153 = 2 ∨
        (5 * day + 2) / 153 = 3 ∨ (5 * day + 2) / 153 = 4 ∨ (5 * day + 2) / 153 = 5 ∨
        (5 * day + 2) / 153 = 6 ∨ (5 * day + 2) / 153 = 7 ∨ (5 * day + 2) / 153 = 8 ∨
        (5 * day + 2) / 153 = 9 ∨ (5 * day + 2) / 153 = 10 := by
      split at upper <;> omega
    rcases months with h | h | h | h | h | h | h | h | h | h | h <;>
      simp only [Valid, ofMarch, h] <;> simp [daysInMonth, daysBeforeMonth] <;> omega

theorem Date.marchYear_ofMarch {year day : Int} (lower : 0 ≤ day) (upper : day < 366) :
    (ofMarch year day).marchYear = year := by
  simp only [marchYear, ofMarch]
  split <;> split at * <;> omega

theorem Date.marchDay_ofMarch {year day : Int} (lower : 0 ≤ day) (upper : day < 366) :
    (ofMarch year day).marchDay = day := by
  simp only [marchDay, marchMonth, ofMarch, daysBeforeMonth]
  split <;> split at * <;> omega

theorem Date.valid_ofDays (days : Int) : (ofDays days).Valid := by
  have ⟨lower, upper⟩ := marchYearOf_bounds (days + epochOffset)
  exact valid_ofMarch (by omega) (by omega)

/-- Dating a day and counting again gives the day. -/
theorem Date.toDays_ofDays (days : Int) : (ofDays days).toDays = days := by
  have ⟨lower, upper⟩ := marchYearOf_bounds (days + epochOffset)
  have short : days + epochOffset - daysBeforeYear (marchYearOf (days + epochOffset)) < 366 := by
    rw [daysBeforeYear_succ] at upper
    split at upper <;> omega
  simp only [ofDays, toDays, marchYear_ofMarch (Int.sub_nonneg_of_le lower) short,
    marchDay_ofMarch (Int.sub_nonneg_of_le lower) short]
  omega

theorem one_le_daysInMonth (year : Int) (month : Nat) : 1 ≤ daysInMonth year month := by
  unfold daysInMonth
  split
  · split <;> omega
  · split <;> omega

theorem Date.Valid.addMonths {d : Date} (h : d.Valid) (months : Int) :
    (d.addMonths months).Valid := by
  have := one_le_daysInMonth ((d.monthIndex + months) / 12)
    (((d.monthIndex + months) % 12).toNat + 1)
  obtain ⟨-, -, first, -⟩ := h
  simp only [Valid, Date.addMonths]
  omega

/-- The month moves by exactly the given number, whatever becomes of the day. -/
theorem Date.monthIndex_addMonths (d : Date) (months : Int) :
    (d.addMonths months).monthIndex = d.monthIndex + months := by
  simp only [addMonths, monthIndex]
  omega

end Metering.Time
