import Metering.Time.Civil

/-!
Instants with nanosecond precision, from the year -262143 to the end of the year 262142, and
their two written forms. Moving an instant past either end of that range is refused.
-/

namespace Metering.Time

def nanosPerSecond : Nat := 1000000000

def secondsPerDay : Nat := 86400

def nanosPerDay : Nat := secondsPerDay * nanosPerSecond

/-- An instant, as nanoseconds since 1 January 1970. -/
structure Timestamp where
  nanos : Int
  inRange : -8334601228800000000000 ≤ nanos ∧ nanos ≤ 8210266876799999999999
deriving DecidableEq, Repr

namespace Timestamp

@[ext] theorem ext {a b : Timestamp} (h : a.nanos = b.nanos) : a = b := by
  cases a; cases b; cases h; rfl

def ofNanos? (nanos : Int) : Option Timestamp :=
  if h : -8334601228800000000000 ≤ nanos ∧ nanos ≤ 8210266876799999999999 then
    some ⟨nanos, h⟩
  else none

/-- The first instant. -/
def earliest : Timestamp := ⟨-8334601228800000000000, by decide⟩

/-- The last instant. -/
def latest : Timestamp := ⟨8210266876799999999999, by decide⟩

instance : LE Timestamp := ⟨fun a b => a.nanos ≤ b.nanos⟩

instance : LT Timestamp := ⟨fun a b => a.nanos < b.nanos⟩

theorem le_def {a b : Timestamp} : a ≤ b ↔ a.nanos ≤ b.nanos := Iff.rfl

theorem lt_def {a b : Timestamp} : a < b ↔ a.nanos < b.nanos := Iff.rfl

instance (a b : Timestamp) : Decidable (a ≤ b) := decidable_of_iff _ le_def.symm

instance (a b : Timestamp) : Decidable (a < b) := decidable_of_iff _ lt_def.symm

instance : Min Timestamp := minOfLe

instance : Max Timestamp := maxOfLe

theorem nanos_min (a b : Timestamp) : (min a b).nanos = min a.nanos b.nanos := by
  change (if a ≤ b then a else b).nanos = _
  simp only [le_def]
  split <;> omega

theorem nanos_max (a b : Timestamp) : (max a b).nanos = max a.nanos b.nanos := by
  change (if a ≤ b then b else a).nanos = _
  simp only [le_def]
  split <;> omega

instance : Std.IsLinearOrder Timestamp where
  le_refl _ := Int.le_refl _
  le_trans _ _ _ := Int.le_trans
  le_antisymm _ _ first second := ext (Int.le_antisymm first second)
  le_total a b := Int.le_total a.nanos b.nanos

instance : Std.LawfulOrderLT Timestamp where
  lt_iff a b := by
    simp only [lt_def, le_def]
    omega

instance : Std.LawfulOrderMax Timestamp where
  max_le_iff a b c := by
    simp only [le_def, nanos_max]
    omega
  max_eq_or a b := by
    change (if a ≤ b then b else a) = a ∨ (if a ≤ b then b else a) = b
    split
    · exact .inr rfl
    · exact .inl rfl

/-- Whole seconds since 1 January 1970, rounded toward the past. -/
def seconds (t : Timestamp) : Int := t.nanos / nanosPerSecond

/-- Nanoseconds past the whole second. -/
def subsecond (t : Timestamp) : Nat := (t.nanos % nanosPerSecond).toNat

def date (t : Timestamp) : Date := Date.ofDays (t.nanos / nanosPerDay)

/-- Nanoseconds since midnight. -/
def timeOfDay (t : Timestamp) : Nat := (t.nanos % nanosPerDay).toNat

def addNanos? (t : Timestamp) (nanos : Int) : Option Timestamp :=
  ofNanos? (t.nanos + nanos)

/-- The same time of day, with the date moved by calendar months. -/
def addMonths? (t : Timestamp) (months : Int) : Option Timestamp :=
  ofNanos? ((t.date.addMonths months).toDays * nanosPerDay + t.timeOfDay)

@[simp] theorem ofNanos?_nanos (t : Timestamp) : ofNanos? t.nanos = some t :=
  dif_pos t.inRange

theorem nanos_of_ofNanos? {n : Int} {t : Timestamp} (h : ofNanos? n = some t) :
    t.nanos = n := by
  unfold ofNanos? at h
  split at h
  · cases h; rfl
  · cases h

end Timestamp

/-! ### Written forms -/

/-- The number in decimal, with zeros in front up to the given width. -/
def padded (width n : Nat) : List Char :=
  let digits := Nat.toDigits 10 n
  List.replicate (width - digits.length) '0' ++ digits

/-- A fraction of a second, in three, six or nine digits: the fewest that lose nothing,
and none for a whole second. -/
def subsecondText (nanos : Nat) : List Char :=
  if nanos = 0 then []
  else if nanos % 1000000 = 0 then '.' :: padded 3 (nanos / 1000000)
  else if nanos % 1000 = 0 then '.' :: padded 6 (nanos / 1000)
  else '.' :: padded 9 nanos

/-- Four digits for the years 0 to 9999; other years carry a sign. -/
def yearText (year : Int) : List Char :=
  if 0 ≤ year ∧ year ≤ 9999 then padded 4 year.toNat
  else (if year < 0 then '-' else '+') :: padded 4 year.natAbs

def Date.text (d : Date) : List Char :=
  yearText d.year ++ '-' :: padded 2 d.month ++ '-' :: padded 2 d.day

/-- Hours, minutes, seconds and the fraction of the second. -/
def clockText (timeOfDay : Nat) : List Char :=
  let second := timeOfDay / nanosPerSecond
  padded 2 (second / 3600) ++ ':' :: padded 2 (second / 60 % 60) ++ ':' :: padded 2 (second % 60)
    ++ subsecondText (timeOfDay % nanosPerSecond)

namespace Timestamp

/-- The form used for values: date, `T`, time, and the zero offset. -/
def offsetText (t : Timestamp) : String :=
  String.ofList (t.date.text ++ 'T' :: clockText t.timeOfDay ++ "+00:00".toList)

/-- The form used in messages: date, time and zone name, with spaces between. -/
def zoneText (t : Timestamp) : String :=
  String.ofList (t.date.text ++ ' ' :: clockText t.timeOfDay ++ " UTC".toList)

end Timestamp

example : Timestamp.earliest.zoneText = "-262143-01-01 00:00:00 UTC" := by decide +kernel

example : Timestamp.latest.offsetText = "+262142-12-31T23:59:59.999999999+00:00" := by
  decide +kernel

end Metering.Time
