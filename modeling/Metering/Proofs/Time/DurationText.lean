import Mathlib.Data.List.Basic
import Metering.Proofs.Decimal.Digits
import Metering.Proofs.Text.Character
import Metering.Time.DurationText

/-!
The text of a duration reads back as that duration.

A duration is written as its parts that are not zero (`Duration.shown`), each a count and the name of
a unit. A reader finds a term for each of them (`readTerms?_parts`); and as the parts make up the
duration, no partial sum of them is too large (`foldlM_addTo?`).
-/

namespace Metering.Time

open Metering.Decimal

/-! ### Written parts -/

/-- The nanoseconds of a unit. -/
def DurationUnit.nanos (unit : DurationUnit) : Nat :=
  match unit.subsecondScale? with
  | some scale => scale
  | none => unit.secondScale * nanosPerSecond

/-- The name is one of the unit, in letters alone. -/
def isSpelled (name : String) (unit : DurationUnit) : Bool :=
  DurationUnit.ofName? name == some unit && name.toList.all Char.isAlpha && !name.isEmpty

/-- A number of units, with the name that the unit is written with. -/
structure Part where
  count : Nat
  name : String
  unit : DurationUnit

namespace Part

def text (p : Part) : List Char :=
  Nat.toDigits 10 p.count ++ p.name.toList

def term (p : Part) : DurationTerm :=
  ⟨Nat.toDigits 10 p.count, none, p.unit⟩

def nanos (p : Part) : Nat :=
  p.count * p.unit.nanos

/-- The name is one of the unit, and below the second the part is shorter than a second. -/
structure Proper (p : Part) : Prop where
  spelled : isSpelled p.name p.unit = true
  below : ∀ scale, p.unit.subsecondScale? = some scale → p.count * scale < nanosPerSecond

end Part

/-! ### Finding the terms -/

theorem takeDigits_blank {cs : List Char} (blank : cs.all Text.isBlank = true) :
    takeDigits cs = ([], []) := by
  induction cs with
  | nil => rfl
  | cons c cs ih =>
      rw [List.all_cons, Bool.and_eq_true] at blank
      obtain ⟨first, others⟩ := blank
      have no_digit : ¬ c.isDigit = true := fun digit => by
        rw [Text.isBlank_of_isDigit digit] at first
        cases first
      rw [takeDigits, if_neg no_digit, if_pos first, ih others]

theorem takeDigits_append {digits rest : List Char} (all : isDigits digits = true)
    (stops : takeDigits rest = ([], rest)) : takeDigits (digits ++ rest) = (digits, rest) := by
  induction digits with
  | nil => exact stops
  | cons c cs ih =>
      rw [isDigits, List.all_cons, Bool.and_eq_true] at all
      obtain ⟨digit, all⟩ := all
      rw [List.cons_append, takeDigits, if_pos digit, ih all]

theorem takeDigits_letter {c : Char} (letter : c.isAlpha = true) (rest : List Char) :
    takeDigits (c :: rest) = ([], c :: rest) := by
  rw [takeDigits, Text.isDigit_of_isAlpha letter, Text.isBlank_of_isAlpha letter]
  rfl

theorem takeFraction?_letter {c : Char} (letter : c.isAlpha = true) (rest : List Char) :
    takeFraction? (c :: rest) = some (none, c :: rest) := by
  unfold takeFraction?
  split
  · rename_i same
    obtain rfl := (List.cons.inj same).1
    cases letter
  · rfl

theorem isSpelled_iff {name : String} {unit : DurationUnit} :
    isSpelled name unit = true ↔ DurationUnit.ofName? name = some unit ∧
      (∀ c ∈ name.toList, c.isAlpha = true) ∧ name.toList ≠ [] := by
  rw [isSpelled, Bool.and_eq_true, Bool.and_eq_true, beq_iff_eq, List.all_eq_true, and_assoc,
    Bool.not_eq_true', String.isEmpty_eq_false_iff, ne_eq, ne_eq,
    String.toList_eq_nil_iff]

/-- A part is read up to a character that cannot stand in a unit name. -/
theorem readTerm?_part {p : Part} (proper : p.Proper) {rest : List Char}
    (stops : ∀ c ∈ rest.head?, isUnitChar c = false) :
    readTerm? (p.text ++ rest) = some (p.term, rest) := by
  obtain ⟨named, all, some_letter⟩ := isSpelled_iff.mp proper.spelled
  obtain ⟨first, name, split⟩ := List.exists_cons_of_ne_nil some_letter
  obtain ⟨digit, digits, split'⟩ := List.exists_cons_of_ne_nil (@Nat.toDigits_ne_nil p.count 10)
  have letters : ∀ c ∈ p.name.toList, isUnitChar c = true := by
    intro c member
    rw [isUnitChar, all c member]
    rfl
  have letter : first.isAlpha = true := all first (split ▸ List.mem_cons_self)
  have count : takeDigits (p.text ++ rest) = (digit :: digits, p.name.toList ++ rest) := by
    rw [Part.text, List.append_assoc, ← split']
    refine takeDigits_append (isDigits_toDigits _) ?_
    rw [split]
    exact takeDigits_letter letter _
  have no_fraction : takeFraction? (p.name.toList ++ rest) = some (none, p.name.toList ++ rest) := by
    rw [split]
    exact takeFraction?_letter letter _
  have no_more : rest.takeWhile isUnitChar = [] ∧ rest.dropWhile isUnitChar = rest := by
    cases rest with
    | nil => exact ⟨rfl, rfl⟩
    | cons c cs =>
        have other : ¬ isUnitChar c = true := by rw [stops c rfl]; decide
        exact ⟨List.takeWhile_cons_of_neg other, List.dropWhile_cons_of_neg other⟩
  rw [readTerm?, count]
  simp only [no_fraction, Option.bind_eq_bind, Option.bind_some,
    List.takeWhile_append_of_pos letters, List.dropWhile_append_of_pos letters, no_more.1,
    no_more.2, List.append_nil, String.ofList_toList, named, ← split']
  rfl

theorem readTerms?_cons {cs rest : List Char} {term : DurationTerm}
    (read : readTerm? cs = some (term, rest)) :
    readTerms? cs = (readTerms? rest).map (term :: ·) := by
  have not_blank : ¬ cs.all Text.isBlank = true := by
    intro blank
    rw [readTerm?, takeDigits_blank blank] at read
    cases read
  rw [readTerms?, if_neg not_blank]
  split
  · rename_i none_read
    rw [read] at none_read
    cases none_read
  · rename_i some_read
    rw [read] at some_read
    cases some_read
    rfl

/-- The parts after the first one, with blanks between. -/
def laterText (ps : List Part) : List Char :=
  ps.flatMap fun p => ' ' :: p.text

theorem laterText_stops (ps : List Part) : ∀ c ∈ (laterText ps).head?, isUnitChar c = false := by
  cases ps with
  | nil => exact fun _ none => nomatch none
  | cons p ps =>
      intro c member
      obtain rfl : ' ' = c := Option.some.inj member
      decide

theorem readTerms?_laterText {ps : List Part} (proper : ∀ p ∈ ps, p.Proper) :
    readTerms? (laterText ps) = some (ps.map Part.term) := by
  induction ps with
  | nil =>
      rw [laterText, List.flatMap_nil, readTerms?]
      rfl
  | cons p ps ih =>
      obtain ⟨first, others⟩ := List.forall_mem_cons.mp proper
      have skipped : readTerm? (laterText (p :: ps)) = readTerm? (p.text ++ laterText ps) := rfl
      have read := readTerm?_part first (laterText_stops ps)
      rw [readTerms?_cons (skipped.trans read), ih others]
      rfl

/-- **The parts are read as their terms.** -/
theorem readTerms?_parts {p : Part} {ps : List Part} (proper : ∀ q ∈ p :: ps, q.Proper) :
    readTerms? (p.text ++ laterText ps) = some ((p :: ps).map Part.term) := by
  obtain ⟨first, others⟩ := List.forall_mem_cons.mp proper
  rw [readTerms?_cons (readTerm?_part first (laterText_stops ps)), readTerms?_laterText others]
  rfl

/-! ### The characters of a list of parts -/

theorem isAlphanum_of_mem_text {p : Part} (proper : p.Proper) {c : Char} (member : c ∈ p.text) :
    c.isAlphanum = true := by
  rcases List.mem_append.mp member with digit | letter
  · exact Text.isAlphanum_of_isDigit (mem_isDigit (isDigits_toDigits p.count) digit)
  · exact Text.isAlphanum_of_isAlpha ((isSpelled_iff.mp proper.spelled).2.1 c letter)

theorem text_ne_nil (p : Part) : p.text ≠ [] :=
  List.append_ne_nil_of_left_ne_nil Nat.toDigits_ne_nil _

theorem mem_parts {p : Part} {ps : List Part} (proper : ∀ q ∈ p :: ps, q.Proper) {c : Char}
    (member : c ∈ p.text ++ laterText ps) : c.isAlphanum = true ∨ c = ' ' := by
  rcases List.mem_append.mp member with first | later
  · exact .inl (isAlphanum_of_mem_text (proper p List.mem_cons_self) first)
  · obtain ⟨q, listed, inside⟩ := List.mem_flatMap.mp later
    rcases List.mem_cons.mp inside with blank | inside
    · exact .inr blank
    · exact .inl (isAlphanum_of_mem_text (proper q (List.mem_cons_of_mem p listed)) inside)

/-- A list of parts ends in the last one of them. -/
theorem getLast?_parts {p : Part} {ps : List Part} (proper : ∀ q ∈ p :: ps, q.Proper) :
    ∀ c ∈ (p.text ++ laterText ps).getLast?, c.isAlphanum = true := by
  induction ps generalizing p with
  | nil =>
      intro c last
      rw [laterText, List.flatMap_nil, List.append_nil] at last
      exact isAlphanum_of_mem_text (proper p List.mem_cons_self) (List.mem_of_getLast? last)
  | cons q qs ih =>
      have later : p.text ++ laterText (q :: qs) = (p.text ++ [' ']) ++ (q.text ++ laterText qs) := by
        simp [laterText]
      have some_char : q.text ++ laterText qs ≠ [] :=
        List.append_ne_nil_of_left_ne_nil (text_ne_nil q) _
      rw [later, List.getLast?_append_of_ne_nil _ some_char]
      exact ih (List.forall_mem_cons.mp proper).2

/-! ### Adding the terms -/

theorem word?_of_lt {n : Nat} (small : n < UInt64.size) : word? n = some n :=
  if_pos small

theorem ofNanos?_of_lt {n : Nat} (fits : n < UInt64.size * 1000000000) :
    Duration.ofNanos? n = some ⟨n, fits⟩ := by
  rw [Duration.ofNanos?, dif_pos fits]

theorem DurationUnit.subsecondScale?_pos {unit : DurationUnit} {scale : Nat}
    (below : unit.subsecondScale? = some scale) : 0 < scale := by
  cases unit <;> cases below <;> decide

theorem DurationUnit.secondScale_pos {unit : DurationUnit} (above : unit.subsecondScale? = none) :
    0 < unit.secondScale := by
  cases unit <;> first | decide | cases above

/-- A part is added whole. -/
theorem addWhole?_term {p : Part} (proper : p.Proper) {total : Duration}
    (fits : total.nanos + p.nanos < UInt64.size * 1000000000) :
    p.term.addWhole? total = some ⟨total.nanos + p.nanos, fits⟩ := by
  have count : natOfDigits p.term.whole = p.count := natOfDigits_toDigits p.count
  have second : nanosPerSecond = 1000000000 := rfl
  have size : UInt64.size = 18446744073709551616 := rfl
  have unit : p.term.unit = p.unit := rfl
  unfold DurationTerm.addWhole?
  rw [count, unit]
  cases scaled : p.unit.subsecondScale? with
  | some scale =>
      have nanos : p.nanos = p.count * scale := by rw [Part.nanos, DurationUnit.nanos, scaled]
      have below := proper.below scale scaled
      have le := Nat.le_mul_of_pos_right p.count (DurationUnit.subsecondScale?_pos scaled)
      have rest : total.subsecond < nanosPerSecond := Nat.mod_lt _ (by decide)
      have small_count : p.count < UInt64.size := by omega
      have small : p.nanos < UInt64.size := by omega
      have small_sum : total.subsecond + p.nanos < UInt64.size := by omega
      rw [word?_of_lt small_count]
      simp only [Option.bind_eq_bind, Option.bind_some, ← nanos, word?_of_lt small, addNanos?,
        word?_of_lt small_sum]
      exact ofNanos?_of_lt fits
  | none =>
      have nanos : p.nanos = p.count * p.unit.secondScale * nanosPerSecond := by
        rw [Part.nanos, DurationUnit.nanos, scaled, Nat.mul_assoc]
      have le := Nat.le_mul_of_pos_right p.count (DurationUnit.secondScale_pos scaled)
      have small : p.count * p.unit.secondScale < UInt64.size := by
        rw [nanos, second] at fits
        omega
      have added : addSeconds? total (p.count * p.unit.secondScale) = some ⟨_, fits⟩ := by
        rw [addSeconds?, ← nanos, ofNanos?_of_lt fits]
      rw [word?_of_lt (Nat.lt_of_le_of_lt le small), Option.bind_eq_bind, Option.bind_some,
        word?_of_lt small, Option.bind_some]
      exact added

theorem addTo?_term {p : Part} (proper : p.Proper) {total : Duration}
    (fits : total.nanos + p.nanos < UInt64.size * 1000000000) :
    p.term.addTo? total = some ⟨total.nanos + p.nanos, fits⟩ := by
  rw [DurationTerm.addTo?, addWhole?_term proper fits]
  rfl

/-- A sum that is not too large is not too large on the way. -/
theorem foldlM_addTo? {ps : List Part} (proper : ∀ p ∈ ps, p.Proper) {total : Duration}
    (fits : total.nanos + (ps.map Part.nanos).sum < UInt64.size * 1000000000) :
    (ps.map Part.term).foldlM (fun total term => term.addTo? total) total =
      some ⟨total.nanos + (ps.map Part.nanos).sum, fits⟩ := by
  induction ps generalizing total with
  | nil => rfl
  | cons p ps ih =>
      obtain ⟨first, others⟩ := List.forall_mem_cons.mp proper
      rw [List.map_cons, List.sum_cons] at fits
      have fits' : total.nanos + p.nanos < UInt64.size * 1000000000 := by omega
      have fits'' : (⟨_, fits'⟩ : Duration).nanos + (ps.map Part.nanos).sum <
          UInt64.size * 1000000000 := by
        change total.nanos + p.nanos + _ < _
        omega
      rw [List.map_cons, List.foldlM_cons, addTo?_term first fits']
      refine (ih others fits'').trans ?_
      simp only [List.map_cons, List.sum_cons, Nat.add_assoc]

/-! ### The parts of a duration -/

namespace Duration

/-- The parts of a duration from years down to nanoseconds. -/
def allParts (d : Duration) : List Part :=
  let s := d.seconds
  let n := d.subsecond
  let plural (count : Nat) (name : String) := if count > 1 then name ++ "s" else name
  let years := s / 31557600
  let months := s % 31557600 / 2630016
  let days := s % 31557600 % 2630016 / 86400
  let clock := s % 31557600 % 2630016 % 86400
  [⟨years, plural years "year", .year⟩, ⟨months, plural months "month", .month⟩,
    ⟨days, plural days "day", .day⟩, ⟨clock / 3600, "h", .hour⟩,
    ⟨clock % 3600 / 60, "m", .minute⟩, ⟨clock % 60, "s", .second⟩,
    ⟨n / 1000000, "ms", .millisecond⟩, ⟨n / 1000 % 1000, "us", .microsecond⟩,
    ⟨n % 1000, "ns", .nanosecond⟩]

theorem parts_eq (d : Duration) : d.parts = d.allParts.map fun p => (p.count, p.name) :=
  rfl

theorem seconds_eq (s : Nat) :
    s / 31557600 * 31557600 + (s % 31557600 / 2630016 * 2630016 +
      (s % 31557600 % 2630016 / 86400 * 86400 +
        (s % 31557600 % 2630016 % 86400 / 3600 * 3600 +
          (s % 31557600 % 2630016 % 86400 % 3600 / 60 * 60 +
            s % 31557600 % 2630016 % 86400 % 60)))) = s := by
  omega

theorem subsecond_eq (n : Nat) :
    n / 1000000 * 1000000 + (n / 1000 % 1000 * 1000 + n % 1000) = n := by
  have thousands : n / 1000 / 1000 = n / 1000000 := Nat.div_div_eq_div_mul ..
  omega

/-- The parts make up the duration. -/
theorem sum_allParts (d : Duration) : (d.allParts.map Part.nanos).sum = d.nanos := by
  have split : d.seconds * nanosPerSecond + d.subsecond = d.nanos := Nat.div_add_mod' ..
  have seconds := seconds_eq d.seconds
  have below := subsecond_eq d.subsecond
  have year : DurationUnit.year.nanos = 31557600 * nanosPerSecond := rfl
  have month : DurationUnit.month.nanos = 2630016 * nanosPerSecond := rfl
  have day : DurationUnit.day.nanos = 86400 * nanosPerSecond := rfl
  have hour : DurationUnit.hour.nanos = 3600 * nanosPerSecond := rfl
  have minute : DurationUnit.minute.nanos = 60 * nanosPerSecond := rfl
  have second : DurationUnit.second.nanos = nanosPerSecond := rfl
  have millisecond : DurationUnit.millisecond.nanos = 1000000 := rfl
  have microsecond : DurationUnit.microsecond.nanos = 1000 := rfl
  have nanosecond : DurationUnit.nanosecond.nanos = 1 := rfl
  rw [← split]
  conv_rhs => rw [← seconds, ← below]
  -- As proofs by computation these steps would make the kernel count up to the width of a year.
  simp -implicitDefEqProofs only [allParts, List.map_cons, List.map_nil, List.sum_cons,
    List.sum_nil, Part.nanos, year, month, day, hour, minute, second, millisecond, microsecond,
    nanosecond]
  ring

theorem below_of_above {p : Part} (above : p.unit.subsecondScale? = none) (scale : Nat)
    (below : p.unit.subsecondScale? = some scale) : p.count * scale < nanosPerSecond := by
  rw [above] at below
  cases below

/-- The name of a larger unit depends on its count. -/
theorem proper_plural (count : Nat) {name : String} {unit : DurationUnit}
    (above : unit.subsecondScale? = none)
    (spelled : (isSpelled name unit && isSpelled (name ++ "s") unit) = true) :
    (⟨count, if count > 1 then name ++ "s" else name, unit⟩ : Part).Proper := by
  obtain ⟨one, many⟩ := Bool.and_eq_true_iff.mp spelled
  refine ⟨?_, below_of_above above⟩
  by_cases several : count > 1
  · rw [if_pos several]
    exact many
  · rw [if_neg several]
    exact one

/-- The name of a smaller unit is the same for every count. -/
theorem proper_above (count : Nat) {name : String} {unit : DurationUnit}
    (above : unit.subsecondScale? = none) (spelled : isSpelled name unit = true) :
    (⟨count, name, unit⟩ : Part).Proper :=
  ⟨spelled, below_of_above above⟩

theorem proper_below {count scale : Nat} {name : String} {unit : DurationUnit}
    (below : unit.subsecondScale? = some scale) (small : count * scale < nanosPerSecond)
    (spelled : isSpelled name unit = true) : (⟨count, name, unit⟩ : Part).Proper := by
  refine ⟨spelled, fun scale' below' => ?_⟩
  obtain rfl : scale = scale' := Option.some.inj (below.symm.trans below')
  exact small

theorem proper_allParts (d : Duration) : ∀ p ∈ d.allParts, p.Proper := by
  have rest : d.subsecond < 1000000000 := Nat.mod_lt _ (Nat.succ_pos _)
  have second : nanosPerSecond = 1000000000 := rfl
  simp only [allParts, List.mem_cons, List.not_mem_nil, or_false]
  rintro p (rfl | rfl | rfl | rfl | rfl | rfl | rfl | rfl | rfl)
  · exact proper_plural _ rfl (by decide)
  · exact proper_plural _ rfl (by decide)
  · exact proper_plural _ rfl (by decide)
  · exact proper_above _ rfl (by decide)
  · exact proper_above _ rfl (by decide)
  · exact proper_above _ rfl (by decide)
  · exact proper_below rfl (by omega) (by decide)
  · exact proper_below rfl (by omega) (by decide)
  · exact proper_below rfl (by omega) (by decide)

/-- The parts that are written: those that are not zero, or a zero in seconds. -/
def shown (d : Duration) : List Part :=
  match d.allParts.filter (·.count ≠ 0) with
  | [] => [⟨0, "s", .second⟩]
  | ps => ps

theorem shown_ne_nil (d : Duration) : d.shown ≠ [] := by
  unfold shown
  split
  · exact List.cons_ne_nil _ _
  · rename_i some_part
    exact some_part

theorem proper_shown (d : Duration) : ∀ p ∈ d.shown, p.Proper := by
  intro p member
  unfold shown at member
  split at member
  · obtain rfl := List.mem_singleton.mp member
    exact proper_above 0 rfl (by decide)
  · exact d.proper_allParts p (List.mem_of_mem_filter member)

/-- Parts that are zero add nothing. -/
theorem sum_filter (ps : List Part) :
    ((ps.filter (·.count ≠ 0)).map Part.nanos).sum = (ps.map Part.nanos).sum := by
  induction ps with
  | nil => rfl
  | cons p ps ih =>
      by_cases zero : p.count = 0
      · have nothing : p.nanos = 0 := by rw [Part.nanos, zero, Nat.zero_mul]
        rw [List.filter_cons_of_neg (by simp [zero]), ih, List.map_cons, List.sum_cons, nothing,
          Nat.zero_add]
      · rw [List.filter_cons_of_pos (by simp [zero]), List.map_cons, List.sum_cons, ih,
          List.map_cons, List.sum_cons]

theorem sum_shown (d : Duration) : (d.shown.map Part.nanos).sum = d.nanos := by
  refine Eq.trans ?_ ((sum_filter d.allParts).trans d.sum_allParts)
  unfold shown
  split
  · rename_i no_part
    rw [no_part]
    rfl
  · rfl

theorem intercalate_parts (p : Part) (ps : List Part) :
    List.intercalate [' '] ((p :: ps).map Part.text) = p.text ++ laterText ps := by
  induction ps generalizing p with
  | nil => simp [laterText]
  | cons q qs ih =>
      have later := ih q
      rw [List.map_cons] at later
      rw [List.map_cons, List.map_cons, List.intercalate_cons_cons, later]
      simp [laterText]

/-- A duration is written as its parts, with blanks between. -/
theorem toList_text {d : Duration} {p : Part} {ps : List Part} (shown : d.shown = p :: ps) :
    d.text.toList = p.text ++ laterText ps := by
  have filtered : d.parts.filter (·.1 ≠ 0) =
      (d.allParts.filter (·.count ≠ 0)).map fun p => (p.count, p.name) := by
    rw [parts_eq, List.filter_map]
    rfl
  unfold text
  rw [filtered]
  unfold Duration.shown at shown
  split at shown
  · rename_i no_part
    cases shown
    rw [no_part]
    rfl
  · have written : ∀ p : Part, (toString p.count ++ p.name).toList = p.text := by
      intro p
      rw [String.toList_append, Part.text]
      exact congrArg (· ++ p.name.toList) Nat.toList_repr
    rw [shown]
    simp only [List.isEmpty_map, List.isEmpty_cons, Bool.false_eq_true, if_false, List.map_map]
    rw [String.toList_intercalate, List.map_map, ← intercalate_parts]
    congr 1
    exact List.map_congr_left fun p _ => written p

/-- **A duration is read as it was written.** -/
theorem read?_text (d : Duration) : read? d.text = some d := by
  obtain ⟨p, ps, shown⟩ := List.exists_cons_of_ne_nil d.shown_ne_nil
  have proper : ∀ q ∈ p :: ps, q.Proper := shown ▸ d.proper_shown
  have sum : ((p :: ps).map Part.nanos).sum = d.nanos := shown ▸ d.sum_shown
  have terms := readTerms?_parts proper
  rw [← toList_text shown] at terms
  have not_zero : d.text ≠ "0" := by
    intro zero
    obtain ⟨-, -, some_letter⟩ := isSpelled_iff.mp (proper p List.mem_cons_self).spelled
    have digits := List.length_pos_of_ne_nil (@Nat.toDigits_ne_nil p.count 10)
    have letters := List.length_pos_of_ne_nil some_letter
    have length := congrArg List.length (toList_text shown)
    rw [zero, Part.text, List.length_append, List.length_append] at length
    change 1 = _ at length
    omega
  have fits : zero.nanos + ((p :: ps).map Part.nanos).sum < UInt64.size * 1000000000 := by
    rw [sum]
    exact (Nat.zero_add d.nanos).symm ▸ d.inRange
  have added := foldlM_addTo? proper fits
  rw [read?, if_neg not_zero, terms]
  simp only [List.map_cons] at added ⊢
  rw [added]
  refine congrArg some (Duration.ext ?_)
  exact (Nat.zero_add _).trans sum

end Duration

end Metering.Time
