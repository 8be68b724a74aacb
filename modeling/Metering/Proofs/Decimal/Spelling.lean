import Mathlib.Data.List.Basic
import Mathlib.Data.List.TakeWhile
import Metering.Decimal.Numeral
import Metering.Proofs.Decimal.Digits
import Metering.Proofs.Text.Character

/-!
How numerals are spelled.

A numeral is spelled with an optional sign, whole digits that may be grouped in threes, an optional
fraction and an optional power of ten, and with at least one digit before the power
(`Spelling.Proper`). A reader finds these parts again (`Spelling.read?_text`), and whatever it reads
is spelled like that (`exists_spelling`), so just these texts are read (`read?_eq_some_iff`).
-/

namespace Metering.Decimal

open Metering.Text (ne_of_kind beq_false_of_kind)

/-! ### Spellings -/

/-- A written sign: `true` is a minus, `false` a plus. -/
def signText : Option Bool → List Char
  | none => []
  | some true => ['-']
  | some false => ['+']

/-- A power of ten as it is written after the mantissa. -/
structure PowerSpelling where
  mark : Char
  sign : Option Bool
  digits : List Char

namespace PowerSpelling

def text (w : PowerSpelling) : List Char :=
  w.mark :: (signText w.sign ++ w.digits)

def value (w : PowerSpelling) : Int :=
  if w.sign.getD false then -natOfDigits w.digits else natOfDigits w.digits

/-- The mark is an `e`, in either case, and there is a digit. -/
structure Proper (w : PowerSpelling) : Prop where
  mark : w.mark = 'e' ∨ w.mark = 'E'
  digits : isDigits w.digits = true
  some_digit : w.digits ≠ []

end PowerSpelling

/-- What a numeral is spelled with. -/
structure Spelling where
  sign : Option Bool
  /-- The whole digits before the first comma. -/
  leading : List Char
  /-- The groups of whole digits that commas stand before. -/
  groups : List (List Char)
  fraction : Option (List Char)
  power : Option PowerSpelling

namespace Spelling

/-- The whole part as it is written, commas included. -/
def wholeText (w : Spelling) : List Char :=
  w.leading ++ w.groups.flatMap (',' :: ·)

def fractionText (w : Spelling) : List Char :=
  (w.fraction.map ('.' :: ·)).getD []

def powerText (w : Spelling) : List Char :=
  (w.power.map PowerSpelling.text).getD []

def text (w : Spelling) : List Char :=
  signText w.sign ++ (w.wholeText ++ w.fractionText ++ w.powerText)

def negative (w : Spelling) : Bool :=
  w.sign.getD false

/-- The whole digits, with or without commas. -/
def whole (w : Spelling) : List Char :=
  w.leading ++ w.groups.flatten

def fractionDigits (w : Spelling) : List Char :=
  w.fraction.getD []

/-- The power of ten that is written, or that of one. -/
def exponent (w : Spelling) : Int :=
  (w.power.map PowerSpelling.value).getD 0

/-- The numeral that is read from the text. -/
def numeral (w : Spelling) : Numeral :=
  ⟨w.negative, natOfDigits (w.whole ++ w.fractionDigits), w.exponent - w.fractionDigits.length⟩

/-- Commas stand before groups of three digits, with one to three digits before the first comma,
and there is a digit before the power. -/
structure Proper (w : Spelling) : Prop where
  leading : isDigits w.leading = true
  groups : ∀ group ∈ w.groups, isDigits group = true ∧ group.length = 3
  led : w.groups ≠ [] → 1 ≤ w.leading.length ∧ w.leading.length ≤ 3
  fraction : isDigits w.fractionDigits = true
  some_digit : w.leading ≠ [] ∨ w.fractionDigits ≠ []
  power : ∀ power ∈ w.power, power.Proper

end Spelling

/-! ### Cutting texts apart -/

section

variable {p : Char → Bool} {cs first : List Char}

/-- A text without a cut is left whole. -/
theorem cutAt_none (before : ∀ c ∈ cs, p c = false) : cutAt p cs = (cs, none) := by
  have dropped : cs.dropWhile (!p ·) = [] :=
    List.dropWhile_eq_nil_iff.mpr fun c member => by rw [before c member]; rfl
  rw [cutAt, dropped]

/-- A text is cut at the first place there is. -/
theorem cutAt_some (before : ∀ c ∈ cs, p c = false) {d : Char} (cut : p d = true)
    (rest : List Char) : cutAt p (cs ++ d :: rest) = (cs, some rest) := by
  have passed : ∀ c ∈ cs, (!p c) = true := fun c member => by rw [before c member]; rfl
  have stops : ¬ (!p d) = true := by rw [cut]; decide
  rw [cutAt, List.dropWhile_append_of_pos passed, List.dropWhile_cons_of_neg (p := (!p ·)) stops]
  simp only
  rw [List.takeWhile_append_of_pos passed, List.takeWhile_cons_of_neg (p := (!p ·)) stops,
    List.append_nil]

/-- The parts of a text that was cut make it up again. -/
theorem eq_of_cutAt {second : Option (List Char)} (cut : cutAt p cs = (first, second)) :
    (second = none ∧ cs = first) ∨
      ∃ d rest, p d = true ∧ second = some rest ∧ cs = first ++ d :: rest := by
  have joined := List.takeWhile_append_dropWhile (p := (!p ·)) (l := cs)
  rw [cutAt] at cut
  split at cut
  · obtain ⟨rfl, rfl⟩ := Prod.mk.inj cut
    exact .inl ⟨rfl, rfl⟩
  · rename_i d rest dropped
    obtain ⟨rfl, rfl⟩ := Prod.mk.inj cut
    have stops := List.head?_dropWhile_not (p := (!p ·)) cs
    rw [dropped] at stops joined
    refine .inr ⟨d, rest, ?_, rfl, joined.symm⟩
    simpa using stops

end

/-! ### Signs -/

/-- A sign is taken away from a text that has no other one. -/
theorem takeSign_signText (sign : Option Bool) {cs : List Char}
    (unsigned : ∀ c ∈ cs.head?, c ≠ '-' ∧ c ≠ '+') :
    takeSign (signText sign ++ cs) = (sign.getD false, cs) := by
  match sign with
  | some true => rfl
  | some false => rfl
  | none =>
      rw [signText, List.nil_append]
      unfold takeSign
      split
      · exact absurd rfl (unsigned '-' rfl).1
      · exact absurd rfl (unsigned '+' rfl).2
      · rfl

theorem exists_sign (cs : List Char) : ∃ sign, cs = signText sign ++ (takeSign cs).2 := by
  unfold takeSign
  split
  · exact ⟨some true, rfl⟩
  · exact ⟨some false, rfl⟩
  · exact ⟨none, rfl⟩

theorem unsigned_of_isDigits {cs : List Char} (digits : isDigits cs = true) :
    ∀ c ∈ cs.head?, c ≠ '-' ∧ c ≠ '+' := by
  intro c head
  have digit := mem_isDigit digits (List.mem_of_mem_head? head)
  exact ⟨ne_of_kind digit rfl, ne_of_kind digit rfl⟩

/-! ### Powers -/

theorem readExponent?_text {w : PowerSpelling} (proper : w.Proper) :
    readExponent? (signText w.sign ++ w.digits) = some w.value := by
  have filled : (w.digits.isEmpty || !isDigits w.digits) = false := by
    rw [proper.digits, List.isEmpty_eq_false_iff.mpr proper.some_digit]
    rfl
  rw [readExponent?, takeSign_signText w.sign (unsigned_of_isDigits proper.digits)]
  simp only [filled, Bool.false_eq_true, if_false]
  rfl

theorem exists_powerSpelling {mark : Char} (e : mark = 'e' ∨ mark = 'E') {cs : List Char} {n : Int}
    (read : readExponent? cs = some n) :
    ∃ w : PowerSpelling, w.Proper ∧ w.text = mark :: cs := by
  obtain ⟨sign, split⟩ := exists_sign cs
  rw [readExponent?] at read
  simp only [Option.ite_none_left_eq_some, Bool.or_eq_true, Bool.not_eq_true', not_or,
    Bool.not_eq_true, Bool.not_eq_false] at read
  obtain ⟨⟨filled, digits⟩, -⟩ := read
  refine ⟨⟨mark, sign, (takeSign cs).2⟩, ⟨e, digits, List.isEmpty_eq_false_iff.mp filled⟩, ?_⟩
  rw [PowerSpelling.text, ← split]

/-! ### Whole parts -/

/-- Digits are taken up to a character that is none. -/
theorem span_isDigit {digits rest : List Char} (all : isDigits digits = true)
    (stops : ∀ c ∈ rest.head?, c.isDigit = false) :
    (digits ++ rest).takeWhile Char.isDigit = digits ∧
      (digits ++ rest).dropWhile Char.isDigit = rest := by
  have passed : ∀ c ∈ digits, c.isDigit = true := fun c => mem_isDigit all
  rw [List.takeWhile_append_of_pos passed, List.dropWhile_append_of_pos passed]
  cases rest with
  | nil => exact ⟨List.append_nil _, rfl⟩
  | cons c rest =>
      have stop : ¬ c.isDigit = true := by rw [stops c rfl]; exact Bool.false_ne_true
      rw [List.takeWhile_cons_of_neg stop, List.dropWhile_cons_of_neg stop]
      exact ⟨List.append_nil _, rfl⟩

theorem isGroupTail_flatMap {groups : List (List Char)}
    (proper : ∀ group ∈ groups, isDigits group = true ∧ group.length = 3) :
    isGroupTail (groups.flatMap (',' :: ·)) = true := by
  induction groups with
  | nil => rfl
  | cons group groups ih =>
      obtain ⟨digits, three⟩ := proper group List.mem_cons_self
      obtain ⟨a, b, c, rfl⟩ := List.length_eq_three.mp three
      rw [List.flatMap_cons]
      change (isDigits [a, b, c] && isGroupTail (groups.flatMap (',' :: ·))) = true
      rw [digits, ih fun group member => proper group (List.mem_cons_of_mem _ member)]
      rfl

theorem exists_groups {cs : List Char} (tail : isGroupTail cs = true) :
    ∃ groups : List (List Char), cs = groups.flatMap (',' :: ·) ∧
      ∀ group ∈ groups, isDigits group = true ∧ group.length = 3 := by
  fun_induction isGroupTail cs with
  | case1 => exact ⟨[], rfl, fun group member => nomatch member⟩
  | case2 a b c rest ih =>
      rw [Bool.and_eq_true] at tail
      obtain ⟨groups, rfl, proper⟩ := ih tail.2
      refine ⟨[a, b, c] :: groups, rfl, fun group member => ?_⟩
      rcases List.mem_cons.mp member with rfl | member
      · exact ⟨tail.1, rfl⟩
      · exact proper group member
  | case3 => cases tail

namespace Spelling

variable {w : Spelling}

theorem isWholePart_wholeText (proper : w.Proper) : isWholePart w.wholeText = true := by
  have groups := isGroupTail_flatMap proper.groups
  have stops : ∀ c ∈ (w.groups.flatMap (',' :: ·)).head?, c.isDigit = false := by
    cases w.groups with
    | nil => exact fun c head => nomatch head
    | cons group groups =>
        intro c head
        obtain rfl : ',' = c := Option.some.inj head
        rfl
  obtain ⟨taken, dropped⟩ := span_isDigit proper.leading stops
  rw [isWholePart, wholeText, taken, dropped]
  split
  · rfl
  · rename_i some_group
    have led := proper.led fun none => some_group (by rw [none]; rfl)
    rw [groups, decide_eq_true led.1, decide_eq_true led.2]
    rfl

end Spelling

theorem exists_wholePart {cs : List Char} (whole : isWholePart cs = true) :
    ∃ (leading : List Char) (groups : List (List Char)),
      cs = leading ++ groups.flatMap (',' :: ·) ∧ isDigits leading = true ∧
      (∀ group ∈ groups, isDigits group = true ∧ group.length = 3) ∧
      (groups ≠ [] → 1 ≤ leading.length ∧ leading.length ≤ 3) := by
  have joined := List.takeWhile_append_dropWhile (p := Char.isDigit) (l := cs)
  have digits : isDigits (cs.takeWhile Char.isDigit) = true := List.all_takeWhile
  rw [isWholePart] at whole
  split at whole
  · rename_i none
    rw [none, List.append_nil] at joined
    refine ⟨cs, [], (List.append_nil cs).symm, joined ▸ digits, ?_, fun some => absurd rfl some⟩
    exact fun group member => nomatch member
  · rw [Bool.and_eq_true, Bool.and_eq_true, decide_eq_true_eq, decide_eq_true_eq] at whole
    obtain ⟨groups, split, proper⟩ := exists_groups whole.2
    exact ⟨_, groups, split ▸ joined.symm, digits, proper, fun _ => whole.1⟩

/-! ### Reading -/

namespace Spelling

variable {w : Spelling}

theorem mem_wholeText (proper : w.Proper) {c : Char} (member : c ∈ w.wholeText) :
    c.isDigit = true ∨ c = ',' := by
  rcases List.mem_append.mp member with leading | grouped
  · exact .inl (mem_isDigit proper.leading leading)
  · obtain ⟨group, listed, inside⟩ := List.mem_flatMap.mp grouped
    rcases List.mem_cons.mp inside with comma | digit
    · exact .inr comma
    · exact .inl (mem_isDigit (proper.groups group listed).1 digit)

theorem mem_fractionText (proper : w.Proper) {c : Char} (member : c ∈ w.fractionText) :
    c.isDigit = true ∨ c = '.' := by
  have digits := proper.fraction
  rw [fractionText] at member
  rw [fractionDigits] at digits
  cases given : w.fraction with
  | none => rw [given] at member; cases member
  | some fraction =>
      rw [given] at member digits
      exact (List.mem_cons.mp member).symm.imp_left (mem_isDigit digits)

theorem mem_signText {sign : Option Bool} {c : Char} (member : c ∈ signText sign) :
    c = '+' ∨ c = '-' := by
  match sign with
  | some true => exact .inr (List.mem_singleton.mp member)
  | some false => exact .inl (List.mem_singleton.mp member)

theorem mem_powerText (proper : w.Proper) {c : Char} (member : c ∈ w.powerText) :
    c.isDigit = true ∨ c = '+' ∨ c = '-' ∨ c = 'e' ∨ c = 'E' := by
  rw [powerText] at member
  cases given : w.power with
  | none => rw [given] at member; cases member
  | some power =>
      rw [given] at member
      have proper := proper.power power given
      rcases List.mem_cons.mp member with rfl | member
      · exact .inr (.inr (.inr proper.mark))
      · rcases List.mem_append.mp member with sign | digits
        · exact .inr ((mem_signText sign).imp_right .inl)
        · exact .inl (mem_isDigit proper.digits digits)

/-- What stands before the power. -/
theorem mem_mantissa (proper : w.Proper) {c : Char} (member : c ∈ w.wholeText ++ w.fractionText) :
    c.isDigit = true ∨ c = ',' ∨ c = '.' := by
  rcases List.mem_append.mp member with whole | fraction
  · exact (mem_wholeText proper whole).imp_right .inl
  · exact (mem_fractionText proper fraction).imp_right .inr

/-- The characters of a numeral. -/
theorem mem_text (proper : w.Proper) {c : Char} (member : c ∈ w.text) :
    c.isDigit = true ∨ c ∈ ['+', '-', ',', '.', 'e', 'E'] := by
  simp only [List.mem_cons, List.not_mem_nil, or_false]
  rw [text, List.mem_append, List.mem_append] at member
  rcases member with sign | mantissa | power
  · have := mem_signText sign
    tauto
  · have := mem_mantissa proper mantissa
    tauto
  · have := mem_powerText proper power
    tauto

theorem mantissa_ne_nil (proper : w.Proper) : w.wholeText ++ w.fractionText ≠ [] := by
  intro none
  obtain ⟨no_whole, no_fraction⟩ := List.append_eq_nil_iff.mp none
  rcases proper.some_digit with leading | fraction
  · exact leading (List.append_eq_nil_iff.mp no_whole).1
  · rw [fractionText] at no_fraction
    rw [fractionDigits] at fraction
    cases given : w.fraction with
    | none => exact fraction (by rw [given]; rfl)
    | some digits => rw [given] at no_fraction; cases no_fraction

theorem text_ne_nil (proper : w.Proper) : w.text ≠ [] := fun none =>
  mantissa_ne_nil proper (List.append_eq_nil_iff.mp (List.append_eq_nil_iff.mp none).2).1

theorem takeSign_text (proper : w.Proper) :
    takeSign w.text = (w.negative, w.wholeText ++ w.fractionText ++ w.powerText) := by
  refine takeSign_signText w.sign fun c head => ?_
  rw [List.head?_append_of_ne_nil _ (mantissa_ne_nil proper)] at head
  rcases mem_mantissa proper (List.mem_of_mem_head? head) with digit | rfl | rfl
  · exact ⟨ne_of_kind digit rfl, ne_of_kind digit rfl⟩
  · decide
  · decide

theorem cutAt_power (proper : w.Proper) :
    cutAt (fun c => c == 'e' || c == 'E') (w.wholeText ++ w.fractionText ++ w.powerText) =
      (w.wholeText ++ w.fractionText,
        w.power.map fun power => signText power.sign ++ power.digits) := by
  have before : ∀ c ∈ w.wholeText ++ w.fractionText, (c == 'e' || c == 'E') = false := by
    intro c member
    rcases mem_mantissa proper member with digit | rfl | rfl
    · rw [beq_false_of_kind digit rfl, beq_false_of_kind digit rfl]
      rfl
    · rfl
    · rfl
  rw [powerText]
  cases given : w.power with
  | none => rw [Option.map_none, Option.getD_none, List.append_nil, cutAt_none before]; rfl
  | some power =>
      refine cutAt_some before ?_ _
      rcases (proper.power power given).mark with e | e <;> rw [e] <;> rfl

theorem cutAt_point (proper : w.Proper) :
    cutAt (· == '.') (w.wholeText ++ w.fractionText) = (w.wholeText, w.fraction) := by
  have before : ∀ c ∈ w.wholeText, (c == '.') = false := by
    intro c member
    rcases mem_wholeText proper member with digit | rfl
    · exact beq_false_of_kind digit rfl
    · rfl
  rw [fractionText]
  cases w.fraction with
  | none => rw [Option.map_none, Option.getD_none, List.append_nil, cutAt_none before]
  | some fraction => exact cutAt_some before rfl _

theorem filter_of_isDigits {cs : List Char} (digits : isDigits cs = true) :
    cs.filter (· != ',') = cs :=
  List.filter_eq_self.mpr fun _ member =>
    bne_iff_ne.mpr (ne_of_kind (mem_isDigit digits member) rfl)

theorem filter_flatMap {groups : List (List Char)}
    (proper : ∀ group ∈ groups, isDigits group = true ∧ group.length = 3) :
    (groups.flatMap (',' :: ·)).filter (· != ',') = groups.flatten := by
  induction groups with
  | nil => rfl
  | cons group groups ih =>
      rw [List.flatMap_cons, List.filter_append, List.flatten_cons,
        ih fun g member => proper g (List.mem_cons_of_mem _ member),
        List.filter_cons_of_neg (by decide), filter_of_isDigits (proper group List.mem_cons_self).1]

/-- Leaving out the commas leaves the digits. -/
theorem filter_wholeText (proper : w.Proper) : w.wholeText.filter (· != ',') = w.whole := by
  rw [wholeText, whole, List.filter_append, filter_of_isDigits proper.leading,
    filter_flatMap proper.groups]

/-- **The parts of a numeral are found again.** -/
theorem read?_text (proper : w.Proper) : Numeral.read? w.text = some w.numeral := by
  have some_digit : (w.wholeText.isEmpty && w.fractionDigits.isEmpty) = false := by
    rw [Bool.and_eq_false_iff, List.isEmpty_eq_false_iff, List.isEmpty_eq_false_iff]
    exact proper.some_digit.imp_left fun leading none => leading (List.append_eq_nil_iff.mp none).1
  have fraction := proper.fraction
  rw [fractionDigits] at some_digit fraction
  simp only [Numeral.read?, takeSign_text proper, cutAt_power proper, cutAt_point proper,
    Option.bind_eq_bind, isWholePart_wholeText proper, filter_wholeText proper, some_digit,
    fraction]
  rw [numeral, exponent]
  cases given : w.power with
  | none => rfl
  | some power =>
      simp only [Option.map_some, readExponent?_text (proper.power power given), Option.bind_some]
      rfl

end Spelling

section

variable {cs unsigned mantissa whole : List Char} {power fraction : Option (List Char)}
  {n : Numeral}

/-- What a reader checks of the parts that it cuts a text into. -/
theorem checks_of_read? (read : Numeral.read? cs = some n)
    (at_power : cutAt (fun c => c == 'e' || c == 'E') (takeSign cs).2 = (mantissa, power))
    (at_point : cutAt (· == '.') mantissa = (whole, fraction)) :
    (∀ text ∈ power, ∃ e, readExponent? text = some e) ∧ isWholePart whole = true ∧
      isDigits (fraction.getD []) = true ∧ (whole ≠ [] ∨ fraction.getD [] ≠ []) := by
  simp only [Numeral.read?, Option.bind_eq_bind] at read
  rw [at_power] at read
  simp only [at_point] at read
  have checks : (∀ text ∈ power, ∃ e, readExponent? text = some e) ∧
      ¬ (!isWholePart whole || !isDigits (fraction.getD []) ||
        whole.isEmpty && (fraction.getD []).isEmpty) = true := by
    cases power with
    | none =>
        obtain ⟨_, _, checks⟩ := Option.bind_eq_some_iff.mp read
        exact ⟨fun text none => (nomatch none), (Option.ite_none_left_eq_some.mp checks).1⟩
    | some text =>
        obtain ⟨e, found, checks⟩ := Option.bind_eq_some_iff.mp read
        refine ⟨fun text' same => ⟨e, ?_⟩, (Option.ite_none_left_eq_some.mp checks).1⟩
        rw [← Option.some.inj same, found]
  simpa only [Bool.or_eq_true, Bool.not_eq_true', not_or, Bool.not_eq_false, Bool.and_eq_true,
    List.isEmpty_iff, not_and_or, and_assoc] using checks

theorem exists_power (at_power : cutAt (fun c => c == 'e' || c == 'E') unsigned = (mantissa, power))
    (read : ∀ text ∈ power, ∃ e, readExponent? text = some e) :
    ∃ w : Option PowerSpelling, (∀ power ∈ w, power.Proper) ∧
      unsigned = mantissa ++ (w.map PowerSpelling.text).getD [] := by
  rcases eq_of_cutAt at_power with ⟨rfl, rfl⟩ | ⟨mark, text, e, rfl, rfl⟩
  · exact ⟨none, fun power none => (nomatch none), (List.append_nil _).symm⟩
  · obtain ⟨exponent, found⟩ := read text rfl
    rw [Bool.or_eq_true, beq_iff_eq, beq_iff_eq] at e
    obtain ⟨w, proper, same⟩ := exists_powerSpelling e found
    refine ⟨some w, fun power given => Option.some.inj given ▸ proper, ?_⟩
    rw [← same]
    rfl

theorem eq_of_cutAt_point (at_point : cutAt (· == '.') mantissa = (whole, fraction)) :
    mantissa = whole ++ (fraction.map ('.' :: ·)).getD [] := by
  rcases eq_of_cutAt at_point with ⟨rfl, rfl⟩ | ⟨point, digits, is_point, rfl, rfl⟩
  · exact (List.append_nil _).symm
  · rw [beq_iff_eq.mp is_point]
    rfl

/-- **Whatever is read is spelled like that.** -/
theorem exists_spelling (read : Numeral.read? cs = some n) :
    ∃ w : Spelling, w.Proper ∧ w.text = cs := by
  obtain ⟨sign, signed⟩ := exists_sign cs
  rcases at_power : cutAt (fun c => c == 'e' || c == 'E') (takeSign cs).2 with ⟨mantissa, power⟩
  rcases at_point : cutAt (· == '.') mantissa with ⟨whole, fraction⟩
  obtain ⟨power_read, whole_read, fraction_read, some_digit⟩ :=
    checks_of_read? read at_power at_point
  obtain ⟨leading, groups, rfl, leading_read, groups_read, led⟩ := exists_wholePart whole_read
  obtain ⟨written, power_proper, unsigned_eq⟩ := exists_power at_power power_read
  refine ⟨⟨sign, leading, groups, fraction, written⟩,
    ⟨leading_read, groups_read, led, fraction_read, ?_, power_proper⟩, ?_⟩
  · refine some_digit.imp_left fun some_whole (none : leading = []) => some_whole ?_
    have ungrouped : groups = [] := by
      refine Decidable.byContradiction fun some_group => ?_
      have := (led some_group).1
      rw [none] at this
      cases this
    rw [none, ungrouped]
    rfl
  · rw [signed, unsigned_eq, eq_of_cutAt_point at_point]
    rfl

end

/-- Just the spellings of numerals are read. -/
theorem read?_eq_some_iff {cs : List Char} {n : Numeral} :
    Numeral.read? cs = some n ↔ ∃ w : Spelling, w.Proper ∧ w.text = cs ∧ w.numeral = n := by
  constructor
  · intro read
    obtain ⟨w, proper, rfl⟩ := exists_spelling read
    rw [w.read?_text proper, Option.some.injEq] at read
    exact ⟨w, proper, rfl, read⟩
  · rintro ⟨w, proper, rfl, rfl⟩
    exact w.read?_text proper

/-! ### Without commas -/

namespace Spelling

variable {w : Spelling}

/-- The spelling of the same digits without groups. -/
def plain (w : Spelling) : Spelling :=
  { w with leading := w.whole, groups := [] }

theorem isDigits_whole (proper : w.Proper) : isDigits w.whole = true := by
  refine List.all_eq_true.mpr fun c member => ?_
  rcases List.mem_append.mp member with leading | grouped
  · exact mem_isDigit proper.leading leading
  · obtain ⟨group, listed, inside⟩ := List.mem_flatten.mp grouped
    exact mem_isDigit (proper.groups group listed).1 inside

theorem proper_plain (proper : w.Proper) : w.plain.Proper where
  leading := isDigits_whole proper
  groups _ none := nomatch none
  led some_group := absurd rfl some_group
  fraction := proper.fraction
  some_digit := proper.some_digit.imp_left fun leading none =>
    leading (List.append_eq_nil_iff.mp none).1
  power := proper.power

theorem numeral_plain (w : Spelling) : w.plain.numeral = w.numeral := by
  have whole : w.plain.whole = w.whole := List.append_nil w.whole
  rw [numeral, whole]
  rfl

/-- The text without commas. -/
theorem text_plain (proper : w.Proper) : w.plain.text = w.text.filter (· != ',') := by
  have kept {cs : List Char} (no_comma : ∀ c ∈ cs, c ≠ ',') : cs.filter (· != ',') = cs :=
    List.filter_eq_self.mpr fun c member => bne_iff_ne.mpr (no_comma c member)
  have sign : (signText w.sign).filter (· != ',') = signText w.sign := kept fun c member => by
    rcases mem_signText member with rfl | rfl <;> decide
  have fraction : w.fractionText.filter (· != ',') = w.fractionText := kept fun c member => by
    rcases mem_fractionText proper member with digit | rfl
    · exact ne_of_kind digit rfl
    · decide
  have power : w.powerText.filter (· != ',') = w.powerText := kept fun c member => by
    rcases mem_powerText proper member with digit | rfl | rfl | rfl | rfl
    · exact ne_of_kind digit rfl
    all_goals decide
  have whole : w.plain.wholeText = w.whole := List.append_nil w.whole
  rw [text, text, List.filter_append, List.filter_append, List.filter_append, sign, fraction, power,
    filter_wholeText proper, whole]
  rfl

end Spelling

end Metering.Decimal
