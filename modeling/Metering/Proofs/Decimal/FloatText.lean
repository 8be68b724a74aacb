import Metering.Decimal.Layout
import Metering.Decimal.Numeral
import Metering.Proofs.Decimal.Order
import Metering.Proofs.Decimal.Spelling

/-!
The text of a float reads back as that float.

Whatever the layout, a finite float is written as a sign, digits, a fraction and a power of ten
(`Parts`), of which only the digits are always there. A reader finds these parts again
(`Parts.read?_text`), and the number they denote is the shortest decimal of the float, with powers
of ten moved between its digits and its exponent (`Layout.write_parts`).
-/

namespace Metering.Decimal

/-! ### The parts of a numeral -/

/-- What a numeral is written with. -/
structure Parts where
  negative : Bool
  whole : List Char
  fraction : Option (List Char)
  power : Option Int

namespace Parts

def sign (p : Parts) : List Char :=
  if p.negative then ['-'] else []

def fractionText (p : Parts) : List Char :=
  match p.fraction with
  | none => []
  | some fraction => '.' :: fraction

def powerText (p : Parts) : List Char :=
  match p.power with
  | none => []
  | some power => 'e' :: (toString power).toList

def text (p : Parts) : List Char :=
  p.sign ++ (p.whole ++ p.fractionText ++ p.powerText)

/-- The number that the parts denote. -/
def numeral (p : Parts) : Numeral :=
  ⟨p.negative, natOfDigits (p.whole ++ p.fraction.getD []),
    p.power.getD 0 - (p.fraction.getD []).length⟩

/-- There is a digit before the point, and only digits stand around it. -/
structure Proper (p : Parts) : Prop where
  some_digit : p.whole ≠ []
  whole : isDigits p.whole = true
  fraction : isDigits (p.fraction.getD []) = true

end Parts

/-! ### Finding the parts -/

theorem toList_toString_ofNat (n : Nat) : (toString (Int.ofNat n)).toList = Nat.toDigits 10 n :=
  Nat.toList_repr

theorem toList_toString_negSucc (n : Nat) :
    (toString (Int.negSucc n)).toList = '-' :: Nat.toDigits 10 (n + 1) := by
  change ("-" ++ (n + 1).repr).toList = _
  rw [String.toList_append, Nat.toList_repr]
  rfl

/-- How a power of ten is spelled. -/
def powerSpelling : Int → PowerSpelling
  | .ofNat n => ⟨'e', none, Nat.toDigits 10 n⟩
  | .negSucc n => ⟨'e', some true, Nat.toDigits 10 (n + 1)⟩

theorem proper_powerSpelling (power : Int) : (powerSpelling power).Proper := by
  cases power with
  | ofNat n => exact ⟨.inl rfl, isDigits_toDigits n, Nat.toDigits_ne_nil⟩
  | negSucc n => exact ⟨.inl rfl, isDigits_toDigits (n + 1), Nat.toDigits_ne_nil⟩

theorem text_powerSpelling (power : Int) :
    (powerSpelling power).text = 'e' :: (toString power).toList := by
  cases power with
  | ofNat n => rw [toList_toString_ofNat]; rfl
  | negSucc n => rw [toList_toString_negSucc]; rfl

theorem value_powerSpelling (power : Int) : (powerSpelling power).value = power := by
  cases power with
  | ofNat n => exact congrArg Int.ofNat (natOfDigits_toDigits n)
  | negSucc n => exact congrArg (fun m : Nat => -(m : Int)) (natOfDigits_toDigits (n + 1))

namespace Parts

variable {p : Parts}

/-- How the parts are spelled. -/
def spelling (p : Parts) : Spelling :=
  ⟨if p.negative then some true else none, p.whole, [], p.fraction, p.power.map powerSpelling⟩

theorem proper_spelling (proper : p.Proper) : p.spelling.Proper where
  leading := proper.whole
  groups _ none := nomatch none
  led some_group := absurd rfl some_group
  fraction := proper.fraction
  some_digit := .inl proper.some_digit
  power w given := by
    obtain ⟨power, -, rfl⟩ := Option.map_eq_some_iff.mp given
    exact proper_powerSpelling power

theorem text_spelling (p : Parts) : p.spelling.text = p.text := by
  have sign : signText p.spelling.sign = p.sign := by
    rw [spelling, Parts.sign]
    cases p.negative <;> rfl
  have whole : p.spelling.wholeText = p.whole := List.append_nil p.whole
  have fraction : p.spelling.fractionText = p.fractionText := by
    rw [Spelling.fractionText, fractionText, spelling]
    cases p.fraction <;> rfl
  have power : p.spelling.powerText = p.powerText := by
    rw [Spelling.powerText, powerText, spelling]
    cases p.power with
    | none => rfl
    | some power => exact text_powerSpelling power
  rw [Spelling.text, sign, whole, fraction, power, text]

theorem numeral_spelling (p : Parts) : p.spelling.numeral = p.numeral := by
  have negative : p.spelling.negative = p.negative := by
    rw [Spelling.negative, spelling]
    cases p.negative <;> rfl
  have whole : p.spelling.whole = p.whole := List.append_nil p.whole
  have exponent : p.spelling.exponent = p.power.getD 0 := by
    rw [Spelling.exponent, spelling]
    cases p.power with
    | none => rfl
    | some power => exact value_powerSpelling power
  rw [Spelling.numeral, negative, whole, exponent]
  rfl

/-- **The parts of a numeral are found again.** -/
theorem read?_text (proper : p.Proper) : Numeral.read? p.text = some p.numeral := by
  rw [← text_spelling, Spelling.read?_text (proper_spelling proper), numeral_spelling]

end Parts

/-! ### The characters of a numeral -/

namespace Parts

variable {p : Parts}

theorem fractionText_cases (proper : p.Proper) {c : Char} (member : c ∈ p.fractionText) :
    c = '.' ∨ c.isDigit = true := by
  have digits := proper.fraction
  rw [fractionText] at member
  cases given : p.fraction with
  | none => rw [given] at member; cases member
  | some fraction =>
      rw [given] at member digits
      exact (List.mem_cons.mp member).imp_right (mem_isDigit digits)

/-- The characters of a numeral without groups of digits. -/
theorem mem_text (proper : p.Proper) {c : Char} (member : c ∈ p.text) :
    c.isDigit = true ∨ c = '-' ∨ c = '.' ∨ c = 'e' := by
  rw [text, List.mem_append, List.mem_append, List.mem_append] at member
  rcases member with sign | (whole | fraction) | power
  · rw [Parts.sign] at sign
    split at sign
    · exact .inr (.inl (List.mem_singleton.mp sign))
    · cases sign
  · exact .inl (mem_isDigit proper.whole whole)
  · rcases fractionText_cases proper fraction with point | digit
    · exact .inr (.inr (.inl point))
    · exact .inl digit
  · rw [powerText] at power
    split at power
    · cases power
    · rename_i n _
      rcases List.mem_cons.mp power with mark | power
      · exact .inr (.inr (.inr mark))
      · cases n with
        | ofNat n =>
            rw [toList_toString_ofNat] at power
            exact .inl (mem_isDigit (isDigits_toDigits n) power)
        | negSucc n =>
            rw [toList_toString_negSucc] at power
            rcases List.mem_cons.mp power with minus | digit
            · exact .inr (.inl minus)
            · exact .inl (mem_isDigit (isDigits_toDigits _) digit)

/-- A numeral starts with its sign or with a digit. -/
theorem text_eq_cons (proper : p.Proper) : ∃ c rest, p.text = c :: rest ∧
    (p.negative = true ∧ c = '-' ∨ p.negative = false ∧ c.isDigit = true) := by
  obtain ⟨c, cs, split⟩ := List.exists_cons_of_ne_nil proper.some_digit
  have digit : c.isDigit = true := mem_isDigit proper.whole (split ▸ List.mem_cons_self)
  rw [text, sign]
  cases p.negative with
  | true => exact ⟨'-', _, rfl, .inl ⟨rfl, rfl⟩⟩
  | false => exact ⟨c, _, by rw [split]; rfl, .inr ⟨rfl, digit⟩⟩

theorem exists_digit (proper : p.Proper) : ∃ c ∈ p.text, c.isDigit = true := by
  obtain ⟨c, cs, split⟩ := List.exists_cons_of_ne_nil proper.some_digit
  have listed : c ∈ p.whole := split ▸ List.mem_cons_self
  refine ⟨c, ?_, mem_isDigit proper.whole listed⟩
  simp only [text, List.mem_append, listed, true_or, or_true]

end Parts

/-! ### The parts of a layout -/

/-- The parts of digits with the point at its position. -/
def positionalParts (negative : Bool) (digits : List Char) (point : Int) (wholeFraction : Bool) :
    Parts :=
  if point ≤ 0 then ⟨negative, ['0'], some (List.replicate (-point).toNat '0' ++ digits), none⟩
  else if digits.length ≤ point.toNat then
    ⟨negative, digits ++ List.replicate (point.toNat - digits.length) '0',
      if wholeFraction then some ['0'] else none, none⟩
  else ⟨negative, digits.take point.toNat, some (digits.drop point.toNat), none⟩

/-- The parts of digits with the point after the first one. -/
def scientificParts (negative : Bool) (digits : List Char) (point : Int) : Parts :=
  ⟨negative, digits.take 1, if digits.length ≤ 1 then none else some (digits.drop 1),
    some (point - 1)⟩

section

variable {negative : Bool} {digits : List Char} {point : Int} {wholeFraction : Bool}

theorem text_positionalParts :
    (positionalParts negative digits point wholeFraction).text =
      (if negative then ['-'] else []) ++ positional digits point wholeFraction := by
  unfold positionalParts positional
  split
  · simp [Parts.text, Parts.sign, Parts.fractionText, Parts.powerText]
  · split
    · cases wholeFraction <;> simp [Parts.text, Parts.sign, Parts.fractionText, Parts.powerText]
    · simp [Parts.text, Parts.sign, Parts.fractionText, Parts.powerText]

theorem text_scientificParts :
    (scientificParts negative digits point).text =
      (if negative then ['-'] else []) ++ scientific digits point := by
  unfold scientificParts scientific
  split <;> simp [Parts.text, Parts.sign, Parts.fractionText, Parts.powerText]

theorem negative_positionalParts :
    (positionalParts negative digits point wholeFraction).negative = negative := by
  unfold positionalParts
  split
  · rfl
  · split <;> rfl

theorem isDigits_take (all : isDigits digits = true) (n : Nat) : isDigits (digits.take n) = true :=
  List.all_eq_true.mpr fun _ member => mem_isDigit all (List.mem_of_mem_take member)

theorem isDigits_drop (all : isDigits digits = true) (n : Nat) : isDigits (digits.drop n) = true :=
  List.all_eq_true.mpr fun _ member => mem_isDigit all (List.mem_of_mem_drop member)

theorem take_ne_nil (some_digit : digits ≠ []) {n : Nat} (positive : 0 < n) :
    digits.take n ≠ [] := by
  rw [ne_eq, List.take_eq_nil_iff]
  exact not_or.mpr ⟨Nat.ne_of_gt positive, some_digit⟩

theorem proper_positionalParts (all : isDigits digits = true) (some_digit : digits ≠ []) :
    (positionalParts negative digits point wholeFraction).Proper := by
  unfold positionalParts
  split
  · refine ⟨List.cons_ne_nil _ _, rfl, ?_⟩
    simp only [Option.getD_some, isDigits_append, isDigits_zeros, all, Bool.and_self]
  · split
    · refine ⟨List.append_ne_nil_of_left_ne_nil some_digit _, ?_, ?_⟩
      · rw [isDigits_append, all, isDigits_zeros, Bool.and_self]
      · cases wholeFraction <;> rfl
    · exact ⟨take_ne_nil some_digit (by omega), isDigits_take all _, isDigits_drop all _⟩

theorem proper_scientificParts (all : isDigits digits = true) (some_digit : digits ≠ []) :
    (scientificParts negative digits point).Proper := by
  refine ⟨take_ne_nil some_digit Nat.one_pos, isDigits_take all 1, ?_⟩
  unfold scientificParts
  simp only
  split
  · rfl
  · exact isDigits_drop all 1

/-- The number of the parts is the digits with the point at its position, but for powers of ten that
stand in its digits and not in its exponent. -/
theorem numeral_positionalParts (negative : Bool) (digits : List Char) (point : Int)
    (wholeFraction : Bool) :
    ∃ k : Nat, (positionalParts negative digits point wholeFraction).numeral.digits =
        natOfDigits digits * 10 ^ k ∧
      (positionalParts negative digits point wholeFraction).numeral.exponent =
        point - digits.length - k := by
  unfold positionalParts Parts.numeral
  split
  · refine ⟨0, ?_, ?_⟩
    · change natOfDigits (List.replicate 1 '0' ++ (List.replicate _ '0' ++ digits)) = _
      rw [natOfDigits_zeros_append, natOfDigits_zeros_append, Nat.pow_zero, Nat.mul_one]
    · simp only [Option.getD_some, Option.getD_none, List.length_append, List.length_replicate]
      omega
  · split
    · cases wholeFraction with
      | false =>
          refine ⟨point.toNat - digits.length, ?_, ?_⟩
          · change natOfDigits (digits ++ List.replicate _ '0' ++ []) = _
            rw [List.append_nil, natOfDigits_append_zeros]
          · change 0 - ((0 : Nat) : Int) = _
            omega
      | true =>
          refine ⟨point.toNat - digits.length + 1, ?_, ?_⟩
          · change natOfDigits (digits ++ List.replicate _ '0' ++ List.replicate 1 '0') = _
            rw [natOfDigits_append_zeros, natOfDigits_append_zeros, Nat.mul_assoc, ← Nat.pow_add]
          · change 0 - ((1 : Nat) : Int) = _
            omega
    · refine ⟨0, ?_, ?_⟩
      · change natOfDigits (digits.take _ ++ digits.drop _) = _
        rw [List.take_append_drop, Nat.pow_zero, Nat.mul_one]
      · simp only [Option.getD_some, Option.getD_none, List.length_drop]
        omega

theorem numeral_scientificParts (some_digit : digits ≠ []) :
    (scientificParts negative digits point).numeral =
      ⟨negative, natOfDigits digits, point - digits.length⟩ := by
  have positive : 0 < digits.length := List.length_pos_iff.mpr some_digit
  unfold scientificParts Parts.numeral
  split
  · have whole : digits.take 1 = digits := List.take_of_length_le ‹_›
    simp only [whole, Option.getD_none, Option.getD_some, List.append_nil, List.length_nil,
      Numeral.mk.injEq, true_and]
    omega
  · simp only [Option.getD_some, List.take_append_drop, List.length_drop, Numeral.mk.injEq,
      true_and]
    omega

end

/-! ### The text of a float -/

/-- The parts are those of the given decimal number. -/
structure Parts.Denotes (p : Parts) (negative : Bool) (d : Decimal) : Prop where
  proper : p.Proper
  negative : p.negative = negative
  nearest : nearestDecimal? p.numeral.digits p.numeral.exponent =
    nearestDecimal? d.digits d.exponent

theorem Layout.writeDecimal_parts (layout : Layout) (negative : Bool) (d : Decimal) :
    ∃ p : Parts, p.text = (if negative then ['-'] else []) ++ layout.writeDecimal d ∧
      p.Denotes negative d := by
  have all := isDigits_toDigits d.digits
  have some_digit : Nat.toDigits 10 d.digits ≠ [] := Nat.toDigits_ne_nil
  have value := natOfDigits_toDigits d.digits
  unfold writeDecimal
  generalize Nat.toDigits 10 d.digits = digits at *
  by_cases positional : layout.isPositional (digits.length + d.exponent) = true
  · obtain ⟨k, shifted, exponent⟩ := numeral_positionalParts negative digits
      (digits.length + d.exponent) layout.wholeFraction
    simp only [if_pos positional]
    refine ⟨_, text_positionalParts, proper_positionalParts all some_digit,
      negative_positionalParts, ?_⟩
    rw [shifted, value, exponent, nearestDecimal?_shift]
    congr 1
    omega
  · simp only [if_neg positional]
    refine ⟨_, text_scientificParts, proper_scientificParts all some_digit, rfl, ?_⟩
    rw [numeral_scientificParts some_digit, value]
    congr 1
    simp only
    omega

/-- A float without a mantissa is zero. -/
theorem unsignedBits_of_no_mantissa {x : Float} {exponent : Int}
    (zero : magnitude x = .finite 0 exponent) : unsignedBits x = 0 := by
  obtain ⟨place, composed⟩ := composed_of_magnitude zero
  have least : place = 0 := composed.lower.resolve_right (by decide)
  rw [composed.bits, least, Nat.zero_mul]

theorem Layout.write_denotes {x : Float} {mantissa : Nat} {exponent : Int} (layout : Layout)
    (finite : magnitude x = .finite mantissa exponent) :
    ∃ (p : Parts) (d : Decimal), (layout.write x).toList = p.text ∧ p.Denotes (isNegative x) d ∧
      nearestDecimal? d.digits d.exponent = some (unsignedBits x) := by
  unfold write
  rw [finite]
  cases mantissa with
  | zero =>
      refine ⟨positionalParts (isNegative x) ['0'] 1 layout.wholeFraction, ⟨0, 0⟩, ?_,
        ⟨proper_positionalParts rfl (by decide), negative_positionalParts, ?_⟩, ?_⟩
      · simp only
        rw [String.toList_ofList, text_positionalParts]
        rfl
      · obtain ⟨k, shifted, -⟩ :=
          numeral_positionalParts (isNegative x) ['0'] 1 layout.wholeFraction
        have no_digits : natOfDigits ['0'] = 0 := rfl
        rw [shifted, no_digits, Nat.zero_mul]
        rfl
      · rw [unsignedBits_of_no_mantissa finite]
        rfl
  | succ m =>
      obtain ⟨p, text, denotes⟩ := layout.writeDecimal_parts (isNegative x)
        (shortest layout.tie (unsignedBits x) (m + 1) exponent)
      refine ⟨p, _, ?_, denotes, nearestDecimal?_shortest layout.tie finite⟩
      simp only
      rw [String.toList_ofList, text]

/-- **A finite float is written as the parts of a numeral that reads as that float.** -/
theorem Layout.write_parts {x : Float} {mantissa : Nat} {exponent : Int} (layout : Layout)
    (finite : magnitude x = .finite mantissa exponent) :
    ∃ p : Parts, (layout.write x).toList = p.text ∧ p.Proper ∧ p.negative = isNegative x ∧
      p.numeral.toFloat? = some x := by
  obtain ⟨p, d, text, denotes, nearest⟩ := layout.write_denotes finite
  refine ⟨p, text, denotes.proper, denotes.negative, ?_⟩
  have sign : p.numeral.negative = isNegative x := denotes.negative
  rw [Numeral.toFloat?, toFloat?, denotes.nearest, nearest, sign, Option.map_some,
    ofUnsignedBits_unsignedBits]

end Metering.Decimal
