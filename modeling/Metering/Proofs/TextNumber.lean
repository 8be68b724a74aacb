import Mathlib.Tactic.FieldSimp
import Mathlib.Tactic.NormNum
import Metering.Proofs.Decimal.NearestValue
import Metering.Proofs.Decimal.Spelling
import Metering.Value

/-!
The number that a text spells.

A text has a number just if it is the spelling of a numeral with blanks around it and the numeral
is below the limit; the number is then the nearest float (`textNumber?_eq_some_iff`). So commas
between the digits do not matter (`textNumber?_filter`), and the names of undefined results and of
infinity are no numbers (`textNumber?_of_letter`).
-/

namespace Metering

open Decimal

/-! ### The number that is spelled -/

namespace Decimal.Spelling

variable {w : Spelling}

/-- The decimal number without its sign. -/
def magnitude (w : Spelling) : ℚ :=
  (natOfDigits w.whole + natOfDigits w.fractionDigits / 10 ^ w.fractionDigits.length) *
    10 ^ w.exponent

/-- The decimal number that is spelled. -/
def value (w : Spelling) : ℚ :=
  signed w.negative w.magnitude

/-- The numeral takes the digits of the fraction into those of the whole part. -/
theorem magnitude_numeral (w : Spelling) :
    (w.numeral.digits : ℚ) * 10 ^ w.numeral.exponent = w.magnitude := by
  have ten : (10 : ℚ) ≠ 0 := by norm_num
  simp only [numeral, magnitude]
  rw [natOfDigits_append, zpow_sub₀ ten, zpow_natCast]
  push_cast
  field_simp

theorem magnitude_plain (w : Spelling) : w.plain.magnitude = w.magnitude := by
  rw [← magnitude_numeral, numeral_plain, magnitude_numeral]

theorem value_plain (w : Spelling) : w.plain.value = w.value := by
  rw [value, magnitude_plain]
  rfl

theorem toFloat?_numeral {x : Float} : w.numeral.toFloat? = some x ↔
    w.magnitude < limit ∧ IsNearest w.value x ∧ isNegative x = w.negative := by
  rw [Numeral.toFloat?, toFloat?_eq_some_iff, magnitude_numeral]
  rfl

end Decimal.Spelling

/-! ### Blanks -/

namespace Text

variable {cs before after : List Char}

theorem dropWhile_isBlank (solid : ∀ c ∈ cs.head?, isBlank c = false) :
    cs.dropWhile isBlank = cs := by
  cases cs with
  | nil => rfl
  | cons c rest => exact List.dropWhile_cons_of_neg (by rw [solid c rfl]; exact Bool.false_ne_true)

/-- Blanks around a text without blanks are left out. -/
theorem trim_append (blank : ∀ c ∈ before, isBlank c = true)
    (blank' : ∀ c ∈ after, isBlank c = true) (some_text : cs ≠ [])
    (solid : ∀ c ∈ cs, isBlank c = false) : trim (before ++ cs ++ after) = cs := by
  have first : (cs ++ after).dropWhile isBlank = cs ++ after := dropWhile_isBlank fun c head => by
    rw [List.head?_append_of_ne_nil _ some_text] at head
    exact solid c (List.mem_of_mem_head? head)
  have last : cs.reverse.dropWhile isBlank = cs.reverse := dropWhile_isBlank fun c head =>
    solid c (List.mem_reverse.mp (List.mem_of_mem_head? head))
  have blank_reverse : ∀ c ∈ after.reverse, isBlank c = true := fun c member =>
    blank' c (List.mem_reverse.mp member)
  rw [trim, List.append_assoc, List.dropWhile_append_of_pos blank, first, List.reverse_append,
    List.dropWhile_append_of_pos blank_reverse, last, List.reverse_reverse]

/-- Only blanks are left out. -/
theorem exists_blanks (cs : List Char) : ∃ before after, cs = before ++ trim cs ++ after ∧
    (∀ c ∈ before, isBlank c = true) ∧ ∀ c ∈ after, isBlank c = true := by
  have first := List.takeWhile_append_dropWhile (p := isBlank) (l := cs)
  have last := congrArg List.reverse <| List.takeWhile_append_dropWhile (p := isBlank)
    (l := (cs.dropWhile isBlank).reverse)
  rw [List.reverse_append, List.reverse_reverse] at last
  refine ⟨cs.takeWhile isBlank, ((cs.dropWhile isBlank).reverse.takeWhile isBlank).reverse, ?_,
    fun c => List.mem_takeWhile_imp, fun c member => ?_⟩
  · rw [trim, List.append_assoc, last, first]
  · exact List.mem_takeWhile_imp (List.mem_reverse.mp member)

end Text

/-! ### The number of a text -/

section

variable {s : String} {x : Float}

/-- **A text has a number just if it spells one** that is below the limit, with blanks around
it. -/
theorem textNumber?_eq_some_iff : textNumber? s = some x ↔ ∃ w : Spelling, w.Proper ∧
    w.text = Text.trim s.toList ∧ w.magnitude < limit ∧ IsNearest w.value x ∧
    isNegative x = w.negative := by
  rw [textNumber?, Option.bind_eq_some_iff]
  constructor
  · rintro ⟨n, read, rounded⟩
    obtain ⟨w, proper, same, rfl⟩ := read?_eq_some_iff.mp read
    exact ⟨w, proper, same, Spelling.toFloat?_numeral.mp rounded⟩
  · rintro ⟨w, proper, same, rounded⟩
    exact ⟨w.numeral, read?_eq_some_iff.mpr ⟨w, proper, same, rfl⟩,
      Spelling.toFloat?_numeral.mpr rounded⟩

/-- A numeral below the limit has a nearest float. -/
theorem Decimal.Spelling.isSome_toFloat?_iff {w : Spelling} :
    w.numeral.toFloat?.isSome = true ↔ w.magnitude < limit := by
  rw [Numeral.toFloat?, toFloat?, Option.isSome_map, Option.isSome_iff_ne_none, ne_eq,
    nearestDecimal?_eq_none_iff, Spelling.magnitude_numeral, not_le]

theorem isSome_textNumber?_iff : (textNumber? s).isSome = true ↔ ∃ w : Spelling, w.Proper ∧
    w.text = Text.trim s.toList ∧ w.magnitude < limit := by
  constructor
  · intro found
    obtain ⟨x, found⟩ := Option.isSome_iff_exists.mp found
    obtain ⟨w, proper, same, below, -⟩ := textNumber?_eq_some_iff.mp found
    exact ⟨w, proper, same, below⟩
  · rintro ⟨w, proper, same, below⟩
    obtain ⟨x, rounded⟩ := Option.isSome_iff_exists.mp (Spelling.isSome_toFloat?_iff.mpr below)
    exact Option.isSome_iff_exists.mpr ⟨x, textNumber?_eq_some_iff.mpr
      ⟨w, proper, same, Spelling.toFloat?_numeral.mp rounded⟩⟩

/-- What stands between the digits of a numeral is no blank, and no `n`. -/
theorem marks_of_numerals : ∀ c ∈ ['+', '-', ',', '.', 'e', 'E'],
    Text.isBlank c = false ∧ c.toLower ≠ 'n' := by
  simp only [List.forall_mem_cons, List.not_mem_nil, false_imp_iff, implies_true, and_true]
  decide

theorem isBlank_of_mem_text {w : Spelling} (proper : w.Proper) {c : Char} (member : c ∈ w.text) :
    Text.isBlank c = false :=
  (Spelling.mem_text proper member).elim Text.isBlank_of_isDigit fun mark =>
    (marks_of_numerals c mark).1

/-- **Commas between the digits do not matter.** -/
theorem textNumber?_filter (found : textNumber? s = some x) :
    textNumber? (String.ofList (s.toList.filter (· != ','))) = some x := by
  obtain ⟨w, proper, same, below, nearest, sign⟩ := textNumber?_eq_some_iff.mp found
  obtain ⟨before, after, split, blank, blank'⟩ := Text.exists_blanks s.toList
  have kept {cs : List Char} (blank : ∀ c ∈ cs, Text.isBlank c = true) :
      cs.filter (· != ',') = cs := List.filter_eq_self.mpr fun c member =>
    bne_iff_ne.mpr (Text.ne_of_kind (blank c member) rfl)
  have plain := Spelling.proper_plain proper
  refine textNumber?_eq_some_iff.mpr ⟨w.plain, plain, ?_, ?_, ?_, sign⟩
  · rw [String.toList_ofList, split, ← same, List.filter_append, List.filter_append, kept blank,
      kept blank', ← Spelling.text_plain proper, Text.trim_append blank blank'
        (Spelling.text_ne_nil plain) fun c => isBlank_of_mem_text plain]
  · rwa [Spelling.magnitude_plain]
  · rwa [Spelling.value_plain]

theorem isAlpha_of_toLower_eq {c : Char} (letter : c.toLower = 'n') : c.isAlpha = true := by
  rw [Char.toLower] at letter
  split at letter
  · rename_i upper
    rw [Char.isAlpha, Char.isUpper, decide_eq_true upper, Bool.true_or]
  · rw [letter]
    rfl

/-- A text with the letter `n` spells no number. -/
theorem textNumber?_of_letter {c : Char} (member : c ∈ s.toList) (letter : c.toLower = 'n') :
    textNumber? s = none := by
  have alpha := isAlpha_of_toLower_eq letter
  have solid := Text.isBlank_of_isAlpha alpha
  refine Option.eq_none_iff_forall_ne_some.mpr fun x found => ?_
  obtain ⟨w, proper, same, -⟩ := textNumber?_eq_some_iff.mp found
  obtain ⟨before, after, split, blank, blank'⟩ := Text.exists_blanks s.toList
  rw [split, ← same, List.mem_append, List.mem_append] at member
  rcases member with (inside | inside) | inside
  · exact absurd (blank c inside) (Bool.eq_false_iff.mp solid)
  · rcases Spelling.mem_text proper inside with digit | mark
    · exact absurd digit (Bool.eq_false_iff.mp (Text.isDigit_of_isAlpha alpha))
    · exact (marks_of_numerals c mark).2 letter
  · exact absurd (blank' c inside) (Bool.eq_false_iff.mp solid)

end

/-- **Text is a number just if it spells one.** -/
theorem number?_text (s : String) :
    ((Value.text s).number?.isSome = true ↔ ∃ w : Spelling, w.Proper ∧
        w.text = Text.trim s.toList ∧ w.magnitude < limit) ∧
      (∀ x, (Value.text s).number? = some x ↔ ∃ w : Spelling, w.Proper ∧
        w.text = Text.trim s.toList ∧ w.magnitude < limit ∧ IsNearest w.value x ∧
        isNegative x = w.negative) ∧
      (∀ x, (Value.text s).number? = some x →
        (Value.text (String.ofList (s.toList.filter (· != ',')))).number? = some x) ∧
      ∀ before name after, s.toList = before ++ name ++ after →
        name.map Char.toLower ∈ ["inf".toList, "infinity".toList, "nan".toList] →
        (Value.text s).number? = none := by
  refine ⟨isSome_textNumber?_iff, fun x => textNumber?_eq_some_iff, fun x => textNumber?_filter,
    fun before name after split spelled => ?_⟩
  have has_letter : ∀ word ∈ ["inf".toList, "infinity".toList, "nan".toList], 'n' ∈ word := by
    decide
  obtain ⟨c, inside, letter⟩ := List.mem_map.mp (has_letter _ spelled)
  refine textNumber?_of_letter ?_ letter
  rw [split]
  exact List.mem_append_left _ (List.mem_append_right _ inside)

end Metering
