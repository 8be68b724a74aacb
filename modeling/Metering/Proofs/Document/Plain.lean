import Metering.Document.Node
import Metering.Proofs.Text.Character

/-!
Plain text in a document.

Text of letters, digits and a few marks, which starts with a letter or a digit and does not end with
a blank (`IsPlain`), is a plain scalar as it stands: as the name of a key up to its colon
(`takePlain?_colon`), and as a value up to the next line that does not lie right of its collection
(`takePlain?_break`).
-/

namespace Metering.Document

open Metering.Text (beq_false_of_kind)

/-! ### Plain text -/

/-- Characters that stand for themselves wherever they are inside a plain scalar. -/
def isInline (c : Char) : Bool :=
  isNameChar c || c == '.' || c == ' '

/-- Plain text, which starts with a letter or a digit and does not end with a blank. -/
structure IsPlain (cs : List Char) : Prop where
  first : ∃ c rest, cs = c :: rest ∧ c.isAlphanum = true
  inside : ∀ c ∈ cs, isInline c = true
  last : cs.getLast? ≠ some ' '

theorem isPlain_iff {cs : List Char} :
    IsPlain cs ↔ cs.head?.any Char.isAlphanum = true ∧ cs.all isInline = true ∧
      cs.getLast? ≠ some ' ' := by
  constructor
  · rintro ⟨⟨c, rest, rfl, first⟩, inside, last⟩
    exact ⟨first, List.all_eq_true.mpr inside, last⟩
  · rintro ⟨first, inside, last⟩
    refine ⟨?_, List.all_eq_true.mp inside, last⟩
    cases cs with
    | nil => cases first
    | cons c rest => exact ⟨c, rest, rfl, first⟩

instance (cs : List Char) : Decidable (IsPlain cs) :=
  decidable_of_iff _ isPlain_iff.symm

/-- A single word is plain text. -/
theorem isPlain_of_word {c : Char} {rest : List Char} (first : c.isAlphanum = true)
    (inside : ∀ d ∈ c :: rest, isInline d = true ∧ d ≠ ' ') : IsPlain (c :: rest) := by
  refine ⟨⟨c, rest, rfl, first⟩, fun d member => (inside d member).1, fun last => ?_⟩
  exact (inside ' ' (List.mem_of_getLast? last)).2 rfl

theorem isInline_of_isAlphanum {c : Char} (alphanum : c.isAlphanum = true) : isInline c = true := by
  simp only [isInline, isNameChar, alphanum, Bool.true_or]

theorem isBreak_of_isInline {c : Char} (inline : isInline c = true) : isBreak c = false := by
  simp only [isBreak, beq_false_of_kind inline (d := '\n') rfl,
    beq_false_of_kind inline (d := '\u2028') rfl, beq_false_of_kind inline (d := '\u2029') rfl,
    Bool.or_self]

theorem isGap_of_isInline {c : Char} (inline : isInline c = true) : isGap c = (c == ' ') := by
  simp only [isGap, beq_false_of_kind inline (d := '\t') rfl, Bool.or_false]

theorem printable_of_isAlphanum {c : Char} (alphanum : c.isAlphanum = true) :
    0x20 ≤ c.toNat ∧ c.toNat ≤ 0x7E := by
  rw [Char.isAlphanum, Bool.or_eq_true] at alphanum
  rcases alphanum with letter | digit
  · have bounds := Text.toNat_of_isAlpha letter
    omega
  · have bounds := Text.toNat_of_isDigit digit
    omega

theorem printable_of_isInline {c : Char} (inline : isInline c = true) :
    0x20 ≤ c.toNat ∧ c.toNat ≤ 0x7E := by
  simp only [isInline, isNameChar, Bool.or_eq_true, beq_iff_eq] at inline
  rcases inline with (((alphanum | rfl) | rfl) | rfl) | rfl
  · exact printable_of_isAlphanum alphanum
  all_goals decide

theorem utf8Size_of_isInline {c : Char} (inline : isInline c = true) : c.utf8Size = 1 := by
  rw [Char.utf8Size_eq_one_iff, UInt32.le_iff_toNat_le]
  exact Nat.le_succ_of_le (printable_of_isInline inline).2

/-! ### Positions -/

/-- The position further along the line. -/
def Position.along (p : Position) (n : Nat) : Position :=
  ⟨p.line, p.column + n, p.width + n⟩

theorem Position.next_of_isInline (p : Position) {c : Char} (inline : isInline c = true) :
    p.next c = p.along 1 := by
  rw [next, isBreak_of_isInline inline, utf8Size_of_isInline inline]
  rfl

theorem Position.along_along (p : Position) (m n : Nat) :
    (p.along m).along n = p.along (m + n) := by
  simp only [along, Nat.add_assoc]

/-! ### Scalars -/

section

variable {least : Nat}

/-- A blank or a line break is added to the gap. -/
theorem takePlain?_gap {c : Char} (blank : (isGap c || isBreak c) = true)
    (no_tab : (c == '\t') = false) (gap : Gap) (p : Position) (rest : List Char) :
    takePlain? false least gap p (c :: rest) =
      takePlain? false least (gap.add c) (p.next c) rest := by
  rw [takePlain?, if_pos blank, no_tab, Bool.false_and, Bool.false_and, if_neg Bool.false_ne_true]

/-- Plain text is taken whole. Blanks are part of it when more text follows. -/
theorem takePlain?_inline {cs rest after : List Char} {p q : Position} {blanks : List Char}
    {endsLine : Bool} (inside : ∀ c ∈ cs, isInline c = true) (last : cs.getLast? ≠ some ' ')
    (joined : cs = [] → blanks = [])
    (stops : takePlain? false least {} (p.along cs.length) rest = some ⟨[], endsLine, after, q⟩) :
    takePlain? false least { blanks } p (cs ++ rest) = some ⟨blanks ++ cs, endsLine, after, q⟩ := by
  induction cs generalizing p blanks with
  | nil =>
      rw [joined rfl]
      exact stops
  | cons c cs ih =>
      obtain ⟨inline, inside'⟩ := List.forall_mem_cons.mp inside
      have stops' : takePlain? false least {} ((p.next c).along cs.length) rest =
          some ⟨[], endsLine, after, q⟩ := by
        rw [p.next_of_isInline inline, Position.along_along, Nat.add_comm]
        exact stops
      have last' : cs.getLast? ≠ some ' ' := by
        cases cs with
        | nil => exact fun none => nomatch none
        | cons d ds => rwa [List.getLast?_cons_cons] at last
      rw [List.cons_append]
      by_cases blank : (c == ' ') = true
      · obtain rfl := eq_of_beq blank
        have more : cs ≠ [] := by
          rintro rfl
          exact last rfl
        have grown : takePlain? false least { blanks := blanks ++ [' '] } (p.next ' ')
            (cs ++ rest) = some ⟨blanks ++ [' '] ++ cs, endsLine, after, q⟩ :=
          ih inside' last' (fun none => absurd none more) stops'
        rw [List.append_assoc] at grown
        rw [takePlain?_gap rfl rfl]
        exact grown
      · have goes_on : endsPlain false least { blanks } p c (cs ++ rest) = false := by
          simp only [endsPlain, beq_false_of_kind inline (d := '#') rfl,
            beq_false_of_kind inline (d := ':') rfl, Gap.endsLine, List.isEmpty_nil, Bool.not_true,
            Bool.false_and, Bool.or_self]
        rw [takePlain?, isGap_of_isInline inline, isBreak_of_isInline inline, Bool.or_false,
          if_neg blank, goes_on, ih inside' last' (fun _ => rfl) stops']
        rfl

/-- A key ends at its colon. -/
theorem takePlain?_colon {p : Position} {rest : List Char} (gap : atGap rest = true) :
    takePlain? false least {} p (':' :: rest) = some ⟨[], false, ':' :: rest, p⟩ := by
  have ends : endsPlain false least {} p ':' rest = true := by
    simp only [endsPlain, gap, beq_self_eq_true, Bool.and_self, Bool.or_true, Bool.true_or]
  rw [takePlain?, if_neg (by decide), if_pos ends]
  rfl

/-- A key can start here, or the text ends. -/
def StartsKey (cs : List Char) : Prop :=
  ∀ c ∈ cs.head?, c.isAlphanum = true

/-- A scalar ends before a line that does not lie right of its collection. -/
theorem takePlain?_indent {gap : Gap} (ends : gap.endsLine = true) {n : Nat} {p : Position}
    (left : p.column + n < least) {rest : List Char} (key : StartsKey rest) :
    takePlain? false least gap p (List.replicate n ' ' ++ rest) =
      some ⟨[], true, rest, p.along n⟩ := by
  induction n generalizing p with
  | zero =>
      rw [List.replicate_zero, List.nil_append]
      cases rest with
      | nil => rw [takePlain?, ends]; rfl
      | cons c cs =>
          have inline := isInline_of_isAlphanum (key c rfl)
          have outside := decide_eq_true (Nat.lt_of_le_of_lt (Nat.le_add_right ..) left)
          have stops : endsPlain false least gap p c cs = true := by
            simp only [endsPlain, ends, outside, Bool.not_false, Bool.and_self, Bool.or_true,
              Bool.true_or]
          rw [takePlain?, isGap_of_isInline inline, isBreak_of_isInline inline, Bool.or_false,
            beq_false_of_kind (key c rfl) rfl, if_neg (by decide), if_pos stops, ends]
          rfl
  | succ n ih =>
      have same : gap.add ' ' = gap := by
        rw [Gap.add, if_neg (by decide), ends, Bool.or_true, if_pos rfl]
      have next : p.next ' ' = p.along 1 := p.next_of_isInline rfl
      have left' : (p.along 1).column + n < least := by
        change p.column + 1 + n < least
        omega
      rw [List.replicate_succ, List.cons_append, takePlain?_gap rfl rfl, same, next, ih left',
        Position.along_along, Nat.add_comm]

/-- The position at the start of a line, after as many blanks as given. -/
def Position.inLine (line n : Nat) : Position :=
  ⟨line, n, n⟩

theorem takePlain?_break {n : Nat} {p : Position} (left : n < least) {rest : List Char}
    (key : StartsKey rest) :
    takePlain? false least {} p ('\n' :: (List.replicate n ' ' ++ rest)) =
      some ⟨[], true, rest, .inLine (p.line + 1) n⟩ := by
  have ends : ({ breaks := ['\n'] } : Gap).endsLine = true := rfl
  have indented := takePlain?_indent ends (p := ⟨p.line + 1, 0, 0⟩)
    ((Nat.zero_add n).symm ▸ left) key
  rw [takePlain?_gap rfl rfl]
  refine indented.trans ?_
  simp only [Position.along, Position.inLine, Nat.zero_add]

end

end Metering.Document
