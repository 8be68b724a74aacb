import Metering.Proofs.Decimal.Order
import Metering.Proofs.Series.ValueHistory

/-!
The least and the greatest entry of a set of values.

Both are kept by one rule: an entry takes the place of the one held if its number is better, or if
the one held is no number at all (`ValueSet.replaces`). So the one held is the first with the best
number, or the last one if none is a number (`Leads`, `held_run`), after every course of additions
and readings (`run_extremes`).
-/

namespace Metering.Series

open Metering.Time

variable {ν : Type}

section Leads

variable [Arithmetic ν]

/-- The entry that leads the others: the first one of which no number is ahead. Where there is no
number among them, it is the last one. -/
inductive Leads (ahead : ν → ν → Prop) (entries : List (Entry ν)) (e : Entry ν) : Prop where
  | first (before after : List (Entry ν)) (stands : entries = before ++ e :: after)
      (number : Arithmetic.isNaN e.value = false)
      (foremost : ∀ x ∈ entries, Arithmetic.isNaN x.value = false → ¬ ahead x.value e.value)
      (earlier : ∀ x ∈ before, Arithmetic.isNaN x.value = false → ahead e.value x.value)
  | last (undefined : ∀ x ∈ entries, Arithmetic.isNaN x.value = true)
      (ends : entries.getLast? = some e)

/-- Numbers are ranked, with ties; undefined results are not. -/
structure Ranks (better : ν → ν → Bool) : Prop where
  numbers {a b : ν} : better a b = true → Arithmetic.isNaN a = false ∧ Arithmetic.isNaN b = false
  asymm {a b : ν} : better a b = true → better b a = false
  /-- A number between two others is behind the first one or ahead of the last. -/
  split {a b c : ν} : Arithmetic.isNaN b = false → better a c = true →
    better a b = true ∨ better b c = true

variable {better : ν → ν → Bool}

theorem Ranks.swap (ranks : Ranks better) : Ranks fun a b => better b a where
  numbers ahead := (ranks.numbers ahead).symm
  asymm ahead := ranks.asymm ahead
  split number ahead := (ranks.split number ahead).symm

theorem Ranks.irrefl (ranks : Ranks better) (a : ν) : ¬ better a a = true := by
  intro same
  rw [ranks.asymm same] at same
  cases same

theorem Ranks.trans (ranks : Ranks better) {a b c : ν} (first : better a b = true)
    (second : better b c = true) : better a c = true := by
  refine (ranks.split (ranks.numbers second).2 first).resolve_right fun back => ?_
  rw [ranks.asymm second] at back
  cases back

/-! ### The entry held -/

/-- The entry held leads the entries; none is held as long as there are none. -/
def Held (better : ν → ν → Bool) (entries : List (Entry ν)) : Option (Entry ν) → Prop
  | none => entries = []
  | some e => Leads (better · · = true) entries e

/-- An entry that is the first number among the entries leads them. -/
theorem Leads.of_undefined {ahead : ν → ν → Prop} (irrefl : ∀ a, ¬ ahead a a)
    {entries : List (Entry ν)} (undefined : ∀ x ∈ entries, Arithmetic.isNaN x.value = true)
    (entry : Entry ν) : Leads ahead (entries ++ [entry]) entry := by
  cases number : Arithmetic.isNaN entry.value with
  | true =>
      refine .last (fun x member => ?_) List.getLast?_concat
      rcases List.mem_append.mp member with earlier | new
      · exact undefined x earlier
      · rw [List.mem_singleton.mp new, number]
  | false =>
      refine .first entries [] rfl number (fun x member defined => ?_) fun x member defined => ?_
      · rcases List.mem_append.mp member with earlier | new
        · rw [undefined x earlier] at defined
          cases defined
        · rw [List.mem_singleton.mp new]
          exact irrefl entry.value
      · rw [undefined x member] at defined
        cases defined

/-- An entry that is better than the leading number leads from then on. -/
theorem Leads.overtaken (ranks : Ranks better) {entries : List (Entry ν)} {e entry : Entry ν}
    (foremost : ∀ x ∈ entries, Arithmetic.isNaN x.value = false → ¬ better x.value e.value = true)
    (overtakes : better entry.value e.value = true) :
    Leads (better · · = true) (entries ++ [entry]) entry := by
  refine .first entries [] rfl (ranks.numbers overtakes).1 (fun x member defined => ?_)
    fun x member defined => ?_
  · rcases List.mem_append.mp member with earlier | new
    · intro ahead
      exact foremost x earlier defined (ranks.trans ahead overtakes)
    · rw [List.mem_singleton.mp new]
      exact ranks.irrefl entry.value
  · exact (ranks.split defined overtakes).resolve_right (foremost x member defined)

/-- An entry takes the place of the one held, or leaves it there, and either way the one that leads
is held. -/
theorem Held.add (ranks : Ranks better) {entries : List (Entry ν)} {held : Option (Entry ν)}
    (holds : Held better entries held) (entry : Entry ν) :
    Held better (entries ++ [entry])
      (if ValueSet.replaces better entry.value held then some entry else held) := by
  cases held with
  | none =>
      obtain rfl : entries = [] := holds
      have taken : ValueSet.replaces better entry.value none = true := rfl
      rw [if_pos taken]
      exact Leads.of_undefined ranks.irrefl (fun x none => absurd none List.not_mem_nil) entry
  | some e =>
      cases holds with
      | last undefined ends =>
          have replaced : ValueSet.replaces better entry.value (some e) = true := by
            rw [ValueSet.replaces, undefined e (List.mem_of_getLast? ends), Bool.or_true]
          rw [if_pos replaced]
          exact Leads.of_undefined ranks.irrefl undefined entry
      | first before after stands number foremost earlier =>
          rw [ValueSet.replaces, number, Bool.or_false]
          cases overtakes : better entry.value e.value with
          | true =>
              rw [if_pos rfl]
              exact Leads.overtaken ranks foremost overtakes
          | false =>
              rw [if_neg Bool.false_ne_true]
              refine .first before (after ++ [entry]) ?_ number (fun x member defined => ?_) earlier
              · rw [stands, List.append_assoc, List.cons_append]
              · rcases List.mem_append.mp member with before | new
                · exact foremost x before defined
                · rw [List.mem_singleton.mp new, overtakes]
                  exact Bool.false_ne_true

theorem Leads.mem {ahead : ν → ν → Prop} {entries : List (Entry ν)} {e : Entry ν}
    (leads : Leads ahead entries e) : e ∈ entries := by
  cases leads with
  | first before after stands =>
      rw [stands]
      exact List.mem_append_right _ List.mem_cons_self
  | last undefined ends => exact List.mem_of_getLast? ends

/-- Only one entry leads. -/
theorem Leads.unique {ahead : ν → ν → Prop} {entries : List (Entry ν)} {e e' : Entry ν}
    (leads : Leads ahead entries e) (leads' : Leads ahead entries e') : e = e' := by
  have member := leads.mem
  have member' := leads'.mem
  cases leads with
  | last undefined ends =>
      cases leads' with
      | last undefined' ends' => exact Option.some.inj (ends.symm.trans ends')
      | first _ _ _ number' =>
          rw [undefined e' member'] at number'
          cases number'
  | first before after stands number foremost earlier =>
      cases leads' with
      | last undefined' ends' =>
          rw [undefined' e member] at number
          cases number
      | first before' after' stands' number' foremost' earlier' =>
          -- Of two places, the entry at the first one would be behind the other, which none is.
          rcases List.append_eq_append_iff.mp (stands.symm.trans stands') with
            ⟨between, split, rest⟩ | ⟨between, split, rest⟩
          · cases between with
            | nil => exact (List.cons.inj rest).1
            | cons x between =>
                obtain rfl : e = x := (List.cons.inj rest).1
                have inside : e ∈ before' := by
                  rw [split]
                  exact List.mem_append_right _ List.mem_cons_self
                exact absurd (earlier' e inside number) (foremost e' member' number')
          · cases between with
            | nil => exact (List.cons.inj rest).1.symm
            | cons x between =>
                obtain rfl : e' = x := (List.cons.inj rest).1
                have inside : e' ∈ before := by
                  rw [split]
                  exact List.mem_append_right _ List.mem_cons_self
                exact absurd (earlier e' inside number') (foremost' e member number)

/-- Which entry is held is which one leads. -/
theorem Held.eq_some_iff {entries : List (Entry ν)} {held : Option (Entry ν)}
    (holds : Held better entries held) (e : Entry ν) :
    held = some e ↔ Leads (better · · = true) entries e := by
  constructor
  · rintro rfl
    exact holds
  · intro leads
    cases held with
    | none =>
        obtain rfl : entries = [] := holds
        cases leads.mem
    | some e' => exact congrArg some (Leads.unique holds leads)

theorem Held.eq_none_iff {entries : List (Entry ν)} {held : Option (Entry ν)}
    (holds : Held better entries held) : held = none ↔ entries = [] := by
  constructor
  · rintro rfl
    exact holds
  · rintro rfl
    cases held with
    | none => rfl
    | some e => cases Leads.mem holds

/-- What leads is held after every course of additions and readings. -/
theorem held_run (ascending : Ranks (Arithmetic.less (ν := ν))) (percentile : Float)
    (uses : List (Use ν)) :
    let s := (ValueSet.empty percentile : ValueSet ν).run uses
    Held Arithmetic.less s.entries.toList s.least ∧
      Held (fun a b => Arithmetic.less b a) s.entries.toList s.greatest := by
  refine ValueSet.run_rule (fun _ s => Held Arithmetic.less s.entries.toList s.least ∧
    Held (fun a b => Arithmetic.less b a) s.entries.toList s.greatest) ⟨rfl, rfl⟩ ?_ ?_ uses
  · rintro _ s timestamp value ⟨least, greatest⟩
    rw [ValueSet.toList_entries_add]
    exact ⟨least.add ascending _, greatest.add ascending.swap _⟩
  · rintro _ s holds
    rw [ValueSet.reported_snd]
    exact holds

end Leads

/-! ### Floats -/

theorem less_iff {a b : Float} : Arithmetic.less a b = true ↔ a < b :=
  decide_eq_true_iff

theorem ranks_less : Ranks (Arithmetic.less (ν := Float)) where
  numbers ahead := Decimal.isNaN_of_lt (less_iff.mp ahead)
  asymm {a b} ahead := by
    obtain ⟨number, number'⟩ := Decimal.isNaN_of_lt (less_iff.mp ahead)
    rw [less_iff, Decimal.lt_iff_level number number'] at ahead
    rw [← Bool.not_eq_true, less_iff, Decimal.lt_iff_level number' number]
    exact Int.lt_asymm ahead
  split {a b c} number ahead := by
    obtain ⟨first, last⟩ := Decimal.isNaN_of_lt (less_iff.mp ahead)
    rw [less_iff, Decimal.lt_iff_level first last] at ahead
    rw [less_iff, less_iff, Decimal.lt_iff_level first number, Decimal.lt_iff_level number last]
    omega

/-- Neither an undefined result nor an equal number takes the place of a number. -/
theorem replaces_eq_false {better : Float → Float → Bool} {value : Float} {e : Entry Float}
    (number : e.value.isNaN = false) (behind : ¬ better value e.value = true) :
    ValueSet.replaces better value (some e) = false := by
  rw [ValueSet.replaces, Bool.or_eq_false_iff]
  exact ⟨Bool.not_eq_true _ ▸ behind, number⟩

/-- **The least and the greatest value.** After every course of additions and readings, the entries
are the values added, counted from one. The least entry is the first one with the least number, or
the last one if none has a number; so no later entry takes the place of a number unless it is less.
The same holds of the greatest entry. -/
theorem run_extremes (percentile : Float) (uses : List (Use Float)) :
    let s := (ValueSet.empty percentile : ValueSet Float).run uses
    s.entries.toList = entriesOf (added uses) ∧
      (s.least = none ↔ added uses = []) ∧ (s.greatest = none ↔ added uses = []) ∧
      (∀ e, s.least = some e ↔ Leads (· < ·) s.entries.toList e) ∧
      (∀ e, s.greatest = some e ↔ Leads (· > ·) s.entries.toList e) ∧
      (∀ e timestamp value, s.least = some e → e.value.isNaN = false → ¬ value < e.value →
        (s.add timestamp value).least = some e) ∧
      ∀ e timestamp value, s.greatest = some e → e.value.isNaN = false → ¬ value > e.value →
        (s.add timestamp value).greatest = some e := by
  intro s
  obtain ⟨least, greatest⟩ := held_run ranks_less percentile uses
  have entries : s.entries.toList = entriesOf (added uses) := ValueSet.entries_run percentile uses
  have none_added : s.entries.toList = [] ↔ added uses = [] := by
    rw [entries, entriesOf, List.mapIdx_eq_nil_iff]
  refine ⟨entries, least.eq_none_iff.trans none_added, greatest.eq_none_iff.trans none_added,
    fun e => ?_, fun e => ?_, fun e timestamp value held number behind => ?_,
    fun e timestamp value held number behind => ?_⟩
  · rw [least.eq_some_iff e]
    simp only [less_iff]
    rfl
  · rw [greatest.eq_some_iff e]
    simp only [less_iff]
    rfl
  · have stays : ValueSet.replaces Arithmetic.less value (some e) = false :=
      replaces_eq_false number (mt less_iff.mp behind)
    rw [ValueSet.add]
    simp only [held, stays, Bool.false_eq_true, if_false]
  · have stays : ValueSet.replaces (fun a b => Arithmetic.less b a) value (some e) = false :=
      replaces_eq_false number (mt less_iff.mp behind)
    rw [ValueSet.add]
    simp only [held, stays, Bool.false_eq_true, if_false]

end Metering.Series
