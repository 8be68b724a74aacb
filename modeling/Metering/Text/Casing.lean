import Metering.Text.CaseData

/-!
Case folding of names: the full lower-casing of a text, character by character except for
the capital sigma, whose lower-case form at the end of a word differs from the one inside.

Two names are the same name when their folded texts are equal.
-/

namespace Metering.Text

/-- The code point lies in one of the ranges. -/
def inRanges (ranges : Array (Nat × Nat)) (c : Char) : Bool :=
  ranges.any fun range => range.1 ≤ c.toNat && c.toNat ≤ range.2

def isCased (c : Char) : Bool :=
  inRanges casedRanges c

def isCaseIgnorable (c : Char) : Bool :=
  inRanges caseIgnorableRanges c

/-- The run that holds the code point, and the lower-case form it gives. -/
def CaseRun.lower? (run : CaseRun) (n : Nat) : Option Nat :=
  if run.first ≤ n ∧ n ≤ run.last ∧ (n - run.first) % run.step = 0 then
    some (run.target + (n - run.first))
  else none

/-- The lower-case form of one character, without regard to its neighbours. Only the
capital I with a dot has a form of two characters. -/
def lowerChar (c : Char) : List Char :=
  if c.toNat < 128 then [c.toLower]
  else if c = '\u0130' then ['i', '\u0307']
  else match caseRuns.findSome? (·.lower? c.toNat) with
    | some n => [Char.ofNat n]
    | none => [c]

/-- The nearest character that is not ignorable is cased. -/
def meetsCased (cs : List Char) : Bool :=
  match cs.dropWhile isCaseIgnorable with
  | [] => false
  | c :: _ => isCased c

/-- Lower-cases what follows `before`, which holds the preceding characters, nearest first.
A capital sigma that ends a word gets its final form. -/
def lowerFrom : (before : List Char) → List Char → List Char
  | _, [] => []
  | before, c :: rest =>
    (if c = 'Σ' then
      (if meetsCased before && !meetsCased rest then ['ς'] else ['σ'])
    else lowerChar c) ++ lowerFrom (c :: before) rest

/-- The folded form of a name. -/
def fold (s : String) : String :=
  String.ofList (lowerFrom [] s.toList)

theorem lowerChar_ne_nil (c : Char) : lowerChar c ≠ [] := by
  unfold lowerChar
  split
  · simp
  · split
    · simp
    · split <;> simp

/-- Folding loses no character, so only the empty name folds to the empty text. -/
theorem lowerFrom_eq_nil_iff {before cs : List Char} : lowerFrom before cs = [] ↔ cs = [] := by
  cases cs with
  | nil => simp [lowerFrom]
  | cons c rest =>
    simp only [lowerFrom, List.append_eq_nil_iff, reduceCtorEq, iff_false, not_and]
    intro h
    split at h
    · split at h <;> cases h
    · exact absurd h (lowerChar_ne_nil c)

@[simp] theorem fold_eq_empty_iff {s : String} : fold s = "" ↔ s = "" := by
  rw [fold, ← String.toList_inj, String.toList_ofList, ← String.toList_inj]
  exact lowerFrom_eq_nil_iff

example : fold "App~HTTP" = "app~http" := by decide +kernel

end Metering.Text
