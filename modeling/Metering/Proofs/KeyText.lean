import Metering.Key

/-!
The texts that definitions and instances are filed under.

A part of a key is escaped before it is joined to the others, so it can be read back from the text
it was written to (`readPart_escapePart`). Hence two keys are filed under one text just if they are
the same key (`normalized_eq_iff`), and two instances of one definition just if their names are the
same name (`instanceKey_eq_iff`).
-/

namespace Metering

/-- Reads an escaped part up to the separator after it. The answer holds the part and what follows
the separator. -/
def readPart : List Char → List Char × List Char
  | [] => ([], [])
  | '~' :: rest => ([], rest)
  | '\\' :: c :: rest => (c :: (readPart rest).1, (readPart rest).2)
  | c :: rest => (c :: (readPart rest).1, (readPart rest).2)

theorem escapePart_cons (c : Char) (cs : List Char) :
    escapePart (c :: cs) = (if c = '\\' ∨ c = '~' then ['\\', c] else [c]) ++ escapePart cs := by
  rw [escapePart, List.flatMap_cons, escapePart]

/-- What was escaped is read back. -/
theorem readPart_escapePart (cs rest : List Char) :
    readPart (escapePart cs ++ '~' :: rest) = (cs, rest) := by
  induction cs with
  | nil => simp [escapePart, readPart]
  | cons c cs ih =>
      rw [escapePart_cons]
      by_cases marked : c = '\\' ∨ c = '~'
      · rw [if_pos marked]
        simp [readPart, ih]
      · rw [if_neg marked]
        obtain ⟨not_mark, not_separator⟩ := not_or.mp marked
        simp [readPart, not_mark, ih]

theorem escapePart_append_inj {first second rest rest' : List Char}
    (same : escapePart first ++ '~' :: rest = escapePart second ++ '~' :: rest') :
    first = second ∧ rest = rest' := by
  have read := congrArg readPart same
  rw [readPart_escapePart, readPart_escapePart] at read
  exact Prod.mk.inj read

/-- The last part of a key is read back as well, as if it were followed by a separator. -/
theorem escapePart_inj {first second : List Char} (same : escapePart first = escapePart second) :
    first = second :=
  (@escapePart_append_inj first second [] [] (same ▸ rfl)).1

/-- Two keys are filed under one text just if they are the same but for case. -/
theorem Key.normalized_eq_iff {a b : Key} : a.normalized = b.normalized ↔ a.Same b := by
  unfold Same
  constructor
  · intro same
    rw [normalized, normalized, String.ofList_inj, List.append_assoc, List.append_assoc] at same
    obtain ⟨group, rest⟩ := escapePart_append_inj same
    obtain ⟨category, counter⟩ := escapePart_append_inj rest
    exact (Key.mk.injEq ..).mpr ⟨String.toList_inj.mp group, String.toList_inj.mp category,
      String.toList_inj.mp (escapePart_inj counter)⟩
  · intro same
    rw [normalized, normalized, same]

/-- Both names are those of one instance: they are the same but for case, where no name is the empty
name. -/
def SameName (name name' : Option String) : Prop :=
  Text.fold (name.getD "") = Text.fold (name'.getD "")

instance (name name' : Option String) : Decidable (SameName name name') := by
  unfold SameName
  infer_instance

/-- Within a definition, two instances are filed under one text just if they have the same name. -/
theorem instanceKey_eq_iff {definitionKey : String} {name name' : Option String} :
    instanceKey definitionKey name = instanceKey definitionKey name' ↔ SameName name name' := by
  unfold instanceKey SameName
  rw [String.append_right_inj]

/-- Only the empty name is the same as no name. -/
theorem sameName_none_iff {name : Option String} : SameName name none ↔ name.getD "" = "" := by
  have empty : Text.fold "" = "" := Text.fold_eq_empty_iff.mpr rfl
  rw [SameName, Option.getD_none, empty]
  exact Text.fold_eq_empty_iff

/-- Two keys have the same parts just if each part of the one is that of the other but for case. -/
theorem Key.same_iff {a b : Key} : a.Same b ↔ Text.fold a.group = Text.fold b.group ∧
    Text.fold a.category = Text.fold b.category ∧ Text.fold a.counter = Text.fold b.counter := by
  rw [Same, folded, folded, Key.mk.injEq]

/-- **Filing loses nothing but case.** Keys are filed under one text just if they are the same key,
part by part, and the instances of a definition just if they have the same name. -/
theorem filed_together_iff (a b : Key) (definitionKey : String) (name name' : Option String) :
    (a.normalized = b.normalized ↔ a.Same b) ∧
      (a.Same b ↔ Text.fold a.group = Text.fold b.group ∧
        Text.fold a.category = Text.fold b.category ∧
        Text.fold a.counter = Text.fold b.counter) ∧
      (instanceKey definitionKey name = instanceKey definitionKey name' ↔
        Text.fold (name.getD "") = Text.fold (name'.getD "")) :=
  ⟨Key.normalized_eq_iff, Key.same_iff, instanceKey_eq_iff⟩

end Metering
