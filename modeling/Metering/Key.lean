import Metering.Text.Casing

/-!
The identity of a definition: a group, a category and a counter name, compared without
regard to case.

The registry files a definition under one text, the folded parts joined by `~`. A `~` or a
backslash inside a part is escaped by a backslash, so that different parts never join to
the same text.
-/

namespace Metering

structure Key where
  group : String
  category : String
  counter : String
deriving DecidableEq, Repr

/-- Writes a backslash before every separator and every backslash. -/
def escapePart (cs : List Char) : List Char :=
  cs.flatMap fun c => if c = '\\' ∨ c = '~' then ['\\', c] else [c]

namespace Key

/-- The key as given, for messages. -/
def text (k : Key) : String :=
  k.group ++ "~" ++ k.category ++ "~" ++ k.counter

/-- The key with every part folded. -/
def folded (k : Key) : Key :=
  ⟨Text.fold k.group, Text.fold k.category, Text.fold k.counter⟩

/-- Both keys name the same definition. -/
def Same (a b : Key) : Prop :=
  a.folded = b.folded

instance (a b : Key) : Decidable (Same a b) := by
  unfold Same
  infer_instance

/-- The text a definition is filed under. -/
def normalized (k : Key) : String :=
  String.ofList (escapePart k.folded.group.toList ++ '~' :: escapePart k.folded.category.toList
    ++ '~' :: escapePart k.folded.counter.toList)

end Key

/-- The text an instance is filed under: the key of its definition and its own folded name.
The instance without a name is filed under the empty name. -/
def instanceKey (definitionKey : String) (name : Option String) : String :=
  definitionKey ++ "~" ++ Text.fold (name.getD "")

example : (⟨"A~", "b\\", "C"⟩ : Key).normalized = "a\\~~b\\\\~c" := by decide +kernel

end Metering
