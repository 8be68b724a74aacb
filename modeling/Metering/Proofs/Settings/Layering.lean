import Mathlib.Data.List.DropRight
import Metering.Proofs.Document.Key
import Metering.Settings.Builder

/-!
Which layer decides about a field.

Settings are built from changes, documents and files, one after the other. What a document or a file
gives replaces all there was before, so of the layers only the last source and the changes after it
matter (`layered_eq`). A field has the value of the last change that sets it, else the one that the
source gives it, else its default, whichever other fields the source mentions (`Decides`, `build_layers`).
-/

namespace Metering.Settings

open Metering.Time
open Metering.Document (Node)

/-! ### Fields -/

/-- The fields of all sections. -/
inductive Field where
  | floor
  | coercion
  | percentile
  | capacity
  | lockOnFirstInstance
  | level
  | threadIds
deriving DecidableEq, Repr

namespace Field

/-- What a field holds. -/
abbrev Value : Field → Type
  | floor => Duration
  | coercion => CoercionPolicy
  | percentile => Float
  | capacity => UInt64
  | lockOnFirstInstance | threadIds => Bool
  | level => LogLevel

/-- The value of a field. -/
def of (s : Settings) : (f : Field) → f.Value
  | floor => s.aggregation.floor
  | coercion => s.aggregation.coercion
  | percentile => s.aggregation.percentile
  | capacity => s.registry.capacity
  | lockOnFirstInstance => s.registry.lockOnFirstInstance
  | level => s.logging.level
  | threadIds => s.logging.threadIds

/-- The section of a document that a field stands in. -/
def sectionName : Field → String
  | floor | coercion | percentile => "aggregation"
  | capacity | lockOnFirstInstance => "registry"
  | level | threadIds => "logging"

def name : Field → String
  | floor => "min_millisecond_interval"
  | coercion => "coercion"
  | percentile => "percentile"
  | capacity => "initial_capacity"
  | lockOnFirstInstance => "lock_on_first_instance"
  | level => "level"
  | threadIds => "with_thread_ids"

/-- The value that a node of a document stands for, if it stands for one of the field. -/
def read? (node : Node) : (f : Field) → Option f.Value
  | floor => readDuration? node
  | coercion => readWord? node
  | percentile => readFloat? node
  | capacity => readCapacity? node
  | lockOnFirstInstance | threadIds => readTruth? node
  | level => readWord? node

end Field

/-! ### Changes -/

/-- The value that a change gives a field, if that is the field it sets. -/
def Change.sets? : Change → (f : Field) → Option f.Value
  | .floor d, .floor => some d
  | .coercion p, .coercion => some p
  | .percentile p, .percentile => some p
  | .capacity n, .capacity => some n
  | .lockOnFirstInstance b, .lockOnFirstInstance => some b
  | .level l, .level => some l
  | _, _ => none

/-- The value that the last of the changes that set a field gives it. -/
def lastSet? (changes : List Change) (f : Field) : Option f.Value :=
  (changes.filterMap (·.sets? f)).getLast?

/-- A change sets its field, and no other one. -/
theorem of_apply (c : Change) (s : Settings) (f : Field) :
    f.of (c.apply s) = (c.sets? f).getD (f.of s) := by
  cases c <;> cases f <;> rfl

theorem lastSet?_concat (changes : List Change) (c : Change) (f : Field) :
    lastSet? (changes ++ [c]) f = (c.sets? f).or (lastSet? changes f) := by
  rw [lastSet?, List.filterMap_append, List.getLast?_append]
  cases set : c.sets? f <;> simp [set, lastSet?]

theorem of_foldl_apply (changes : List Change) (s : Settings) (f : Field) :
    f.of (changes.foldl Change.apply s) = (lastSet? changes f).getD (f.of s) := by
  induction changes using List.reverseRecOn with
  | nil => rfl
  | append_singleton earlier c ih =>
      rw [List.foldl_append, List.foldl_cons, List.foldl_nil, of_apply, ih, lastSet?_concat]
      cases c.sets? f with
      | none => rfl
      | some v => rfl

/-! ### Documents -/

/-- The mapping at a node has the value under the key. -/
def HasEntry (root node : Node) (key : String) (value : Node) : Prop :=
  ∃ entries k v, root.resolve node = .map entries ∧ (k, v) ∈ entries ∧
    scalarText? (root.resolve k) = some key ∧ root.resolve v = value

/-- The document with the given root mentions the field, with what the node stands for. -/
def Mentions (root : Node) (f : Field) (node : Node) : Prop :=
  ∃ part, HasEntry root root f.sectionName part ∧ HasEntry root part f.name node

/-- What a value is read from: a node that is mentioned, or the default if none is. -/
structure Stands {α : Type} (mentioned : Node → Prop) (read : Node → Option α) (default v : α) :
    Prop where
  given : ∀ {node : Node}, mentioned node → read node = some v
  leftOut : (∀ node, ¬ mentioned node) → v = default

section Reading

variable {α β : Type} {root node : Node} {fields : List (String × Node)}

theorem mem_of_mapM {f : α → Option β} {xs : List α} {ys : List β} (read : xs.mapM f = some ys)
    (y : β) : y ∈ ys ↔ ∃ x ∈ xs, f x = some y := by
  induction xs generalizing ys with
  | nil =>
      obtain rfl := Option.some.inj read
      simp
  | cons x rest ih =>
      rw [List.mapM_cons] at read
      obtain ⟨first, here, read⟩ := Option.bind_eq_some_iff.mp read
      obtain ⟨others, there, read⟩ := Option.bind_eq_some_iff.mp read
      obtain rfl := Option.some.inj read
      rw [List.mem_cons, List.exists_mem_cons_iff, ih there, here, Option.some.injEq, eq_comm]

/-- The fields that are read are the entries of the mapping. -/
theorem mem_fieldsOf? (read : fieldsOf? root node = some fields) (name : String) (value : Node) :
    (name, value) ∈ fields ↔ HasEntry root node name value := by
  unfold fieldsOf? at read
  unfold HasEntry
  split at read
  · rename_i entries mapping
    rw [mem_of_mapM read, mapping]
    constructor
    · rintro ⟨⟨k, v⟩, member, same⟩
      obtain ⟨text, named, same⟩ := Option.map_eq_some_iff.mp same
      obtain ⟨rfl, rfl⟩ := Prod.mk.inj same
      exact ⟨entries, k, v, rfl, member, named, rfl⟩
    · rintro ⟨_, k, v, same, member, named, rfl⟩
      obtain rfl := Node.map.inj same
      exact ⟨(k, v), member, Option.map_eq_some_iff.mpr ⟨name, named, rfl⟩⟩
  · rename_i empty
    obtain rfl := Option.some.inj read
    simp [empty]
  · cases read

/-- A field that is read has what stands under its name, or its default. -/
theorem stands_field? {name : String} {read : Node → Option α} {default v : α}
    (listed : fieldsOf? root node = some fields) (found : field? fields name read default = some v) :
    Stands (HasEntry root node name) read default v := by
  have under_name : ∀ {value}, HasEntry root node name value →
      (name, value) ∈ fields.filter (·.1 == name) := by
    intro value mentioned
    exact List.mem_filter.mpr ⟨(mem_fieldsOf? listed name value).mpr mentioned, beq_self_eq_true name⟩
  unfold field? at found
  split at found
  · rename_i none_named
    rw [none_named] at under_name
    exact ⟨fun mentioned => absurd (under_name mentioned) List.not_mem_nil,
      fun _ => (Option.some.inj found).symm⟩
  · rename_i name' value one_named
    rw [one_named] at under_name
    refine ⟨fun mentioned => ?_, fun none_mentioned => ?_⟩
    · obtain ⟨-, rfl⟩ := Prod.mk.inj (List.mem_singleton.mp (under_name mentioned))
      exact found
    · have listed_here : (name', value) ∈ fields.filter (·.1 == name) :=
        one_named ▸ List.mem_singleton_self _
      obtain ⟨member, same⟩ := List.mem_filter.mp listed_here
      obtain rfl := eq_of_beq same
      exact absurd ((mem_fieldsOf? listed _ value).mp member) (none_mentioned value)
  · cases found

/-- A field of a section that has its default where the section is left out. -/
theorem Stands.nested {γ : Type} {part name : String} {readPart : Node → Option α}
    {default v : α} {read : Node → Option γ} (get : α → γ)
    (outer : Stands (HasEntry root root part) readPart default v)
    (inner : ∀ node, readPart node = some v →
      Stands (HasEntry root node name) read (get default) (get v)) :
    Stands (fun node => ∃ section_, HasEntry root root part section_ ∧ HasEntry root section_ name node)
      read (get default) (get v) := by
  refine ⟨?_, fun none_mentioned => ?_⟩
  · rintro node ⟨section_, there, mentioned⟩
    exact (inner section_ (outer.given there)).given mentioned
  · by_cases there : ∃ section_, HasEntry root root part section_
    · obtain ⟨section_, there⟩ := there
      exact (inner section_ (outer.given there)).leftOut fun node mentioned =>
        none_mentioned node ⟨section_, there, mentioned⟩
    · rw [outer.leftOut fun section_ here => there ⟨section_, here⟩]

theorem stands_aggregation {a : AggregationSettings}
    (read : readAggregation? root node = some a) :
    Stands (HasEntry root node "min_millisecond_interval") readDuration? defaultFloor a.floor ∧
      Stands (HasEntry root node "coercion") readWord? .substituteZero a.coercion ∧
      Stands (HasEntry root node "percentile") readFloat? 0.95 a.percentile := by
  obtain ⟨fields, listed, read⟩ := Option.bind_eq_some_iff.mp read
  obtain ⟨floor, floor_found, read⟩ := Option.bind_eq_some_iff.mp read
  obtain ⟨coercion, coercion_found, read⟩ := Option.bind_eq_some_iff.mp read
  obtain ⟨percentile, percentile_found, read⟩ := Option.bind_eq_some_iff.mp read
  obtain rfl := Option.some.inj read
  exact ⟨stands_field? listed floor_found, stands_field? listed coercion_found,
    stands_field? listed percentile_found⟩

theorem stands_registry {r : RegistrySettings} (read : readRegistry? root node = some r) :
    Stands (HasEntry root node "initial_capacity") readCapacity? 64 r.capacity ∧
      Stands (HasEntry root node "lock_on_first_instance") readTruth? true r.lockOnFirstInstance := by
  obtain ⟨fields, listed, read⟩ := Option.bind_eq_some_iff.mp read
  obtain ⟨capacity, capacity_found, read⟩ := Option.bind_eq_some_iff.mp read
  obtain ⟨lockFirst, lockFirst_found, read⟩ := Option.bind_eq_some_iff.mp read
  obtain rfl := Option.some.inj read
  exact ⟨stands_field? listed capacity_found, stands_field? listed lockFirst_found⟩

theorem stands_logging {l : LoggingSettings} (read : readLogging? root node = some l) :
    Stands (HasEntry root node "level") readWord? .info l.level ∧
      Stands (HasEntry root node "with_thread_ids") readTruth? false l.threadIds := by
  obtain ⟨fields, listed, read⟩ := Option.bind_eq_some_iff.mp read
  obtain ⟨level, level_found, read⟩ := Option.bind_eq_some_iff.mp read
  obtain ⟨threadIds, threadIds_found, read⟩ := Option.bind_eq_some_iff.mp read
  obtain rfl := Option.some.inj read
  exact ⟨stands_field? listed level_found, stands_field? listed threadIds_found⟩

/-- Every field of every section is read from where the document mentions it. -/
theorem stands_of_ofNode? {s : Settings} (read : ofNode? root = some s) (f : Field) :
    Stands (Mentions root f) (f.read? ·) (f.of {}) (f.of s) := by
  obtain ⟨sections, listed, read⟩ := Option.bind_eq_some_iff.mp read
  obtain ⟨aggregation, aggregation_found, read⟩ := Option.bind_eq_some_iff.mp read
  obtain ⟨registry, registry_found, read⟩ := Option.bind_eq_some_iff.mp read
  obtain ⟨logging, logging_found, read⟩ := Option.bind_eq_some_iff.mp read
  obtain rfl := Option.some.inj read
  have in_aggregation := stands_field? listed aggregation_found
  have in_registry := stands_field? listed registry_found
  have in_logging := stands_field? listed logging_found
  cases f with
  | floor => exact in_aggregation.nested (·.floor) fun _ read => (stands_aggregation read).1
  | coercion =>
      exact in_aggregation.nested (·.coercion) fun _ read => (stands_aggregation read).2.1
  | percentile =>
      exact in_aggregation.nested (·.percentile) fun _ read => (stands_aggregation read).2.2
  | capacity => exact in_registry.nested (·.capacity) fun _ read => (stands_registry read).1
  | lockOnFirstInstance =>
      exact in_registry.nested (·.lockOnFirstInstance) fun _ read => (stands_registry read).2
  | level => exact in_logging.nested (·.level) fun _ read => (stands_logging read).1
  | threadIds => exact in_logging.nested (·.threadIds) fun _ read => (stands_logging read).2

end Reading

/-! ### Chains of layers -/

def Layer.isChange : Layer → Bool
  | .change _ => true
  | .document _ | .file _ => false

def Layer.change? : Layer → Option Change
  | .change c => some c
  | .document _ | .file _ => none

/-- The text that a source gives, if it can be read as text. -/
def Layer.text? : Layer → Option String
  | .change _ | .file (.fault _) => none
  | .document text => some text
  | .file (.bytes content) => String.fromUTF8? content

/-- A source gives a text that settings can be read from; a change needs nothing. -/
def Layer.Parses (layer : Layer) : Prop :=
  layer.isChange = false → ∃ text s, layer.text? = some text ∧ read? text = some s

instance (layer : Layer) : Decidable layer.Parses :=
  decidable_of_iff (layer.isChange = false → (layer.text?.bind read?).isSome = true) <| by
    simp only [Layer.Parses, Option.isSome_iff_exists, Option.bind_eq_some_iff]
    exact forall_congr' fun _ => exists_comm.trans (by simp only [exists_and_left])

/-- The text of the last source, if there is a source. -/
def sourceText? (layers : List Layer) : Option String :=
  (layers.rdropWhile Layer.isChange).getLast?.bind Layer.text?

/-- The changes after the last source. -/
def changesAfter (layers : List Layer) : List Change :=
  (layers.rtakeWhile Layer.isChange).filterMap Layer.change?

/-- The settings that a source gives on its own; without a source, the defaults. -/
def ofSource : Option String → Except Error Settings
  | none => .ok {}
  | some text => ofDocument text

section Chain

variable {layers : List Layer} {layer : Layer} {s : Settings}

/-- A source that can be read gives what its text gives, whatever was set before. -/
theorem Layer.apply_of_source (source : layer.isChange = false) (parses : layer.Parses) :
    ∃ text given, layer.text? = some text ∧ ofDocument text = .ok given ∧
      ∀ before, layer.apply before = .ok given := by
  obtain ⟨text, given, shown, read⟩ := parses source
  have document : ofDocument text = .ok given := by rw [ofDocument, read]
  refine ⟨text, given, shown, document, fun before => ?_⟩
  cases layer with
  | change c => cases source
  | document own =>
      obtain rfl := Option.some.inj shown
      exact document
  | file content =>
      cases content with
      | fault f => cases shown
      | bytes content =>
          have decoded : String.fromUTF8? content = some text := shown
          simp only [apply, ofFile, decoded, document]

theorem sourceText?_change (layers : List Layer) (c : Change) :
    sourceText? (layers ++ [.change c]) = sourceText? layers := by
  rw [sourceText?, List.rdropWhile_concat_pos _ _ _ rfl, sourceText?]

theorem changesAfter_change (layers : List Layer) (c : Change) :
    changesAfter (layers ++ [.change c]) = changesAfter layers ++ [c] := by
  rw [changesAfter, List.rtakeWhile_concat_pos _ _ _ rfl, List.filterMap_append, changesAfter]
  rfl

theorem sourceText?_source (layers : List Layer) (source : layer.isChange = false) :
    sourceText? (layers ++ [layer]) = layer.text? := by
  rw [sourceText?, List.rdropWhile_concat_neg _ _ _ (Bool.eq_false_iff.mp source),
    List.getLast?_concat, Option.bind_some]

theorem changesAfter_source (layers : List Layer) (source : layer.isChange = false) :
    changesAfter (layers ++ [layer]) = [] := by
  rw [changesAfter, List.rtakeWhile_concat_neg _ _ _ (Bool.eq_false_iff.mp source), List.filterMap_nil]

/-- Of layers that can be read, the last source and the changes after it decide. -/
theorem layered_eq (parses : ∀ layer ∈ layers, layer.Parses) :
    ∃ base, ofSource (sourceText? layers) = .ok base ∧
      layered layers = .ok ((changesAfter layers).foldl Change.apply base) := by
  induction layers using List.reverseRecOn with
  | nil => exact ⟨{}, rfl, rfl⟩
  | append_singleton earlier last ih =>
      obtain ⟨base, source, built⟩ := ih fun layer member => parses layer (List.mem_append_left _ member)
      have last_parses := parses last (List.mem_append_right _ (List.mem_singleton_self _))
      have onward : layered (earlier ++ [last]) =
          last.apply ((changesAfter earlier).foldl Change.apply base) := by
        rw [layered] at built ⊢
        rw [List.foldlM_append, built]
        exact bind_pure (last.apply _)
      cases kind : last.isChange with
      | true =>
          obtain ⟨c, rfl⟩ : ∃ c, last = .change c := by
            cases last with
            | change c => exact ⟨c, rfl⟩
            | document text => cases kind
            | file content => cases kind
          refine ⟨base, sourceText?_change earlier c ▸ source, onward.trans ?_⟩
          rw [changesAfter_change, List.foldl_append]
          rfl
      | false =>
          obtain ⟨text, given, given_text, document, whatever⟩ :=
            Layer.apply_of_source kind last_parses
          refine ⟨given, ?_, onward.trans ?_⟩
          · rw [sourceText?_source earlier kind, given_text]
            exact document
          · rw [changesAfter_source earlier kind]
            exact whatever _

/-- Where a field has its value from: the last change that sets it after the last source, else that
source if it mentions the field, else the default. -/
inductive Decides (source : Option String) (changes : List Change) (f : Field) : f.Value → Prop where
  | change {v : f.Value} : lastSet? changes f = some v → Decides source changes f v
  | source {text : String} {root node : Node} {v : f.Value} : lastSet? changes f = none →
      source = some text → Document.read? text = some root → Mentions root f node →
      f.read? node = some v → Decides source changes f v
  | default : lastSet? changes f = none →
      (∀ {text : String} {root node : Node}, source = some text → Document.read? text = some root →
        ¬ Mentions root f node) → Decides source changes f (f.of {})

theorem stands_of_ofDocument {text : String} (given : ofDocument text = .ok s) :
    ∃ root, Document.read? text = some root ∧
      ∀ f, Stands (Mentions root f) (f.read? ·) (f.of {}) (f.of s) := by
  unfold ofDocument at given
  split at given
  · rename_i settings read
    obtain rfl := Except.ok.inj given
    obtain ⟨root, document, node⟩ := Option.bind_eq_some_iff.mp read
    exact ⟨root, document, stands_of_ofNode? node⟩
  · cases given

variable {source : Option String} {base : Settings} {changes : List Change} {f : Field}

/-- What decides about a field gives it the value that it has in the end. -/
theorem Decides.of_eq (given : ofSource source = .ok base) {v : f.Value}
    (decides : Decides source changes f v) : f.of (changes.foldl Change.apply base) = v := by
  rw [of_foldl_apply]
  cases decides with
  | change set => rw [set, Option.getD_some]
  | source unset same document mentioned value =>
      subst same
      obtain ⟨root, document', stands⟩ := stands_of_ofDocument given
      obtain rfl := Option.some.inj (document.symm.trans document')
      rw [unset, Option.getD_none]
      exact Option.some.inj (((stands f).given mentioned).symm.trans value)
  | default unset leftOut =>
      rw [unset, Option.getD_none]
      cases source with
      | none =>
          obtain rfl := Except.ok.inj given
          rfl
      | some text =>
          obtain ⟨root, document, stands⟩ := stands_of_ofDocument given
          exact (stands f).leftOut fun node => leftOut rfl document

/-- Something decides about every field. -/
theorem exists_decides (given : ofSource source = .ok base) (changes : List Change) (f : Field) :
    ∃ v, Decides source changes f v := by
  cases set : lastSet? changes f with
  | some v => exact ⟨v, .change set⟩
  | none =>
      cases source with
      | none => exact ⟨_, .default set nofun⟩
      | some text =>
          obtain ⟨root, document, stands⟩ := stands_of_ofDocument given
          by_cases mentioned : ∃ node, Mentions root f node
          · obtain ⟨node, mentioned⟩ := mentioned
            exact ⟨_, .source set rfl document mentioned ((stands f).given mentioned)⟩
          · refine ⟨_, .default set fun same document' here => mentioned ?_⟩
            obtain rfl := Option.some.inj same
            obtain rfl := Option.some.inj (document.symm.trans document')
            exact ⟨_, here⟩

theorem of_eq_iff_decides (given : ofSource source = .ok base) (changes : List Change) (f : Field)
    (v : f.Value) : f.of (changes.foldl Change.apply base) = v ↔ Decides source changes f v := by
  constructor
  · rintro rfl
    obtain ⟨v, decides⟩ := exists_decides given changes f
    rw [decides.of_eq given]
    exact decides
  · exact Decides.of_eq given

/-- Settings can be used if the interval floor is not zero and the percentile lies in `(0, 1]`. -/
theorem validate_eq_ok_iff {s built : Settings} :
    s.validate = .ok built ↔ built = s ∧ s.aggregation.floor.nanos ≠ 0 ∧
      0 < s.aggregation.percentile ∧ s.aggregation.percentile ≤ 1 := by
  have floor : s.aggregation.floor.isZero = true ↔ s.aggregation.floor.nanos = 0 := beq_iff_eq
  have percentile : isPercentile s.aggregation.percentile = true ↔
      0 < s.aggregation.percentile ∧ s.aggregation.percentile ≤ 1 := by
    rw [isPercentile, Bool.and_eq_true, decide_eq_true_eq, decide_eq_true_eq]
  unfold validate
  split
  · rename_i zero
    simp [floor.mp zero]
  · rename_i nonzero
    split
    · rename_i within
      simp only [Except.ok.injEq, percentile.mp within, mt floor.mpr nonzero, ne_eq, not_false_eq_true,
        and_self, and_true, eq_comm]
    · rename_i outside
      simp [← percentile, outside]

/-- **Which layer decides.** Layers that can all be read give settings where every field has the value
of the last change that sets it after the last source, else the one that this source gives it, else its
default. These settings are built just if they can be used, whatever was set and overwritten on the way;
other layers with the same last source and the same changes after it build the same. -/
theorem build_layers (parses : ∀ layer ∈ layers, layer.Parses) :
    ∃ s, layered layers = .ok s ∧
      (∀ (f : Field) (v : f.Value),
        f.of s = v ↔ Decides (sourceText? layers) (changesAfter layers) f v) ∧
      (∀ built, build layers = .ok built ↔ built = s ∧ s.aggregation.floor.nanos ≠ 0 ∧
        0 < s.aggregation.percentile ∧ s.aggregation.percentile ≤ 1) ∧
      ∀ layers' : List Layer, (∀ layer ∈ layers', layer.Parses) →
        sourceText? layers' = sourceText? layers → changesAfter layers' = changesAfter layers →
        build layers' = build layers := by
  obtain ⟨base, given, built⟩ := layered_eq parses
  refine ⟨_, built, of_eq_iff_decides given _, fun settings => ?_, fun layers' parses' source changes => ?_⟩
  · rw [build, built]
    exact validate_eq_ok_iff
  · obtain ⟨base', given', built'⟩ := layered_eq parses'
    rw [source] at given'
    obtain rfl : base = base' := Except.ok.inj (given.symm.trans given')
    rw [build, build, built, built', changes]

end Chain

/-- A floor of zero and a percentile below zero that are overwritten, by a change and by a file. The file
comes after a document, mentions one field of a section and none of another. -/
def overwrittenLayers : List Layer :=
  [.change (.percentile (-1)), .document "registry:\n  lock_on_first_instance: false\n",
   .change (.capacity 3),
   .file (.bytes "aggregation:\n  coercion: fail\nregistry:\nlogging:\n  level: debug\n".toUTF8),
   .change (.floor .zero), .change (.level .warn), .change (.floor defaultFloor)]

/-- The file sets the coercion, and what was set before it back to the defaults; the changes after it
set the floor and the level. -/
theorem build_layers_overwrittenLayers :
    let source := sourceText? overwrittenLayers
    let changes := changesAfter overwrittenLayers
    (∀ layer ∈ overwrittenLayers, layer.Parses) ∧
    ∃ s, layered overwrittenLayers = .ok s ∧ build overwrittenLayers = .ok s ∧
      Decides source changes .coercion .fail ∧ Decides source changes .percentile 0.95 ∧
      Decides source changes .capacity 64 ∧ Decides source changes .lockOnFirstInstance true ∧
      Decides source changes .floor defaultFloor ∧ Decides source changes .level .warn ∧
      build ([.document "logging: {}\n"] ++ overwrittenLayers) = .ok s := by
  intro source changes
  have parses : ∀ layer ∈ overwrittenLayers, layer.Parses := by decide +kernel
  have parses' : ∀ layer ∈ [.document "logging: {}\n"] ++ overwrittenLayers, layer.Parses := by
    decide +kernel
  have given : layered overwrittenLayers =
      .ok { aggregation := { coercion := .fail }, logging := { level := .warn } } := by decide +kernel
  obtain ⟨s, given', decides, built_iff, same⟩ := build_layers parses
  obtain rfl := Except.ok.inj (given.symm.trans given')
  have built := (built_iff _).mpr ⟨rfl, by decide, by decide +kernel, by decide +kernel⟩
  exact ⟨parses, _, given, built, (decides .coercion .fail).mp rfl, (decides .percentile 0.95).mp rfl,
    (decides .capacity 64).mp rfl, (decides .lockOnFirstInstance true).mp rfl,
    (decides .floor defaultFloor).mp rfl, (decides .level .warn).mp rfl,
    (same _ parses' rfl rfl).trans built⟩

end Metering.Settings
