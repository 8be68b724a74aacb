import Metering.Proofs.Document.Outline
import Metering.Proofs.Settings.Scalar
import Metering.Proofs.Time.DurationText
import Metering.Settings.Builder

/-!
Settings read back as they were written.

A settings document is an outline (`toList_written`), whose values are plain text: durations, words,
numbers and truth values. So the reader finds the names and the values again, and each value reads as
the field it was written for (`ofNode?_groups`). What can be used before it is written is built from
the document alone, whatever was set before (`build_written`).
-/

namespace Metering.Settings

open Metering.Document Metering.Time
open Metering.Decimal (Layout)
open Metering.Text (isAlphanum_of_isDigit ne_of_kind)

/-! ### The document -/

def aggregationEntries (a : AggregationSettings) : List Entry :=
  [⟨"min_millisecond_interval", a.floor.text⟩,
    ⟨"coercion", Vocabulary.name a.coercion⟩,
    ⟨"percentile", Layout.document.write a.percentile⟩]

def registryEntries (r : RegistrySettings) : List Entry :=
  [⟨"initial_capacity", toString r.capacity.toNat⟩,
    ⟨"lock_on_first_instance", truthText r.lockOnFirstInstance⟩]

def loggingEntries (l : LoggingSettings) : List Entry :=
  [⟨"level", Vocabulary.name l.level⟩, ⟨"with_thread_ids", truthText l.threadIds⟩]

/-- The sections of a settings document with their fields. -/
def groups (s : Settings) : List Group :=
  [⟨"aggregation", aggregationEntries s.aggregation⟩, ⟨"registry", registryEntries s.registry⟩,
    ⟨"logging", loggingEntries s.logging⟩]

theorem toList_written (s : Settings) : s.written.toList = s.groups.flatMap Group.lines := by
  have aggregation : "aggregation:\n".toList = "aggregation".toList ++ [':', '\n'] := rfl
  have registry : "registry:\n".toList = "registry".toList ++ [':', '\n'] := rfl
  have logging : "logging:\n".toList = "logging".toList ++ [':', '\n'] := rfl
  have floor : "  min_millisecond_interval: ".toList =
      ' ' :: ' ' :: ("min_millisecond_interval".toList ++ [':', ' ']) := rfl
  have coercion : "  coercion: ".toList =
      ' ' :: ' ' :: ("coercion".toList ++ [':', ' ']) := rfl
  have percentile : "  percentile: ".toList =
      ' ' :: ' ' :: ("percentile".toList ++ [':', ' ']) := rfl
  have capacity : "  initial_capacity: ".toList =
      ' ' :: ' ' :: ("initial_capacity".toList ++ [':', ' ']) := rfl
  have lock : "  lock_on_first_instance: ".toList =
      ' ' :: ' ' :: ("lock_on_first_instance".toList ++ [':', ' ']) := rfl
  have level : "  level: ".toList =
      ' ' :: ' ' :: ("level".toList ++ [':', ' ']) := rfl
  have threads : "  with_thread_ids: ".toList =
      ' ' :: ' ' :: ("with_thread_ids".toList ++ [':', ' ']) := rfl
  have break_line : "\n".toList = ['\n'] := rfl
  unfold written
  simp only [groups, aggregationEntries, registryEntries, loggingEntries, Group.lines, Entry.line,
    List.flatMap_cons, List.flatMap_nil, String.toList_append, aggregation, registry, logging,
    floor, coercion, percentile, capacity, lock, level, threads, break_line, List.append_assoc,
    List.cons_append, List.nil_append, List.append_nil]

/-! ### Plain values -/

/-- A numeral without a sign is plain. -/
theorem isPlain_numeral {c : Char} {rest : List Char} (first : c.isDigit = true)
    (inside : ∀ d ∈ c :: rest, d.isDigit = true ∨ d = '-' ∨ d = '.' ∨ d = 'e') :
    IsPlain (c :: rest) := by
  refine isPlain_of_word (isAlphanum_of_isDigit first) fun d member => ?_
  rcases inside d member with digit | rfl | rfl | rfl
  · exact ⟨isInline_of_isAlphanum (isAlphanum_of_isDigit digit), ne_of_kind digit rfl⟩
  · exact ⟨rfl, by decide⟩
  · exact ⟨rfl, by decide⟩
  · exact ⟨rfl, by decide⟩

theorem isPlain_toString (n : Nat) : IsPlain (toString n).toList := by
  have written : (toString n).toList = Nat.toDigits 10 n := Nat.toList_repr
  have digits := Decimal.isDigits_toDigits n
  obtain ⟨c, rest, split⟩ := List.exists_cons_of_ne_nil (@Nat.toDigits_ne_nil n 10)
  rw [split] at digits
  rw [written, split]
  exact isPlain_numeral (Decimal.mem_isDigit digits List.mem_cons_self)
    fun d member => .inl (Decimal.mem_isDigit digits member)

/-- A positive float is written as a numeral without a sign. -/
theorem isPlain_write {x : Float} {mantissa : Nat} {exponent : Int} (layout : Layout)
    (finite : Decimal.magnitude x = .finite mantissa exponent)
    (positive : Decimal.isNegative x = false) : IsPlain (layout.write x).toList := by
  obtain ⟨p, written, proper, sign, -⟩ := layout.write_parts finite
  obtain ⟨c, rest, split, ⟨minus, -⟩ | ⟨-, digit⟩⟩ := Decimal.Parts.text_eq_cons proper
  · rw [minus, positive] at sign
    cases sign
  · rw [written, split]
    exact isPlain_numeral digit fun d member => Decimal.Parts.mem_text proper (split ▸ member)

/-- The parts of a duration are plain words, with blanks between them. -/
theorem isPlain_text (d : Duration) : IsPlain d.text.toList := by
  obtain ⟨p, ps, shown⟩ := List.exists_cons_of_ne_nil d.shown_ne_nil
  have proper : ∀ q ∈ p :: ps, q.Proper := shown ▸ d.proper_shown
  rw [Duration.toList_text shown]
  refine ⟨?_, fun c member => ?_, fun last => ?_⟩
  · obtain ⟨c, rest, split⟩ := List.exists_cons_of_ne_nil (text_ne_nil p)
    refine ⟨c, rest ++ laterText ps, by rw [split, List.cons_append], ?_⟩
    exact isAlphanum_of_mem_text (proper p List.mem_cons_self)
      (split ▸ List.mem_cons_self)
  · rcases mem_parts proper member with alphanum | rfl
    · exact isInline_of_isAlphanum alphanum
    · rfl
  · exact absurd (getLast?_parts proper ' ' last) (by decide)

theorem isPlain_truthText (b : Bool) : IsPlain (truthText b).toList := by
  cases b <;> decide

theorem isPlain_coercion (p : CoercionPolicy) : IsPlain (Vocabulary.name p).toList := by
  cases p <;> decide

theorem isPlain_level (l : LogLevel) : IsPlain (Vocabulary.name l).toList := by
  cases l <;> decide

theorem proper_aggregationEntries {a : AggregationSettings}
    (percentile : isPercentile a.percentile = true) : ∀ e ∈ aggregationEntries a, e.Proper := by
  obtain ⟨positive, mantissa, exponent, finite⟩ := finite_of_isPercentile percentile
  rw [aggregationEntries, List.forall_mem_cons, List.forall_mem_cons, List.forall_mem_singleton]
  exact ⟨Entry.proper_mk (by decide) (isPlain_text _),
    Entry.proper_mk (by decide) (isPlain_coercion _),
    Entry.proper_mk (by decide) (isPlain_write _ finite positive)⟩

theorem proper_registryEntries (r : RegistrySettings) : ∀ e ∈ registryEntries r, e.Proper := by
  rw [registryEntries, List.forall_mem_cons, List.forall_mem_singleton]
  exact ⟨Entry.proper_mk (by decide) (isPlain_toString _),
    Entry.proper_mk (by decide) (isPlain_truthText _)⟩

theorem proper_loggingEntries (l : LoggingSettings) : ∀ e ∈ loggingEntries l, e.Proper := by
  rw [loggingEntries, List.forall_mem_cons, List.forall_mem_singleton]
  exact ⟨Entry.proper_mk (by decide) (isPlain_level _),
    Entry.proper_mk (by decide) (isPlain_truthText _)⟩

/-- The names of sections and fields are plain, and so are the values. -/
theorem proper_groups {s : Settings} (percentile : isPercentile s.aggregation.percentile = true) :
    ∀ g ∈ s.groups, g.Proper := by
  rw [groups, List.forall_mem_cons, List.forall_mem_cons, List.forall_mem_singleton]
  exact ⟨Group.proper_mk (by decide) (proper_aggregationEntries percentile),
    Group.proper_mk (by decide) (proper_registryEntries s.registry),
    Group.proper_mk (by decide) (proper_loggingEntries s.logging)⟩

/-! ### Reading the sections -/

/-- A mapping without references has its entries for fields. -/
theorem fieldsOf?_map {α : Type} (root : Node) (name : α → String) (node : α → Node)
    (same : ∀ a, root.resolve (node a) = node a) (as : List α) :
    fieldsOf? root (.map (as.map fun a => (.scalar (name a) .plain none, node a))) =
      some (as.map fun a => (name a, node a)) := by
  change (as.map _).mapM _ = _
  induction as with
  | nil => rfl
  | cons a as ih =>
      have key : root.resolve (.scalar (name a) .plain none) = .scalar (name a) .plain none := rfl
      rw [List.map_cons, List.mapM_cons, ih, List.map_cons]
      simp only [key, same, scalarText?, Option.map_some]
      rfl

theorem fieldsOf?_entries (root : Node) (es : List Entry) :
    fieldsOf? root (.map (es.map Entry.node)) =
      some (es.map fun e => (e.name, .scalar e.value .plain none)) :=
  fieldsOf?_map root Entry.name (fun e => .scalar e.value .plain none) (fun _ => rfl) es

theorem fieldsOf?_groups (root : Node) (gs : List Group) :
    fieldsOf? root (.map (gs.map Group.node)) =
      some (gs.map fun g => (g.name, .map (g.entries.map Entry.node))) :=
  fieldsOf?_map root Group.name (fun g => .map (g.entries.map Entry.node)) (fun _ => rfl) gs

/-- A field that is given once is read. -/
theorem field?_of_filter {α : Type} {fields : List (String × Node)} {name : String}
    (read : Node → Option α) (default : α) {node : Node}
    (given : fields.filter (·.1 == name) = [(name, node)]) :
    field? fields name read default = read node := by
  rw [field?, given]

theorem readCapacity?_toString (n : UInt64) :
    readCapacity? (.scalar (toString n.toNat) .plain none) = some n := by
  have value : valueText? "int" (.scalar (toString n.toNat) .plain none) =
      some (toString n.toNat) := rfl
  have fits : n.toNat < UInt64.size := n.toNat_lt
  rw [readCapacity?, value, Option.bind_some, natural?_toString]
  simp only [Option.bind_eq_bind, Option.bind_some, fits, if_true]
  exact congrArg some UInt64.ofNat_toNat

theorem readTruth?_truthText (b : Bool) :
    readTruth? (.scalar (truthText b) .plain none) = some b := by
  cases b <;> rfl

theorem readAggregation?_entries (root : Node) {a : AggregationSettings}
    (percentile : isPercentile a.percentile = true) :
    readAggregation? root (.map ((aggregationEntries a).map Entry.node)) = some a := by
  obtain ⟨-, mantissa, exponent, finite⟩ := finite_of_isPercentile percentile
  have floor : readDuration? (.scalar a.floor.text .plain none) = some a.floor := a.floor.read?_text
  have coercion : readWord? (.scalar (Vocabulary.name a.coercion) .plain none) = some a.coercion :=
    a.coercion.ofName?_name
  have number : readFloat? (.scalar (Layout.document.write a.percentile) .plain none) =
      some a.percentile := number?_write finite
  simp only [readAggregation?, fieldsOf?_entries, Option.bind_eq_bind, Option.bind_some]
  rw [field?_of_filter readDuration? _ rfl, floor, Option.bind_some,
    field?_of_filter readWord? _ rfl, coercion, Option.bind_some,
    field?_of_filter readFloat? _ rfl, number, Option.bind_some]

theorem readRegistry?_entries (root : Node) (r : RegistrySettings) :
    readRegistry? root (.map ((registryEntries r).map Entry.node)) = some r := by
  simp only [fieldsOf?_entries, readRegistry?, Option.bind_eq_bind, Option.bind_some]
  rw [field?_of_filter readCapacity? _ rfl, readCapacity?_toString, Option.bind_some,
    field?_of_filter readTruth? _ rfl, readTruth?_truthText, Option.bind_some]

theorem readLogging?_entries (root : Node) (l : LoggingSettings) :
    readLogging? root (.map ((loggingEntries l).map Entry.node)) = some l := by
  have level : readWord? (.scalar (Vocabulary.name l.level) .plain none) = some l.level :=
    l.level.ofName?_name
  simp only [readLogging?, fieldsOf?_entries, Option.bind_eq_bind, Option.bind_some]
  rw [field?_of_filter readWord? _ rfl, level, Option.bind_some,
    field?_of_filter readTruth? _ rfl, readTruth?_truthText, Option.bind_some]

theorem ofNode?_groups {s : Settings} (percentile : isPercentile s.aggregation.percentile = true) :
    ofNode? (.map (s.groups.map Group.node)) = some s := by
  generalize root : Node.map (s.groups.map Group.node) = node
  have sections : fieldsOf? node node =
      some (s.groups.map fun g => (g.name, .map (g.entries.map Entry.node))) := by
    rw [← root]
    exact fieldsOf?_groups _ s.groups
  rw [ofNode?, sections, Option.bind_eq_bind, Option.bind_some,
    field?_of_filter (readAggregation? node ·) _ rfl, readAggregation?_entries node percentile,
    Option.bind_eq_bind, Option.bind_some, field?_of_filter ( readRegistry? node ·) _ rfl,
    readRegistry?_entries, Option.bind_eq_bind, Option.bind_some,
    field?_of_filter (readLogging? node ·) _ rfl, readLogging?_entries]
  rfl

/-! ### Building from a document -/

/-- **Settings are read as they were written.** -/
theorem read?_written {s : Settings} (percentile : isPercentile s.aggregation.percentile = true) :
    read? s.written = some s := by
  have some_group : s.groups ≠ [] := List.cons_ne_nil _ _
  rw [read?, read?_outline (proper_groups percentile) some_group (toList_written s),
    Option.bind_some, ofNode?_groups percentile]

theorem isPercentile_of_validate {s : Settings} (valid : s.validate = .ok s) :
    isPercentile s.aggregation.percentile = true := by
  unfold validate at valid
  split at valid
  · cases valid
  · split at valid
    · rename_i percentile
      exact percentile
    · cases valid

/-- The last document decides, whatever was set before it. -/
theorem layered_document {layers : List Layer} {before : Settings}
    (begun : layered layers = .ok before) (text : String) :
    layered (layers ++ [.document text]) = ofDocument text := by
  rw [layered] at begun ⊢
  rw [List.foldlM_append, begun]
  exact bind_pure (ofDocument text)

/-- **What can be used is built as it was written.** The document decides alone, whatever was set
before it. -/
theorem build_written {s : Settings} (valid : s.validate = .ok s) {layers : List Layer}
    {before : Settings} (begun : layered layers = .ok before) :
    build (layers ++ [.document s.written]) = .ok s := by
  rw [build, layered_document begun, ofDocument, read?_written (isPercentile_of_validate valid)]
  exact valid

/-- Settings with no field at its default, after a change that the document overrides. -/
theorem build_written_noDefaults :
    let s : Settings := ⟨⟨⟨1500000001, by decide⟩, .fail, 0.75⟩, ⟨7, false⟩, ⟨.debug, true⟩⟩
    s.validate = .ok s ∧ layered [.change (.capacity 3)] = .ok { registry := { capacity := 3 } } ∧
      build ([.change (.capacity 3)] ++ [.document s.written]) = .ok s :=
  ⟨rfl, rfl, build_written rfl rfl⟩

end Metering.Settings
