import Metering.Proofs.Series.Unnumbered

/-!
Definitions without ids.

The ids of definitions and instances say where things are filed, and nothing else. Everything that a
definition does to its columns, packets and samples, and every series of its instances, is the same
for the definition without its id (`Definition.erased`), as long as its columns and packets are its
own.
-/

namespace Metering

open Metering.Time

/-! ### Taking the ids away -/

def ColumnRef.erased (r : ColumnRef) : ColumnRef :=
  { r with definition := 0 }

def ColumnSet.erased (s : ColumnSet) : ColumnSet :=
  { s with definition := 0 }

def Body.erased : Body → Body
  | .event columns => .event columns.erased
  | .counterSampled type => .counterSampled type

/-- The definition without its id and without its instances. -/
def Definition.erased (d : Definition) : Definition :=
  { d with id := 0, body := d.body.erased, instances := ∅ }

/-- The instance without its id and without the numbers of its samples. -/
def Instance.erased (i : Instance) : Instance :=
  { i with id := 0, definition := 0, store := i.store.unnumbered }

def Packet.erased (p : Packet) : Packet :=
  { p with definition := 0 }

def Series.Selector.erased : Series.Selector → Series.Selector
  | .column ref => .column ref.erased
  | selector => selector

def Series.Query.erased (q : Series.Query) : Series.Query :=
  { q with selector := q.selector.erased }

/-- The columns of the definition are its own. -/
def Definition.OwnsColumns (d : Definition) : Prop :=
  ∀ s, d.columns? = some s → s.definition = d.id

/-! ### Column sets -/

namespace ColumnSet

/-- The edit takes no notice of whose columns they are; `f` is what becomes of its answer. -/
def Ignores {α : Type} (f : α → α) (edit edit₀ : ColumnSet → Except Error (α × ColumnSet)) : Prop :=
  ∀ s, edit₀ s.erased = (edit s).map (Prod.map f erased)

variable {name : String} {type : ValueType} {options : ColumnOptions}

theorem append_erased (s : ColumnSet) (column : Column) :
    s.erased.append column = (s.append column).map (Prod.map id erased) := by
  unfold append
  have same : s.erased.serialOf? column.name = s.serialOf? column.name := rfl
  rw [same]
  cases s.serialOf? column.name with
  | some _ => rfl
  | none => rfl

theorem add_ignores : Ignores id (·.add name type options) (·.add name type options) := by
  intro s
  have same : s.erased.locked = s.locked := rfl
  simp only [add, same]
  cases s.locked with
  | true => rfl
  | false => exact append_erased s _

theorem rehydrate_ignores :
    Ignores id (·.rehydrate name type options) (·.rehydrate name type options) :=
  fun s => append_erased s _

theorem remove_ignores : Ignores id (·.remove name) (·.remove name) := by
  intro s
  have locked : s.erased.locked = s.locked := rfl
  have named : s.erased.serialOf? name = s.serialOf? name := rfl
  simp only [remove, locked, named]
  cases s.locked with
  | true => rfl
  | false =>
      cases s.serialOf? name with
      | none => rfl
      | some serial => rfl

theorem setDefault_erased (s : ColumnSet) (name : String) :
    s.erased.setDefault name = (s.setDefault name).map erased := by
  have locked : s.erased.locked = s.locked := rfl
  have named : s.erased.serialOf? name = s.serialOf? name := rfl
  simp only [setDefault, locked, named]
  cases s.locked with
  | true => rfl
  | false =>
      cases s.serialOf? name with
      | none => rfl
      | some serial => rfl

end ColumnSet

/-! ### Definitions -/

namespace Definition

variable {d : Definition}

theorem columns?_erased (d : Definition) : d.erased.columns? = d.columns?.map ColumnSet.erased := by
  unfold columns? erased
  cases d.body with
  | event columns => rfl
  | counterSampled type => rfl

theorem schema_erased (d : Definition) : d.erased.schema = d.schema := by
  unfold schema erased
  cases d.body with
  | event columns => rfl
  | counterSampled type => rfl

theorem incompatible_erased (d : Definition) (requested : String) :
    d.erased.incompatible requested = d.incompatible requested := by
  rw [incompatible, schema_erased]
  rfl

theorem refuses_erased (d : Definition) (requested : String) :
    d.erased.refuses requested = d.refuses requested := by
  rw [refuses, kind, schema_erased]
  rfl

theorem withColumns_erased (d : Definition) (s : ColumnSet) :
    d.erased.withColumns s.erased = (d.withColumns s).erased := by
  obtain ⟨id, key, body, instances⟩ := d
  cases body with
  | event columns => rfl
  | counterSampled type => rfl

theorem erased_ofSchema (id : DefinitionId) (key : Key) (schema : Schema) :
    (ofSchema id key schema).erased = ofSchema 0 key schema := by
  cases schema with
  | event => rfl
  | counterSampled type => rfl

theorem lock_erased (d : Definition) : d.erased.lock = d.lock.erased := by
  unfold lock
  rw [columns?_erased]
  cases d.columns? with
  | some columns => exact withColumns_erased d columns.lock
  | none => rfl

theorem erased_createInstance (d : Definition) (name : Option String) (new : InstanceId)
    (lockFirst : Bool) : (d.createInstance name new lockFirst).erased =
      if lockFirst then d.erased.lock else d.erased := by
  cases lockFirst with
  | true => exact (lock_erased d).symm
  | false => rfl

theorem editColumns_erased {α : Type} {f : α → α}
    {edit edit₀ : ColumnSet → Except Error (α × ColumnSet)} (ignores : ColumnSet.Ignores f edit edit₀)
    (d : Definition) :
    d.erased.editColumns edit₀ = (d.editColumns edit).map (Prod.map f erased) := by
  unfold editColumns columns
  rw [columns?_erased]
  cases d.columns? with
  | none => exact congrArg Except.error (incompatible_erased d _)
  | some s =>
      simp only [Option.map_some, ignores s]
      cases edit s with
      | error e => rfl
      | ok done => exact congrArg (fun d => Except.ok (f done.1, d)) (withColumns_erased d done.2)

theorem createPacket_erased (d : Definition) :
    d.erased.createPacket = d.createPacket.map (Prod.map Packet.erased erased) := by
  unfold createPacket
  rw [columns?_erased]
  cases d.columns? with
  | none => exact congrArg Except.error (refuses_erased d _)
  | some s =>
      have same : s.erased.locked = s.locked := rfl
      simp only [Option.map_some, same]
      cases s.locked with
      | true => exact congrArg (fun d => Except.ok (_, d)) (withColumns_erased d s)
      | false => exact congrArg (fun d => Except.ok (_, d)) (withColumns_erased d s.lock)

/-- Its own packets pass the check with and without an id. -/
theorem checkPacket_erased {p : Packet} (own : p.definition = d.id) :
    d.erased.checkPacket p.erased = d.checkPacket p := by
  unfold checkPacket
  rw [columns?_erased]
  cases d.columns? with
  | none => exact congrArg Except.error (refuses_erased d _)
  | some s =>
      have same : p.erased.definition = d.erased.id := rfl
      simp only [Option.map_some, own, same, if_true]

theorem checkPayload_erased (d : Definition) (payload : Payload) :
    d.erased.checkPayload payload = d.checkPayload payload := by
  rw [checkPayload, checkPayload, refuses_erased, kind, schema_erased, kind]

end Definition

/-- A sample is stored at the end, whatever its number. -/
theorem Instance.erased_append (i : Instance) (sample : Sample) :
    { i with store := i.store.append sample }.erased =
      { i.erased with store := i.erased.store.append sample.unnumbered } := by
  simp [erased, Store.unnumbered, Store.append]

/-! ### Packets -/

namespace Packet

theorem set_erased (p : Packet) (index : Nat) (value : Option Value) :
    p.erased.set index value = (p.set index value).map erased := by
  have same : p.erased.slots = p.slots := rfl
  simp only [set, same]
  by_cases within : index < p.slots.length
  · simp only [if_pos within]
    rfl
  · simp only [if_neg within]
    rfl

theorem setNamed_erased (p : Packet) (s : ColumnSet) (name : String) (value : Value) :
    p.erased.setNamed s.erased name value = (p.setNamed s name value).map erased := by
  have same : s.erased.get name = s.get name := rfl
  simp only [setNamed, same]
  cases s.get name with
  | error e => rfl
  | ok found =>
      simp only []
      cases found.2.index with
      | none => rfl
      | some index => exact set_erased p index (some value)

theorem fill_erased (p : Packet) (values : List (Option Value)) :
    p.erased.fill values = (p.fill values).map erased := by
  have same : p.erased.slots = p.slots := rfl
  simp only [fill, same]
  by_cases fits : values.length ≤ p.slots.length
  · simp only [if_pos fits]
    rfl
  · simp only [if_neg fits]
    rfl

end Packet

/-! ### Series -/

namespace Series

variable {d : Definition} {q : Query}

/-- A column that the query refers to is one of the definition. -/
def Query.RefersTo (q : Query) (d : Definition) : Prop :=
  ∀ ref, q.selector = .column ref → ref.definition = d.id

theorem resolve_erased (owned : d.OwnsColumns) (refers : q.RefersTo d) :
    resolve d.erased q.selector.erased = resolve d q.selector := by
  unfold resolve
  rw [Definition.columns?_erased]
  cases event : d.columns? with
  | none =>
      cases q.selector with
      | column ref => rfl
      | _ => rfl
  | some s =>
      cases selected : q.selector with
      | occurrences => rfl
      | default => rfl
      | named name =>
          have same : s.erased.get name = s.get name := rfl
          simp only [Option.map_some, Selector.erased, same]
      | column ref =>
          have same : s.erased.contains ref.erased = s.contains ref := by
            have own : ref.definition = s.definition :=
              (refers ref selected).trans (owned s event).symm
            rw [ColumnSet.contains, ColumnSet.contains, own, beq_self_eq_true]
            rfl
          simp only [Option.map_some, Selector.erased, same]
          rfl

theorem plan_erased (owned : d.OwnsColumns) (refers : q.RefersTo d) :
    plan q.erased d.erased = plan q d := by
  have same : resolve d.erased q.erased.selector = resolve d q.selector :=
    resolve_erased owned refers
  rw [plan, same]
  rfl

theorem trendsColumn_erased (owned : d.OwnsColumns) (refers : q.RefersTo d) :
    trendsColumn q.erased d.erased = trendsColumn q d := by
  rw [trendsColumn, plan_erased owned refers]
  rfl

/-- The selector has done its part when the column is known. -/
theorem instanceSeries_erased {ν : Type} [Arithmetic ν] (settings : AggregationSettings) (q : Query)
    (d : Definition) (trended : Option Nat) (i : Instance) :
    (instanceSeries settings q.erased d.erased trended i.erased : Except Error (Series ν)) =
      instanceSeries settings q d trended i := by
  unfold instanceSeries Definition.erased
  cases d.body with
  | counterSampled type => exact counterSeries_unnumbered settings q type i.store
  | event s =>
      cases trended with
      | none => exact eventSeries_unnumbered settings q none i.store
      | some serial =>
          have same : targetOf s.erased.lock serial = targetOf s.lock serial := rfl
          simp only [Body.erased, same]
          cases targetOf s.lock serial with
          | error e => rfl
          | ok target => exact eventSeries_unnumbered settings q (some target) i.store

/-- A series depends on no id and on no sequence number. -/
theorem compute_erased {ν : Type} [Arithmetic ν] (settings : AggregationSettings)
    (owned : d.OwnsColumns) (refers : q.RefersTo d) (i : Instance) :
    (compute settings q.erased d.erased i.erased : Except Error (Series ν)) =
      compute settings q d i := by
  rw [compute, compute, plan_erased owned refers]
  cases plan q d with
  | error e => rfl
  | ok trended => exact instanceSeries_erased settings q d trended i

end Series

end Metering
