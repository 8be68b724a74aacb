import Mathlib.Data.List.Forall2
import Metering.Proofs.ColumnHistory
import Metering.Proofs.Shape

/-!
Series of definitions that are alike.

A query reads little of a definition: what it measures, and of its columns the name, the trend and
the place (`Definition.Alike`). So two instances with the same samples have the same series, where
the one definition may have other ids, another key and columns that were removed in between. A column
that is asked for by reference is another one in each definition; the queries correspond if the
columns stand at the same place (`Selector.Corresponds`, `compute_alike`).
-/

namespace Metering

open Metering.Time

/-- A query reads the same of both columns. -/
structure Column.Alike (c c' : Column) : Prop where
  name : c'.name = c.name
  trendable : c'.trendable = c.trendable
  trend : c'.trend = c.trend

instance : DecidableRel Column.Alike := fun c c' =>
  decidable_of_iff (c'.name = c.name ∧ c'.trendable = c.trendable ∧ c'.trend = c.trend)
    ⟨fun ⟨name, trendable, trend⟩ => ⟨name, trendable, trend⟩,
      fun alike => ⟨alike.name, alike.trendable, alike.trend⟩⟩

/-- The same columns are present in the same order. -/
def ColumnSet.Alike (s s' : ColumnSet) : Prop :=
  List.Forall₂ Column.Alike s.toList s'.toList

/-- The definitions measure the same, with the same columns in the same order. -/
structure Definition.Alike (d d' : Definition) : Prop where
  schema : d'.schema = d.schema
  columns : ∀ {s s' : ColumnSet}, d.columns? = some s → d'.columns? = some s' → s.Alike s'

instance (d d' : Definition) : Decidable (d.Alike d') :=
  have (s s' : ColumnSet) : Decidable (s.Alike s') :=
    inferInstanceAs (Decidable (List.Forall₂ Column.Alike s.toList s'.toList))
  decidable_of_iff (d'.schema = d.schema ∧ ∀ s ∈ d.columns?, ∀ s' ∈ d'.columns?, s.Alike s')
    ⟨fun ⟨schema, columns⟩ => ⟨schema, fun event event' => columns _ event _ event'⟩,
      fun alike => ⟨alike.schema, fun _ event _ event' => alike.columns event event'⟩⟩

/-- The present column at the given place. -/
def Definition.columnAt? (d : Definition) (place : Nat) : Option ColumnRef :=
  d.columns?.bind fun s => s.order[place]?.bind s.ref?

/-- The place of the default column. -/
def Definition.defaultPlace? (d : Definition) : Option Nat :=
  d.columns?.bind fun s => s.default.bind s.order.idxOf?

namespace Series

/-- The selectors mean columns at the same place, or none in both definitions. -/
inductive Selector.Corresponds (d d' : Definition) : Selector → Selector → Prop where
  | occurrences : Corresponds d d' .occurrences .occurrences
  | default : d'.defaultPlace? = d.defaultPlace? → Corresponds d d' .default .default
  | named (name : String) : Corresponds d d' (.named name) (.named name)
  | column {place : Nat} {ref ref' : ColumnRef} : d.columnAt? place = some ref →
      d'.columnAt? place = some ref' → Corresponds d d' (.column ref) (.column ref')
  | missing {ref ref' : ColumnRef} : d.columns?.all (!·.contains ref) = true →
      d'.columns?.all (!·.contains ref') = true → Corresponds d d' (.column ref) (.column ref')

/-- The answers are the same, or no such column was found both times. -/
def SameAnswer {α : Type} (a b : Except Error α) : Prop :=
  b = a ∨ (∃ owner column, a = .error (.unknownColumn owner column)) ∧
    ∃ owner column, b = .error (.unknownColumn owner column)

end Series

/-! ### Places -/

theorem Column.Alike.symm {c c' : Column} (alike : c.Alike c') : c'.Alike c :=
  ⟨alike.name.symm, alike.trendable.symm, alike.trend.symm⟩

namespace ColumnSet

variable {s s' : ColumnSet} {place serial serial' : Nat} {column : Column} {name : String}

/-- Columns stand in the list as their serial numbers do in the order. -/
theorem Consistent.getElem?_toList (consistent : s.Consistent) (place : Nat) :
    s.toList[place]? = s.order[place]?.bind (s.columns[·]?) := by
  have known := consistent.known
  unfold toList
  generalize s.order = order at known
  induction order generalizing place with
  | nil => rfl
  | cons serial rest ih =>
      have held := Array.getElem?_eq_getElem (known serial List.mem_cons_self)
      rw [List.filterMap_cons_some held]
      cases place with
      | zero => simp [held]
      | succ place => exact ih place fun other listed => known other (List.mem_cons_of_mem _ listed)

theorem Alike.symm (alike : s.Alike s') : s'.Alike s :=
  List.Forall₂.flip (alike.imp fun _ _ same => same.symm)

/-- Columns at the same place are alike. -/
theorem Alike.getElem? (alike : s.Alike s') (place : Nat) :
    Option.Rel Column.Alike s.toList[place]? s'.toList[place]? := by
  unfold Alike at alike
  generalize s.toList = columns, s'.toList = columns' at alike
  induction alike generalizing place with
  | nil => exact .none
  | cons same _ ih =>
      cases place with
      | zero => exact .some same
      | succ place => exact ih place

/-- A column of the one set and the column at the same place of the other. -/
structure Counterpart (s s' : ColumnSet) (serial serial' : Nat) : Prop where
  place : ∃ place : Nat, s.order[place]? = some serial ∧ s'.order[place]? = some serial'
  alike : ∃ column column', s.columns[serial]? = some column ∧
    s'.columns[serial']? = some column' ∧ column.Alike column'

/-- Every column has a counterpart. -/
theorem Alike.counterpart (alike : s.Alike s') (consistent : s.Consistent)
    (consistent' : s'.Consistent) (listed : s.order[place]? = some serial) :
    ∃ serial', s'.order[place]? = some serial' ∧ s.Counterpart s' serial serial' := by
  have known := consistent.known serial (List.mem_of_getElem? listed)
  have same := alike.getElem? place
  rw [consistent.getElem?_toList, listed, Option.bind_some, Array.getElem?_eq_getElem known,
    consistent'.getElem?_toList] at same
  cases listed' : s'.order[place]? with
  | none =>
      rw [listed'] at same
      cases same
  | some serial' =>
      have known' := consistent'.known serial' (List.mem_of_getElem? listed')
      rw [listed', Option.bind_some, Array.getElem?_eq_getElem known'] at same
      cases same with
      | some same =>
          exact ⟨serial', rfl, ⟨place, listed, listed'⟩, _, _, Array.getElem?_eq_getElem known,
            Array.getElem?_eq_getElem known', same⟩

/-- What one set has under a name, the other has under that name at the same place. -/
theorem Alike.serialOf? (alike : s.Alike s') (consistent : s.Consistent)
    (consistent' : s'.Consistent) (found : s.serialOf? name = some serial) :
    ∃ serial', s'.serialOf? name = some serial' ∧ s.Counterpart s' serial serial' := by
  obtain ⟨member, named⟩ := consistent.named.mp found
  obtain ⟨place, listed⟩ := List.mem_iff_getElem?.mp member
  obtain ⟨serial', listed', counterpart⟩ := alike.counterpart consistent consistent' listed
  obtain ⟨column, column', held, held', same⟩ := counterpart.alike
  refine ⟨serial', consistent'.named.mpr ⟨List.mem_of_getElem? listed', ?_⟩, counterpart⟩
  rw [foldedName?, held, Option.map_some] at named
  rw [foldedName?, held', Option.map_some, same.name]
  exact named

theorem Alike.serialOf?_rel (alike : s.Alike s') (consistent : s.Consistent)
    (consistent' : s'.Consistent) (name : String) :
    Option.Rel (s.Counterpart s') (s.serialOf? name) (s'.serialOf? name) := by
  cases found : s.serialOf? name with
  | some serial =>
      obtain ⟨serial', found', counterpart⟩ := alike.serialOf? consistent consistent' found
      rw [found']
      exact .some counterpart
  | none =>
      cases found' : s'.serialOf? name with
      | none => exact .none
      | some serial' =>
          obtain ⟨serial, found'', -⟩ := alike.symm.serialOf? consistent' consistent found'
          rw [found] at found''
          cases found''

/-- The reference to a column that is present leads to it. -/
theorem Consistent.contains_of_ref? (consistent : s.Consistent) {ref : ColumnRef}
    (listed : s.order[place]? = some serial) (referred : s.ref? serial = some ref) :
    s.contains ref = true ∧ ref.serial = serial := by
  obtain ⟨column, held, rfl⟩ := Option.map_eq_some_iff.mp referred
  have named : s.serialOf? column.name = some serial := by
    refine consistent.named.mpr ⟨List.mem_of_getElem? listed, ?_⟩
    rw [foldedName?, held, Option.map_some]
  refine ⟨?_, rfl⟩
  rw [contains, named]
  simp

/-- Every default column is a listed one, and so has a place. -/
theorem Consistent.default_place (consistent : s.Consistent) (nominated : s.default = some serial) :
    ∃ place, s.default.bind s.order.idxOf? = some place ∧ s.order[place]? = some serial := by
  have listed : (s.order.idxOf? serial).isSome :=
    List.isSome_idxOf?.mpr (consistent.default nominated)
  obtain ⟨place, found⟩ := Option.isSome_iff_exists.mp listed
  obtain ⟨within, there, -⟩ := List.idxOf?_eq_some_iff.mp found
  refine ⟨place, ?_, ?_⟩
  · rw [nominated, Option.bind_some, found]
  · rw [List.getElem?_eq_getElem within, there]

end ColumnSet

namespace Series

variable {ν : Type} [Arithmetic ν] {t t' : TrendTarget} {d d' : Definition} {s s' : ColumnSet}
  {serial serial' : Nat}

/-! ### Evaluators -/

/-- The columns are alike and have the same position among the slots. -/
structure TrendTarget.Alike (t t' : TrendTarget) : Prop where
  column : t.column.Alike t'.column
  index : t'.index = t.index

theorem contribution_alike (alike : t.Alike t') (policy : CoercionPolicy) (sample : Sample) :
    (contribution t' policy sample : Except Error (ν × Bool)) = contribution t policy sample := by
  simp only [contribution, alike.index, alike.column.name]

theorem accumulate_alike (alike : t.Alike t') (policy : CoercionPolicy) (samples : List Sample)
    (acc : RunningSum ν) (failures : Nat) :
    accumulate t' policy samples acc failures = accumulate t policy samples acc failures := by
  induction samples generalizing acc failures with
  | nil => rfl
  | cons sample rest ih => simp only [accumulate, contribution_alike alike, ih]

theorem trendEvaluator_alike (alike : t.Alike t') (policy : CoercionPolicy) :
    (trendEvaluator (some t') policy : Evaluator (TrendState ν) ν) =
      trendEvaluator (some t) policy := by
  have counted : t'.isCounted = t.isCounted := by
    rw [TrendTarget.isCounted, alike.column.trendable, alike.column.trend, TrendTarget.isCounted]
  have window : (trendWindow (some t') policy : TrendState ν → List Sample → _) =
      trendWindow (some t) policy := by
    funext state samples
    simp only [trendWindow, counted, alike.index, alike.column.trend, accumulate_alike alike]
  rw [trendEvaluator, window, trendEvaluator]

/-- A column and its counterpart are trended alike. -/
theorem targetOf_counterpart (consistent : s.Consistent) (consistent' : s'.Consistent)
    (counterpart : s.Counterpart s' serial serial') :
    ∃ t t', targetOf s.lock serial = .ok t ∧ targetOf s'.lock serial' = .ok t' ∧ t.Alike t' := by
  obtain ⟨place, listed, listed'⟩ := counterpart.place
  obtain ⟨column, column', held, held', same⟩ := counterpart.alike
  have locked : ∀ {s : ColumnSet} {serial : Nat} {column : Column}, s.Consistent →
      s.order[place]? = some serial → s.columns[serial]? = some column →
      ∃ t, targetOf s.lock serial = .ok t ∧ column.Alike t.column ∧ t.index = place := by
    intro s serial column consistent listed held
    have listed_lock : s.lock.order[place]? = some serial := listed
    obtain ⟨positioned, found, index⟩ := consistent.lock.exists_at rfl listed_lock
    refine ⟨⟨positioned, place⟩, ?_, ?_, rfl⟩
    · simp only [targetOf, found, index]
    · rw [ColumnSet.getElem?_columns_lock, held, Option.map_some, Option.some.injEq] at found
      rw [← found]
      exact ⟨rfl, rfl, rfl⟩
  obtain ⟨t, target, own, index⟩ := locked consistent listed held
  obtain ⟨t', target', own', index'⟩ := locked consistent' listed' held'
  refine ⟨t, t', target, target', ⟨?_, ?_, ?_⟩, index'.trans index.symm⟩
  · rw [own'.name, same.name, own.name]
  · rw [own'.trendable, same.trendable, own.trendable]
  · rw [own'.trend, same.trend, own.trend]

/-! ### Queries -/

/-- Both selectors lead to no column, to one and its counterpart, or to one that is unknown. -/
inductive ResolvedAlike (d d' : Definition) :
    Except Error (Option Nat) → Except Error (Option Nat) → Prop where
  | none : ResolvedAlike d d' (.ok none) (.ok none)
  | column {s s' : ColumnSet} {serial serial' : Nat} : d.columns? = some s →
      d'.columns? = some s' → s.Counterpart s' serial serial' →
      ResolvedAlike d d' (.ok (some serial)) (.ok (some serial'))
  | unknown (owner column owner' column' : String) : ResolvedAlike d d'
      (.error (.unknownColumn owner column)) (.error (.unknownColumn owner' column'))

/-- Definitions that are alike, where the views of each column set agree. -/
structure Comparable (d d' : Definition) : Prop where
  alike : d.Alike d'
  consistent : ∀ {s}, d.columns? = some s → s.Consistent
  consistent' : ∀ {s}, d'.columns? = some s → s.Consistent

theorem columns?_eq_none_of_alike (alike : d.Alike d') (counter : d.columns? = none) :
    d'.columns? = none := by
  rw [← Definition.kind_eq_counterSampled_iff] at counter ⊢
  rw [Definition.kind, alike.schema]
  exact counter

theorem columns?_eq_some_of_alike (alike : d.Alike d') (event : d.columns? = some s) :
    ∃ s', d'.columns? = some s' := by
  cases event' : d'.columns? with
  | some s' => exact ⟨s', rfl⟩
  | none =>
      have symm : d'.Alike d := ⟨alike.schema.symm, fun event event' => (alike.columns event' event).symm⟩
      rw [columns?_eq_none_of_alike symm event'] at event
      cases event

theorem resolve_default (comparable : Comparable d d') (event : d.columns? = some s)
    (event' : d'.columns? = some s') (same : d'.defaultPlace? = d.defaultPlace?) :
    ResolvedAlike d d' (.ok s.default) (.ok s'.default) := by
  have consistent := comparable.consistent event
  have consistent' := comparable.consistent' event'
  rw [Definition.defaultPlace?, event', Option.bind_some, Definition.defaultPlace?, event,
    Option.bind_some] at same
  cases nominated : s.default with
  | none =>
      cases nominated' : s'.default with
      | none => exact .none
      | some serial' =>
          obtain ⟨place, found, -⟩ := consistent'.default_place nominated'
          rw [found, nominated] at same
          cases same
  | some serial =>
      obtain ⟨place, found, listed⟩ := consistent.default_place nominated
      cases nominated' : s'.default with
      | none =>
          rw [found, nominated'] at same
          cases same
      | some serial' =>
          obtain ⟨place', found', listed'⟩ := consistent'.default_place nominated'
          rw [found, found'] at same
          obtain rfl := Option.some.inj same
          obtain ⟨other, there, counterpart⟩ :=
            (comparable.alike.columns event event').counterpart consistent consistent' listed
          obtain rfl : other = serial' := Option.some.inj (there.symm.trans listed')
          exact .column event event' counterpart

theorem resolve_named (comparable : Comparable d d') (event : d.columns? = some s)
    (event' : d'.columns? = some s') (name : String) :
    ResolvedAlike d d' (resolve d (.named name)) (resolve d' (.named name)) := by
  have consistent := comparable.consistent event
  have consistent' := comparable.consistent' event'
  have same := (comparable.alike.columns event event').serialOf?_rel consistent consistent' name
  simp only [resolve, event, event', ColumnSet.get]
  generalize s.serialOf? name = found at same ⊢
  generalize s'.serialOf? name = found' at same ⊢
  cases same with
  | none => exact .unknown ..
  | some counterpart =>
      obtain ⟨column, column', held, held', -⟩ := counterpart.alike
      simp only [held, held', Except.map]
      exact .column event event' counterpart

theorem resolve_corresponds (comparable : Comparable d d') {selector selector' : Selector}
    (corresponds : selector.Corresponds d d' selector') :
    ResolvedAlike d d' (resolve d selector) (resolve d' selector') := by
  cases event : d.columns? with
  | none =>
      have event' := columns?_eq_none_of_alike comparable.alike event
      unfold resolve
      rw [event, event']
      cases corresponds with
      | occurrences | default => exact .none
      | named | column | missing => exact .unknown ..
  | some s =>
      obtain ⟨s', event'⟩ := columns?_eq_some_of_alike comparable.alike event
      cases corresponds with
      | occurrences =>
          simp only [resolve, event, event']
          exact .none
      | default same =>
          simp only [resolve, event, event']
          exact resolve_default comparable event event' same
      | named name => exact resolve_named comparable event event' name
      | missing absent absent' =>
          rw [event, Option.all_some, Bool.not_eq_true'] at absent
          rw [event', Option.all_some, Bool.not_eq_true'] at absent'
          simp only [resolve, event, event', absent, absent', Bool.false_eq_true, if_false]
          exact .unknown ..
      | @column place ref ref' there there' =>
          rw [Definition.columnAt?, event, Option.bind_some] at there
          rw [Definition.columnAt?, event', Option.bind_some] at there'
          obtain ⟨serial, listed, referred⟩ := Option.bind_eq_some_iff.mp there
          obtain ⟨serial', listed', referred'⟩ := Option.bind_eq_some_iff.mp there'
          have consistent := comparable.consistent event
          have consistent' := comparable.consistent' event'
          obtain ⟨contained, rfl⟩ := consistent.contains_of_ref? listed referred
          obtain ⟨contained', rfl⟩ := consistent'.contains_of_ref? listed' referred'
          obtain ⟨other, found, counterpart⟩ :=
            (comparable.alike.columns event event').counterpart consistent consistent' listed
          obtain rfl : other = ref'.serial := Option.some.inj (found.symm.trans listed')
          simp only [resolve, event, event', contained, contained', if_true]
          exact .column event event' counterpart

theorem instanceSeries_alike (comparable : Comparable d d') (settings : AggregationSettings)
    (q : Query) (selector : Selector) {o o' : Option Nat}
    (resolved : ResolvedAlike d d' (.ok o) (.ok o')) {i i' : Instance} (same : i'.store = i.store) :
    (instanceSeries settings { q with selector } d' o' i' : Except Error (Series ν)) =
      instanceSeries settings q d o i := by
  have schema := comparable.alike.schema
  unfold Definition.schema at schema
  unfold instanceSeries
  rw [same]
  cases body : d.body with
  | counterSampled type =>
      cases body' : d'.body with
      | event s' => simp [body, body'] at schema
      | counterSampled type' =>
          obtain rfl : type' = type := by simpa [body, body'] using schema
          rfl
  | event s =>
      cases body' : d'.body with
      | counterSampled type' => simp [body, body'] at schema
      | event s' =>
          cases resolved with
          | none => rfl
          | column event event' counterpart =>
              rw [Definition.columns?_eq_some_iff, body, Body.event.injEq] at event
              rw [Definition.columns?_eq_some_iff, body', Body.event.injEq] at event'
              subst event event'
              obtain ⟨t, t', target, target', alike⟩ := targetOf_counterpart
                (comparable.consistent (Definition.columns?_eq_some_iff.mpr body))
                (comparable.consistent' (Definition.columns?_eq_some_iff.mpr body')) counterpart
              simp only [target, target', eventSeries, trendEvaluator_alike alike]
              rfl

/-- The same samples have the same series under definitions that are alike. -/
theorem compute_alike (comparable : Comparable d d') (settings : AggregationSettings) (q : Query)
    {selector : Selector} (corresponds : q.selector.Corresponds d d' selector) {i i' : Instance}
    (same : i'.store = i.store) :
    SameAnswer (compute settings q d i : Except Error (Series ν))
      (compute settings { q with selector } d' i') := by
  have resolved := resolve_corresponds comparable corresponds
  have bounds : checkBounds { q with selector } = checkBounds q := rfl
  simp only [compute, plan, bounds]
  cases (checkGranularity q.granularity).bind fun () => checkBounds q with
  | error e => exact .inl rfl
  | ok =>
      generalize resolve d q.selector = found at resolved ⊢
      generalize resolve d' selector = found' at resolved ⊢
      cases resolved with
      | unknown owner column owner' column' => exact .inr ⟨⟨_, _, rfl⟩, _, _, rfl⟩
      | none => exact .inl (instanceSeries_alike comparable settings q selector .none same)
      | column event event' counterpart =>
          exact .inl (instanceSeries_alike comparable settings q selector
            (.column event event' counterpart) same)

end Series

end Metering
