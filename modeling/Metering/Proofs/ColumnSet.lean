import Metering.ColumnSet

/-!
What holds of a column set through all its edits.

The names, the order, the default and the positions of a set are kept in step by every operation
(`Consistent`). On a locked set an edit other than loading a stored column leaves everything as it
was (`Edit.eq_of_locked`), and such a load only puts one more column at the end (`Extends`).
-/

namespace Metering.ColumnSet

/-- The folded name of a column, also of one that was removed. -/
def foldedName? (s : ColumnSet) (serial : Nat) : Option String :=
  s.columns[serial]?.map fun column => Text.fold column.name

/-- The views of a set agree. -/
structure Consistent (s : ColumnSet) : Prop where
  /-- No column is listed twice. -/
  nodup : s.order.Nodup
  /-- What is listed was accepted before. -/
  known : ∀ serial ∈ s.order, serial < s.columns.size
  /-- The names lead to the listed columns, each by its own name. -/
  named : ∀ {key : String} {serial : Nat},
    s.byName[key]? = some serial ↔ serial ∈ s.order ∧ s.foldedName? serial = some key
  /-- The default column is a listed one. -/
  default : ∀ {serial : Nat}, s.default = some serial → serial ∈ s.order
  /-- No column of an open set has a position. In a locked set the position of a column is its
  place in the order, and a column that was removed has none. -/
  index : ∀ {serial : Nat} {column : Column}, s.columns[serial]? = some column →
    column.index = if s.locked then s.order.idxOf? serial else none

/-- The set has further columns at its end, and all else as before. -/
structure Extends (s s' : ColumnSet) (further : List Nat) : Prop where
  locked : s'.locked = s.locked
  order : s'.order = s.order ++ further
  columns : ∀ {serial : Nat} {column : Column},
    s.columns[serial]? = some column → s'.columns[serial]? = some column

/-- What an operation other than loading a stored column can make of a set. -/
inductive Edit : ColumnSet → ColumnSet → Prop where
  | keeps (s : ColumnSet) : Edit s s
  | adds {s s' : ColumnSet} {name : String} {type : ValueType} {options : ColumnOptions}
      {serial : Nat} : s.add name type options = .ok (serial, s') → Edit s s'
  | removes {s s' : ColumnSet} {name : String} {serial : Nat} :
      s.remove name = .ok (serial, s') → Edit s s'
  | nominates {s s' : ColumnSet} {name : String} : s.setDefault name = .ok s' → Edit s s'
  | locks (s : ColumnSet) : Edit s s.lock

/-- Locking a set that is open. -/
theorem Edit.lockOpen (s : ColumnSet) : Edit s (if s.locked then s else s.lock) := by
  cases s.locked with
  | true => exact .keeps s
  | false => exact .locks s

variable {s s' s'' : ColumnSet} {name : String} {type : ValueType} {options : ColumnOptions}
  {serial : Nat} {column : Column}

/-! ### What each operation answers -/

theorem append_eq_ok (appended : s.append column = .ok (serial, s')) :
    s.byName[Text.fold column.name]? = none ∧ serial = s.columns.size ∧
      s' = { s with
        columns := s.columns.push column
        order := s.order ++ [serial]
        byName := s.byName.insert (Text.fold column.name) serial } := by
  unfold append at appended
  cases free : s.serialOf? column.name with
  | some _ => simp [free] at appended
  | none =>
      simp only [free, Except.ok.injEq, Prod.mk.injEq] at appended
      obtain ⟨rfl, rfl⟩ := appended
      exact ⟨free, rfl, rfl⟩

theorem add_eq_ok (added : s.add name type options = .ok (serial, s')) :
    s.locked = false ∧ s.append (.ofOptions name type options) = .ok (serial, s') := by
  unfold add at added
  cases locked : s.locked with
  | true => simp [locked] at added
  | false =>
      simp only [locked, Bool.false_eq_true, if_false] at added
      exact ⟨rfl, added⟩

theorem remove_eq_ok (removed : s.remove name = .ok (serial, s')) :
    s.locked = false ∧ s.byName[Text.fold name]? = some serial ∧
      s' = { s with
        order := s.order.filter (· != serial)
        byName := s.byName.erase (Text.fold name)
        default := if s.default = some serial then none else s.default } := by
  unfold remove at removed
  cases locked : s.locked with
  | true => simp [locked] at removed
  | false =>
      cases found : s.serialOf? name with
      | none => simp [locked, found] at removed
      | some there =>
          simp only [locked, found, Bool.false_eq_true, if_false, Except.ok.injEq,
            Prod.mk.injEq] at removed
          obtain ⟨rfl, rfl⟩ := removed
          exact ⟨rfl, found, rfl⟩

theorem setDefault_eq_ok (nominated : s.setDefault name = .ok s') :
    s.locked = false ∧ ∃ serial, s.byName[Text.fold name]? = some serial ∧
      s' = { s with default := some serial } := by
  unfold setDefault at nominated
  cases locked : s.locked with
  | true => simp [locked] at nominated
  | false =>
      cases found : s.serialOf? name with
      | none => simp [locked, found] at nominated
      | some serial =>
          simp only [locked, found, Bool.false_eq_true, if_false, Except.ok.injEq] at nominated
          exact ⟨rfl, serial, found, nominated.symm⟩

/-- The column that is loaded has the next position in a locked set, and none in an open one. -/
theorem rehydrate_eq_append (s : ColumnSet) (name : String) (type : ValueType)
    (options : ColumnOptions) :
    ∃ column : Column, column.index = (if s.locked then some s.order.length else none) ∧
      s.rehydrate name type options = s.append column :=
  ⟨_, rfl, rfl⟩

/-- No edit changes whose columns they are. -/
theorem Edit.owner (edit : s.Edit s') : s'.owner = s.owner := by
  cases edit with
  | keeps => rfl
  | adds added =>
      obtain ⟨-, -, rfl⟩ := append_eq_ok (add_eq_ok added).2
      rfl
  | removes removed =>
      obtain ⟨-, -, rfl⟩ := remove_eq_ok removed
      rfl
  | nominates nominated =>
      obtain ⟨-, serial, -, rfl⟩ := setDefault_eq_ok nominated
      rfl
  | locks => rfl

/-- Locking gives a listed column its place, and leaves any other column as it is. -/
theorem getElem?_columns_lock (s : ColumnSet) (serial : Nat) :
    s.lock.columns[serial]? = s.columns[serial]?.map fun column =>
      { column with index := (s.order.idxOf? serial).or column.index } := by
  simp only [lock, Array.getElem?_mapIdx]
  congr 1
  funext column
  cases s.order.idxOf? serial with
  | none => rfl
  | some index => rfl

theorem foldedName?_lock (s : ColumnSet) (serial : Nat) :
    s.lock.foldedName? serial = s.foldedName? serial := by
  rw [foldedName?, foldedName?, getElem?_columns_lock, Option.map_map]
  rfl

/-! ### What keeps a set consistent -/

theorem idxOf?_concat (order : List Nat) (serial other : Nat) (free : serial ∉ order) :
    (order ++ [serial]).idxOf? other =
      if other = serial then some order.length else order.idxOf? other := by
  rw [List.idxOf?, List.findIdx?_append]
  by_cases same : other = serial
  · subst same
    have missing : order.idxOf? other = none := List.idxOf?_eq_none_iff.mpr free
    rw [List.idxOf?] at missing
    simp [missing]
  · simp [same, Ne.symm same]

/-- A set without columns. -/
theorem consistent_empty (definition : Nat) (owner : String) :
    Consistent { definition, owner } := by
  constructor <;> simp

theorem Consistent.append (consistent : s.Consistent)
    (position : column.index = if s.locked then some s.order.length else none)
    (appended : s.append column = .ok (serial, s')) : s'.Consistent := by
  obtain ⟨free, rfl, rfl⟩ := append_eq_ok appended
  have new : s.columns.size ∉ s.order := fun listed =>
    Nat.lt_irrefl _ (consistent.known _ listed)
  constructor
  · rw [List.nodup_append]
    refine ⟨consistent.nodup, by simp, ?_⟩
    intro before listed last member
    obtain rfl := List.mem_singleton.mp member
    exact fun same => new (same ▸ listed)
  · intro serial listed
    rw [Array.size_push]
    rcases List.mem_append.mp listed with before | last
    · exact Nat.lt_succ_of_lt (consistent.known serial before)
    · obtain rfl := List.mem_singleton.mp last
      exact Nat.lt_succ_self _
  · intro key serial
    have before : s.byName[key]? = some serial ↔
        serial ∈ s.order ∧ s.foldedName? serial = some key := consistent.named
    simp only [foldedName?] at before
    simp only [Std.TreeMap.getElem?_insert, Std.compare_eq_iff_eq, foldedName?,
      Array.getElem?_push, List.mem_append, List.mem_singleton]
    by_cases last : serial = s.columns.size
    · subst last
      by_cases own : Text.fold column.name = key
      · simp [own]
      · simp [own, before, new]
    · by_cases own : Text.fold column.name = key
      · subst own
        rw [free] at before
        simpa [last, Ne.symm last] using before
      · simp [own, last, before]
  · intro serial default
    exact List.mem_append_left _ (consistent.default default)
  · intro serial held found
    simp only [Array.getElem?_push] at found
    simp only [idxOf?_concat _ _ _ new]
    by_cases last : serial = s.columns.size
    · subst last
      obtain rfl : column = held := by simpa using found
      simp [position]
    · rw [if_neg last] at found ⊢
      exact consistent.index found

theorem Consistent.remove (consistent : s.Consistent)
    (removed : s.remove name = .ok (serial, s')) : s'.Consistent := by
  obtain ⟨opened, found, rfl⟩ := remove_eq_ok removed
  constructor
  · exact consistent.nodup.filter _
  · intro other listed
    exact consistent.known other (List.mem_filter.mp listed).1
  · intro key other
    have gone := (consistent.named.mp found).2
    have before : s.byName[key]? = some other ↔
        other ∈ s.order ∧ s.foldedName? other = some key := consistent.named
    simp only [Std.TreeMap.getElem?_erase, Std.compare_eq_iff_eq, List.mem_filter, bne_iff_ne]
    by_cases own : Text.fold name = key
    · subst own
      rw [if_pos rfl]
      refine iff_of_false (by simp) ?_
      rintro ⟨⟨listed, other_serial⟩, named⟩
      have same := before.mpr ⟨listed, named⟩
      rw [found] at same
      exact other_serial (Option.some.inj same).symm
    · rw [if_neg own, before]
      constructor
      · rintro ⟨listed, named⟩
        refine ⟨⟨listed, ?_⟩, named⟩
        rintro rfl
        exact own (Option.some.inj (gone.symm.trans named))
      · rintro ⟨⟨listed, -⟩, named⟩
        exact ⟨listed, named⟩
  · intro other default
    by_cases cleared : s.default = some serial
    · simp [cleared] at default
    · simp only [cleared, if_false] at default
      refine List.mem_filter.mpr ⟨consistent.default default, ?_⟩
      rw [bne_iff_ne]
      exact fun same => cleared (same ▸ default)
  · intro other column held
    have unplaced := consistent.index held
    rw [opened] at unplaced ⊢
    exact unplaced

theorem Consistent.setDefault (consistent : s.Consistent)
    (nominated : s.setDefault name = .ok s') : s'.Consistent := by
  obtain ⟨-, serial, found, rfl⟩ := setDefault_eq_ok nominated
  refine { consistent with default := ?_ }
  intro other default
  obtain rfl := Option.some.inj default
  exact (consistent.named.mp found).1

theorem Consistent.lock (consistent : s.Consistent) : s.lock.Consistent := by
  refine ⟨consistent.nodup, ?_, ?_, consistent.default, ?_⟩
  · intro serial listed
    simpa [ColumnSet.lock] using consistent.known serial listed
  · intro key serial
    rw [foldedName?_lock]
    exact consistent.named
  · intro serial column held
    rw [getElem?_columns_lock] at held
    obtain ⟨before, found, rfl⟩ := Option.map_eq_some_iff.mp held
    have position := consistent.index found
    change (s.order.idxOf? serial).or before.index = s.order.idxOf? serial
    rw [position]
    cases s.locked with
    | true => exact Option.or_self
    | false => exact Option.or_none

theorem Consistent.rehydrate (consistent : s.Consistent)
    (loaded : s.rehydrate name type options = .ok (serial, s')) : s'.Consistent := by
  obtain ⟨column, position, appended⟩ := rehydrate_eq_append s name type options
  exact consistent.append position (appended ▸ loaded)

theorem Edit.consistent (edit : Edit s s') (consistent : s.Consistent) : s'.Consistent := by
  cases edit with
  | keeps => exact consistent
  | adds added =>
      obtain ⟨opened, appended⟩ := add_eq_ok added
      refine consistent.append ?_ appended
      rw [opened]
      rfl
  | removes removed => exact consistent.remove removed
  | nominates nominated => exact consistent.setDefault nominated
  | locks => exact consistent.lock

/-! ### Locked sets -/

/-- Locking a locked set changes nothing. -/
theorem Consistent.lock_eq_self (consistent : s.Consistent) (locked : s.locked = true) :
    s.lock = s := by
  have same : s.lock.columns = s.columns := by
    refine Array.ext_getElem? fun serial => ?_
    rw [getElem?_columns_lock]
    cases found : s.columns[serial]? with
    | none => rfl
    | some column =>
        have position := consistent.index found
        rw [locked, if_pos rfl] at position
        rw [Option.map_some, ← position, Option.or_self]
  calc s.lock = { s with locked := true, columns := s.lock.columns } := rfl
    _ = s := by rw [same, ← locked]

/-- A locked set is closed to all edits. -/
theorem Edit.eq_of_locked (edit : Edit s s') (consistent : s.Consistent)
    (locked : s.locked = true) : s' = s := by
  cases edit with
  | keeps => rfl
  | adds added => simp [(add_eq_ok added).1] at locked
  | removes removed => simp [(remove_eq_ok removed).1] at locked
  | nominates nominated => simp [(setDefault_eq_ok nominated).1] at locked
  | locks => exact consistent.lock_eq_self locked

theorem Extends.refl (s : ColumnSet) : s.Extends s [] :=
  ⟨rfl, (List.append_nil _).symm, id⟩

theorem Extends.trans {first second : List Nat} (here : s.Extends s' first)
    (there : s'.Extends s'' second) : s.Extends s'' (first ++ second) := by
  refine ⟨there.locked.trans here.locked, ?_, fun found => there.columns (here.columns found)⟩
  rw [there.order, here.order, List.append_assoc]

theorem extends_of_append (appended : s.append column = .ok (serial, s')) :
    s.Extends s' [serial] := by
  obtain ⟨-, rfl, rfl⟩ := append_eq_ok appended
  refine ⟨rfl, rfl, ?_⟩
  intro other held found
  obtain ⟨within, -⟩ := Array.getElem?_eq_some_iff.mp found
  rw [Array.getElem?_push, if_neg (Nat.ne_of_lt within)]
  exact found

theorem extends_of_rehydrate (loaded : s.rehydrate name type options = .ok (serial, s')) :
    s.Extends s' [serial] := by
  obtain ⟨column, -, appended⟩ := rehydrate_eq_append s name type options
  exact extends_of_append (appended ▸ loaded)

theorem add_of_locked (locked : s.locked = true) :
    s.add name type options = .error (.locked s.owner) := by
  rw [add, if_pos locked]

theorem remove_of_locked (locked : s.locked = true) :
    s.remove name = .error (.locked s.owner) := by
  rw [remove, if_pos locked]

/-- The column at a place of a locked set has that place as its position. -/
theorem Consistent.exists_at (consistent : s.Consistent) (locked : s.locked = true) {index : Nat}
    (listed : s.order[index]? = some serial) :
    ∃ column, s.columns[serial]? = some column ∧ column.index = some index := by
  obtain ⟨within, at_index⟩ := List.getElem?_eq_some_iff.mp listed
  have known := consistent.known serial (List.mem_of_getElem? listed)
  refine ⟨s.columns[serial], Array.getElem?_eq_getElem known, ?_⟩
  rw [consistent.index (Array.getElem?_eq_getElem known), locked, if_pos rfl,
    List.idxOf?_eq_some_iff]
  refine ⟨within, at_index, ?_⟩
  intro earlier before same
  have distinct := List.pairwise_iff_getElem.mp consistent.nodup earlier index
    (Nat.lt_trans before within) within before
  exact distinct (same.trans at_index.symm)

theorem Consistent.getIndex_eq_ok_iff (consistent : s.Consistent) (locked : s.locked = true)
    {index : Nat} :
    s.getIndex index = .ok column ↔
      ∃ serial, s.order[index]? = some serial ∧ s.columns[serial]? = some column := by
  unfold getIndex
  cases listed : s.order[index]? with
  | none => simp [locked]
  | some serial =>
      obtain ⟨held, found, -⟩ := consistent.exists_at locked listed
      simp [locked, found]

end Metering.ColumnSet
