import Metering.Proofs.Kinds

/-!
What the slots of a packet hold.

A slot can be addressed by its position, by the name of its column in any casing, or by its place among
values that fill the packet from the front. In a locked set all three lead to the same slot, and go on
to do so while stored columns are loaded after the packet was made, because such a set only grows at its
end (`Packet.Takes`, `step_takes`). So the sample that is written from a packet shows of every column the
value that was last put there (`lastWritten?`), and nothing of a column that came later (`run_packet`).
-/

namespace Metering

open Metering.Time

/-! ### What is written to a slot -/

/-- What an operation puts into the slot of the column with the given name and position, if it changes
that slot of the packet. A slot that is cleared holds no value. -/
def Operation.puts? (packet : Nat) (operation : Operation) (name : String) (index : Nat) :
    Option (Option Value) :=
  match operation with
  | .setSlot packet' index' value => if packet' = packet ∧ index' = index then some value else none
  | .setNamed packet' name' value =>
    if packet' = packet ∧ Text.fold name' = Text.fold name then some (some value) else none
  | .fill packet' values => if packet' = packet then values[index]? else none
  | _ => none

/-- What an operation that was carried out did put there; one that was refused changes no slot. -/
def Entry.writes? (packet : Nat) (e : Entry) (name : String) (index : Nat) : Option (Option Value) :=
  match e.answer with
  | .done (.ok ()) => e.operation.puts? packet name index
  | _ => none

/-- What was last put into the slot of a column, if anything ever was. -/
def lastWritten? (packet : Nat) (past : List Entry) (name : String) (index : Nat) :
    Option (Option Value) :=
  (past.filterMap fun e => e.writes? packet name index).getLast?

theorem lastWritten?_concat (packet : Nat) (past : List Entry) (e : Entry) (name : String)
    (index : Nat) : lastWritten? packet (past ++ [e]) name index =
      (e.writes? packet name index).or (lastWritten? packet past name index) := by
  rw [lastWritten?, List.filterMap_append, List.getLast?_append]
  cases written : e.writes? packet name index with
  | none => simp [written, lastWritten?]
  | some value => simp [written]

/-! ### Columns by name and by position -/

namespace ColumnSet

variable {s later : ColumnSet} {name : String} {serial index index' : Nat} {column column' : Column}

theorem get_eq_ok_iff : s.get name = .ok (serial, column) ↔
    s.byName[Text.fold name]? = some serial ∧ s.columns[serial]? = some column := by
  unfold get serialOf?
  cases s.byName[Text.fold name]? with
  | none => simp
  | some there =>
      simp only [Option.some.injEq]
      cases held : s.columns[there]? with
      | none =>
          simp only [reduceCtorEq, false_iff, not_and]
          rintro rfl
          simp [held]
      | some column' =>
          simp only [Except.ok.injEq, Prod.mk.injEq]
          constructor
          · rintro ⟨rfl, rfl⟩
            exact ⟨rfl, held⟩
          · rintro ⟨rfl, same⟩
            exact ⟨rfl, Option.some.inj (held.symm.trans same)⟩

/-- A listed column is found under its own name. -/
theorem Consistent.serialOf?_name (consistent : s.Consistent) (listed : s.order[index]? = some serial)
    (held : s.columns[serial]? = some column) :
    s.byName[Text.fold column.name]? = some serial := by
  refine consistent.named.mpr ⟨List.mem_of_getElem? listed, ?_⟩
  rw [foldedName?, held, Option.map_some]

/-- What stands at a position of a locked set knows its position. -/
theorem Consistent.exists_of_getIndex (consistent : s.Consistent) (locked : s.locked = true)
    (found : s.getIndex index = .ok column) :
    ∃ serial, s.order[index]? = some serial ∧ s.columns[serial]? = some column ∧
      column.index = some index := by
  obtain ⟨serial, listed, held⟩ := (consistent.getIndex_eq_ok_iff locked).mp found
  obtain ⟨column', held', position⟩ := consistent.exists_at locked listed
  obtain rfl := Option.some.inj (held.symm.trans held')
  exact ⟨serial, listed, held, position⟩

/-- The names of a locked set lead to the columns at its positions. -/
theorem Consistent.exists_get_iff (consistent : s.Consistent) (locked : s.locked = true) :
    (∃ serial, s.get name = .ok (serial, column)) ↔
      ∃ index, s.getIndex index = .ok column ∧ Text.fold column.name = Text.fold name := by
  constructor
  · rintro ⟨serial, found⟩
    obtain ⟨named, held⟩ := get_eq_ok_iff.mp found
    obtain ⟨member, folded⟩ := consistent.named.mp named
    obtain ⟨index, listed⟩ := List.mem_iff_getElem?.mp member
    rw [foldedName?, held, Option.map_some, Option.some.injEq] at folded
    exact ⟨index, (consistent.getIndex_eq_ok_iff locked).mpr ⟨serial, listed, held⟩, folded⟩
  · rintro ⟨index, found, same⟩
    obtain ⟨serial, listed, held, -⟩ := consistent.exists_of_getIndex locked found
    exact ⟨serial, get_eq_ok_iff.mpr ⟨same ▸ consistent.serialOf?_name listed held, held⟩⟩

/-- The columns at different positions have different names. -/
theorem Consistent.fold_name_eq_iff (consistent : s.Consistent) (locked : s.locked = true)
    (found : s.getIndex index = .ok column) (found' : s.getIndex index' = .ok column') :
    Text.fold column.name = Text.fold column'.name ↔ index = index' := by
  obtain ⟨serial, listed, held, -⟩ := consistent.exists_of_getIndex locked found
  obtain ⟨serial', listed', held', -⟩ := consistent.exists_of_getIndex locked found'
  constructor
  · intro same
    have named := consistent.serialOf?_name listed held
    rw [same, consistent.serialOf?_name listed' held'] at named
    obtain rfl := Option.some.inj named
    exact (List.getElem?_inj (List.getElem?_eq_some_iff.mp listed).1 consistent.nodup).mp
      (listed.trans listed'.symm)
  · rintro rfl
    obtain rfl : column = column' := Except.ok.inj (found.symm.trans found')
    rfl

/-- The columns of a locked set keep their positions while it grows. -/
theorem Extends.getIndex {further : List Nat} (grown : s.Extends later further)
    (consistent : s.Consistent) (consistent' : later.Consistent) (locked : s.locked = true)
    (found : s.getIndex index = .ok column) : later.getIndex index = .ok column := by
  obtain ⟨serial, there, held⟩ := (consistent.getIndex_eq_ok_iff locked).mp found
  refine (consistent'.getIndex_eq_ok_iff (grown.locked.trans locked)).mpr
    ⟨serial, ?_, grown.columns held⟩
  rw [grown.order, List.getElem?_append_left (List.getElem?_eq_some_iff.mp there).1]
  exact there

end ColumnSet

/-! ### Packets -/

namespace Packet

variable {p p' p'' : Packet} {columns : ColumnSet} {further : List Nat}
  {writes? writes'? : String → Nat → Option (Option Value)}

/-- The packet is the same but for its slots, which hold what was written to them, or else what they
held before. They are those of the columns of a set, or of one that it grows to. -/
structure Takes (columns : ColumnSet) (writes? : String → Nat → Option (Option Value))
    (p p' : Packet) : Prop where
  definition : p'.definition = p.definition
  owner : p'.owner = p.owner
  size : p'.size = p.size
  slots : ∀ {later : ColumnSet} {further : List Nat} {index : Nat} {column : Column},
    columns.Extends later further → later.Consistent → later.getIndex index = .ok column →
    p'.get? index = (writes? column.name index).getD (p.get? index)

theorem Takes.of_quiet (quiet : ∀ name index, writes? name index = none) (columns : ColumnSet)
    (p : Packet) : Takes columns writes? p p := by
  refine ⟨rfl, rfl, rfl, fun {later further index column} _ _ _ => ?_⟩
  rw [quiet, Option.getD_none]

theorem Takes.refl (columns : ColumnSet) (p : Packet) : Takes columns (fun _ _ => none) p p :=
  .of_quiet (fun _ _ => rfl) columns p

theorem Takes.trans (first : Takes columns writes? p p') (second : Takes columns writes'? p' p'') :
    Takes columns (fun name index => (writes'? name index).or (writes? name index)) p p'' := by
  refine ⟨second.definition.trans first.definition, second.owner.trans first.owner,
    second.size.trans first.size, fun {later further index column} grown consistent found => ?_⟩
  rw [second.slots grown consistent found, first.slots grown consistent found]
  cases writes'? column.name index with
  | none => rfl
  | some value => rfl

/-- What holds for all sets that columns can grow to holds when they have grown. -/
theorem Takes.mono {columns' : ColumnSet} (taken : Takes columns writes? p p')
    (grown : columns.Extends columns' further) : Takes columns' writes? p p' :=
  ⟨taken.definition, taken.owner, taken.size, fun there => taken.slots (grown.trans there)⟩

theorem get?_ofColumns (s : ColumnSet) (index : Nat) : (ofColumns s).get? index = none := by
  rw [get?, ofColumns, List.getElem?_replicate]
  split
  · rfl
  · rfl

theorem size_ofColumns (s : ColumnSet) : (ofColumns s).size = s.size :=
  List.length_replicate

theorem get?_of_size_le {index : Nat} (beyond : p.size ≤ index) : p.get? index = none := by
  rw [get?, List.getElem?_eq_none beyond]
  rfl

theorem takes_set {index : Nat} {value : Option Value} (done : p.set index value = .ok p')
    (columns : ColumnSet) :
    Takes columns (fun _ index' => if index = index' then some value else none) p p' := by
  unfold set at done
  split at done
  · rename_i within
    obtain rfl := Except.ok.inj done
    refine ⟨rfl, rfl, List.length_set, fun {later further index' column} _ _ _ => ?_⟩
    rw [get?, get?, List.getElem?_set]
    by_cases here : index = index'
    · rw [if_pos here, if_pos within, if_pos here]
      rfl
    · rw [if_neg here, if_neg here]
      rfl
  · cases done

theorem takes_fill {values : List (Option Value)} (done : p.fill values = .ok p')
    (columns : ColumnSet) : Takes columns (fun _ index => values[index]?) p p' := by
  unfold fill at done
  split at done
  · rename_i fits
    obtain rfl := Except.ok.inj done
    refine ⟨rfl, rfl, ?_, fun {later further index column} _ _ _ => ?_⟩
    · rw [size, size, List.length_append, List.length_drop]
      omega
    · rw [get?, get?, List.getElem?_append]
      split
      · rename_i within
        rw [List.getElem?_eq_getElem within]
        rfl
      · rename_i beyond
        rw [List.getElem?_eq_none (Nat.le_of_not_lt beyond), List.getElem?_drop,
          Nat.add_sub_cancel' (Nat.le_of_not_lt beyond)]
        rfl
  · cases done

/-- What a name leads to: the slot at the position of its column, if the packet has one there. -/
theorem setNamed_of_getIndex {name : String} {index : Nat} {column : Column}
    (consistent : columns.Consistent) (locked : columns.locked = true)
    (found : columns.getIndex index = .ok column) (named : Text.fold column.name = Text.fold name)
    (value : Value) : p.setNamed columns name value = p.set index (some value) := by
  obtain ⟨-, -, -, position⟩ := consistent.exists_of_getIndex locked found
  obtain ⟨serial, found'⟩ := (consistent.exists_get_iff locked).mpr ⟨index, found, named⟩
  simp only [setNamed, found', position]

/-- A value that is put under a name is put into the slot of a column with that name. -/
theorem setNamed_eq_ok {name : String} {value : Value} (consistent : columns.Consistent)
    (locked : columns.locked = true) (done : p.setNamed columns name value = .ok p') :
    ∃ index column, columns.getIndex index = .ok column ∧
      Text.fold column.name = Text.fold name ∧ p.set index (some value) = .ok p' := by
  cases looked : columns.get name with
  | error e =>
      rw [setNamed, looked] at done
      cases done
  | ok result =>
      obtain ⟨index, found, named⟩ := (consistent.exists_get_iff locked).mp ⟨result.1, looked⟩
      rw [setNamed_of_getIndex consistent locked found named] at done
      exact ⟨index, result.2, found, named, done⟩

/-- A name leads to the slot of its column, however the set grows afterwards. -/
theorem takes_setNamed {name : String} {value : Value} (consistent : columns.Consistent)
    (locked : columns.locked = true) (done : p.setNamed columns name value = .ok p') :
    Takes columns
      (fun name' _ => if Text.fold name = Text.fold name' then some (some value) else none)
      p p' := by
  obtain ⟨index, column, there, named, done⟩ := setNamed_eq_ok consistent locked done
  have taken := takes_set done columns
  refine ⟨taken.definition, taken.owner, taken.size,
    fun {later further index' column'} grown consistent' found' => ?_⟩
  -- The column stays where it is, and no column that comes later has its name.
  have same := consistent'.fold_name_eq_iff (grown.locked.trans locked)
    (grown.getIndex consistent consistent' locked there) found'
  rw [taken.slots grown consistent' found', ← named]
  simp only [same]

theorem exists_set_iff {index : Nat} {value : Option Value} :
    (∃ p', p.set index value = .ok p') ↔ index < p.size := by
  unfold set
  by_cases within : index < p.slots.length
  · rw [if_pos within]
    exact iff_of_true ⟨_, rfl⟩ within
  · rw [if_neg within]
    exact iff_of_false nofun within

theorem exists_fill_iff {values : List (Option Value)} :
    (∃ p', p.fill values = .ok p') ↔ values.length ≤ p.size := by
  unfold fill
  by_cases fits : values.length ≤ p.slots.length
  · rw [if_pos fits]
    exact iff_of_true ⟨_, rfl⟩ fits
  · rw [if_neg fits]
    exact iff_of_false nofun fits

/-- The names that can be filled are those of the columns with a slot. -/
theorem exists_setNamed_iff {name : String} {value : Value} (consistent : columns.Consistent)
    (locked : columns.locked = true) : (∃ p', p.setNamed columns name value = .ok p') ↔
      ∃ index column, columns.getIndex index = .ok column ∧
        Text.fold column.name = Text.fold name ∧ index < p.size := by
  constructor
  · rintro ⟨p', done⟩
    obtain ⟨index, column, found, named, done⟩ := setNamed_eq_ok consistent locked done
    exact ⟨index, column, found, named, exists_set_iff.mp ⟨p', done⟩⟩
  · rintro ⟨index, column, found, named, within⟩
    rw [setNamed_of_getIndex consistent locked found named]
    exact exists_set_iff.mpr within

/-- A column that came after the packet has no slot in it. -/
theorem set_of_size_le {index : Nat} (beyond : p.size ≤ index) (value : Option Value) :
    p.set index value = .error (.unknownColumn p.owner (toString index)) :=
  if_neg (Nat.not_lt.mpr beyond)

end Packet

/-! ### Packets in a session -/

namespace Session

variable {s : Session} {past : List Entry} {operation : Operation} {k : Nat} {p p' : Packet}
  {made columns : ColumnSet} {d : Definition} {i : Instance} {r : InstanceRef} {timestamp : Timestamp}

/-- The packet with the given number was made for the columns of `made`, of which the present ones
are a continuation, and holds what the operations in `past` put into its slots. -/
structure Filled (s : Session) (past : List Entry) (k : Nat) (made : ColumnSet) (p : Packet)
    (columns : ColumnSet) : Prop where
  held : s.packet? k = some p
  present : ∃ d, s.telemetry.definition? made.definition = some d ∧ d.columns? = some columns
  grown : ∃ further, made.Extends columns further
  taken : Packet.Takes columns (lastWritten? k past) (.ofColumns made) p

theorem packet?_set {packets : List (Option Packet)} {t : Telemetry} {packet : Nat}
    {new : Option Packet} (other : packet ≠ k) :
    Session.packet? ⟨t, packets.set packet new⟩ k = Session.packet? ⟨t, packets⟩ k := by
  rw [packet?, packet?, List.getElem?_set, if_neg other]

/-- An edit of a packet, be it this one or another one. -/
theorem edit_takes {packet : Nat} {edited : Option (Except Error Packet)}
    (held : s.packet? k = some p)
    (other : packet ≠ k → ∀ name index, operation.puts? k name index = none)
    (own : ∀ {p'}, packet = k → edited = some (.ok p') →
      Packet.Takes columns (operation.puts? k) p p') :
    ∃ p', (s.edit packet edited).2.packet? k = some p' ∧
      Packet.Takes columns (Entry.writes? k ⟨operation, (s.edit packet edited).1⟩) p p' := by
  rcases edited with _ | e | p'
  · exact ⟨p, held, .refl columns p⟩
  · exact ⟨p, held, .refl columns p⟩
  · by_cases here : packet = k
    · refine ⟨p', ?_, own here rfl⟩
      subst here
      obtain ⟨within, -⟩ := List.getElem?_eq_some_iff.mp (Option.join_eq_some_iff.mp held)
      simp only [edit, packet?, List.getElem?_set, if_pos within, if_true, Option.join_some]
    · exact ⟨p, (packet?_set here).trans held, Packet.Takes.of_quiet (other here) columns p⟩

/-- Every operation but an attempt to write it leaves a packet with what the operation puts into
it. -/
theorem step_takes (held : s.packet? k = some p)
    (found : s.telemetry.definition? p.definition = some d) (event : d.columns? = some columns)
    (consistent : columns.Consistent) (locked : columns.locked = true)
    (kept : ∀ r timestamp, operation ≠ .writePacket r k timestamp) :
    ∃ p', (s.step operation).2.packet? k = some p' ∧
      Packet.Takes columns (Entry.writes? k ⟨operation, (s.step operation).1⟩) p p' := by
  cases operation with
  | setSlot packet index value =>
      refine edit_takes held (fun other _ _ => if_neg fun same => other same.1) ?_
      rintro p' rfl edited
      rw [held, Option.map_some, Option.some.injEq] at edited
      have puts : (Operation.setSlot packet index value).puts? packet =
          fun _ index' => if index = index' then some value else none := by
        simp [funext_iff, Operation.puts?]
      rw [puts]
      exact Packet.takes_set edited columns
  | setNamed packet name value =>
      refine edit_takes held (fun other _ _ => if_neg fun same => other same.1) ?_
      rintro p' rfl edited
      rw [held, Option.bind_some, Telemetry.setNamed?, found, Option.bind_eq_bind, Option.bind_some,
        event, Option.bind_eq_bind, Option.bind_some, Option.some.injEq] at edited
      have puts : (Operation.setNamed packet name value).puts? packet =
          fun name' _ => if Text.fold name = Text.fold name' then some (some value) else none := by
        simp [funext_iff, Operation.puts?]
      rw [puts]
      exact Packet.takes_setNamed consistent locked edited
  | fill packet values =>
      refine edit_takes held (fun other _ _ => if_neg other) ?_
      rintro p' rfl edited
      rw [held, Option.map_some, Option.some.injEq] at edited
      have puts : (Operation.fill packet values).puts? packet = fun _ index => values[index]? := by
        simp [funext_iff, Operation.puts?]
      rw [puts]
      exact Packet.takes_fill edited columns
  | createPacket r =>
      simp only [step]
      rcases s.telemetry.createPacket? r with _ | ⟨_ | new, t'⟩
      · exact ⟨p, held, .refl columns p⟩
      · exact ⟨p, held, .refl columns p⟩
      · refine ⟨p, ?_, .refl columns p⟩
        obtain ⟨within, -⟩ := List.getElem?_eq_some_iff.mp (Option.join_eq_some_iff.mp held)
        rw [keep, packet?, List.getElem?_append_left within]
        exact held
  | writePacket r packet timestamp =>
      simp only [step]
      split
      · exact ⟨p, held, .refl columns p⟩
      · refine ⟨p, ?_, .refl columns p⟩
        have other : packet ≠ k := fun same => kept r timestamp (by rw [same])
        rw [packet?_reply]
        exact (packet?_set other).trans held
  | takeSequence | observe => exact ⟨p, held, .of_quiet (fun _ _ => rfl) columns p⟩
  | define | addColumn | rehydrateColumn | removeColumn | setDefaultColumn | lockColumns | lock
  | openInstance | writeSample | writeReading | rehydrate | query =>
      simp only [step]
      refine ⟨p, packet?_reply.trans held, .of_quiet (fun _ _ => ?_) columns p⟩
      unfold Entry.writes?
      split
      · rfl
      · rfl

/-- One operation: the columns may have grown, and the packet holds what was put into it. -/
theorem step_filled (sound : s.telemetry.Sound) (locked : made.locked = true)
    (filled : s.Filled past k made p columns)
    (kept : ∀ r timestamp, operation ≠ .writePacket r k timestamp) :
    ∃ p' columns',
      (s.step operation).2.Filled (past ++ [⟨operation, (s.step operation).1⟩]) k made p' columns' := by
  obtain ⟨held, ⟨d, found, event⟩, ⟨further, grown⟩, taken⟩ := filled
  have locked' : columns.locked = true := grown.locked.trans locked
  have consistent := sound.columns found event
  obtain ⟨d', found', revised⟩ := (step_revises sound.filed operation).kept found
  obtain ⟨columns', event', change⟩ := revised.columns? event
  have there := change.extends consistent locked'
  obtain ⟨p', held', taken'⟩ :=
    step_takes held (taken.definition ▸ found) event consistent locked' kept
  refine ⟨p', columns', held', ⟨d', found', event'⟩, ⟨_, grown.trans there⟩, ?_⟩
  have whole := (taken.trans taken').mono there
  simp only [← lastWritten?_concat] at whole
  exact whole

theorem run_filled (sound : s.telemetry.Sound) (locked : made.locked = true)
    (filled : s.Filled past k made p columns) (operations : List Operation)
    (kept : ∀ r timestamp, .writePacket r k timestamp ∉ operations) :
    ∃ p' columns', (s.run operations).Filled (past ++ s.record operations) k made p' columns' := by
  induction operations generalizing s past p columns with
  | nil =>
      rw [record, List.append_nil]
      exact ⟨p, columns, filled⟩
  | cons operation rest ih =>
      have kept_first : ∀ r timestamp, operation ≠ .writePacket r k timestamp := by
        rintro r timestamp rfl
        exact kept r timestamp List.mem_cons_self
      have kept_rest : ∀ r timestamp, .writePacket r k timestamp ∉ rest := fun r timestamp member =>
        kept r timestamp (List.mem_cons_of_mem _ member)
      obtain ⟨p', columns', filled'⟩ := step_filled sound locked filled kept_first
      have whole := ih (step_sound sound operation) filled' kept_rest
      rw [List.append_assoc] at whole
      exact whole

/-- An instance of an event makes a packet, for the columns as they are when they are locked. -/
theorem step_createPacket (holds : s.Sealed) (consistent : columns.Consistent)
    (found : s.telemetry.instance? r = some (d, i)) (event : d.columns? = some columns) :
    (s.step (.createPacket r)).1 = .packet (.ok s.packets.length) ∧
      (s.step (.createPacket r)).2.Filled [] s.packets.length columns.lock
        (.ofColumns columns.lock) columns.lock := by
  obtain ⟨defined, -⟩ := Telemetry.instance?_eq_some_iff.mp found
  have same : d.id = r.definition := (holds.filed _ _ defined).1
  have own : columns.definition = r.definition := holds.owned defined event
  have closed : (if columns.locked then columns else columns.lock) = columns.lock := by
    cases locked : columns.locked with
    | true => exact (consistent.lock_eq_self locked).symm
    | false => rfl
  have made : s.telemetry.createPacket? r = some (.ok (.ofColumns columns.lock),
      s.telemetry.withDefinition (d.withColumns columns.lock)) := by
    simp only [Telemetry.createPacket?, found, Option.bind_some, Telemetry.onDefinition?, defined,
      Option.map_some, Definition.createPacket, event, closed]
  simp only [step, made, keep]
  refine ⟨trivial, ?held, ⟨d.withColumns columns.lock, ?_, ?_⟩, ⟨[], .refl _⟩, .refl _ _⟩
  case held => rw [packet?, List.getElem?_concat_length, Option.join_some]
  · have filed_as : (d.withColumns columns.lock).id = d.id := (Definition.same_withColumns d _).id
    have owner : columns.lock.definition = r.definition := own
    rw [Telemetry.definition?_withDefinition, filed_as, same, owner, if_pos rfl]
  · exact Definition.columns?_withColumns event columns.lock

theorem step_writePacket_ok (found : s.telemetry.instance? r = some (d, i))
    (held : s.packet? k = some p) (accepted : d.checkPacket p = .ok ()) :
    (s.step (.writePacket r k timestamp)).1 =
      .sample (.ok ⟨s.telemetry.lastSequence + 1, timestamp, .event p.slots⟩) := by
  simp only [step, held, Option.bind_some, Telemetry.writePacket?, Telemetry.store?, found,
    Option.map_some, Definition.writePacket, accepted, Except.map, Definition.append, reply]

namespace Filled

theorem size_eq (filled : s.Filled past k made p columns) : p.size = made.size :=
  filled.taken.size.trans (Packet.size_ofColumns made)

/-- What the slot of a column holds, also of one that came later. -/
theorem get?_eq (filled : s.Filled past k made p columns) {later : ColumnSet} {further : List Nat}
    {index : Nat} {column : Column} (grown : columns.Extends later further)
    (consistent : later.Consistent) (found : later.getIndex index = .ok column) :
    p.get? index = (lastWritten? k past column.name index).join := by
  rw [filled.taken.slots grown consistent found, Packet.get?_ofColumns]
  cases lastWritten? k past column.name index with
  | none => rfl
  | some value => rfl

theorem step_setNamed (filled : s.Filled past k made p columns) (name : String) (value : Value) :
    s.step (.setNamed k name value) = s.edit k (some (p.setNamed columns name value)) := by
  obtain ⟨d, found, event⟩ := filled.present
  have present : s.telemetry.definition? p.definition = some d := filled.taken.definition ▸ found
  simp only [step, filled.held, Option.bind_some, Telemetry.setNamed?, present, Option.bind_eq_bind,
    event]

end Filled

/-- What becomes of a packet that was made for an instance when the columns were those of `made`, and
into which the operations in `past` put values. -/
structure RoundTrips (s : Session) (past : List Entry) (r : InstanceRef) (k : Nat)
    (made : ColumnSet) : Prop where
  instance_stays : (s.telemetry.instance? r).isSome
  /-- The packet can be written to every instance of the definition. Whatever is done afterwards, the
  sample shows of each column what was last put into its slot, and of one that came after the packet
  nothing. -/
  sample : ∀ {r' : InstanceRef}, r'.definition = r.definition → (s.telemetry.instance? r').isSome →
    ∀ timestamp, ∃ sample slots,
      (s.step (.writePacket r' k timestamp)).1 = .sample (.ok sample) ∧
      sample.payload = .event slots ∧ slots.length = made.size ∧
      ∀ later : List Operation, ∃ d columns further,
        ((s.step (.writePacket r' k timestamp)).2.run later).telemetry.definition? r.definition =
          some d ∧
        d.columns? = some columns ∧ made.Extends columns further ∧
        ∀ {index : Nat} {column : Column}, columns.getIndex index = .ok column →
          column.index = some index ∧
          sample.value? index = (lastWritten? k past column.name index).join ∧
          (made.size ≤ index → sample.value? index = none)
  /-- The slots can be set, those of the columns of `made` and no others. -/
  set : ∀ index value,
    (s.step (.setSlot k index value)).1 = .done (.ok ()) ↔ index < made.size
  fill : ∀ values, (s.step (.fill k values)).1 = .done (.ok ()) ↔ values.length ≤ made.size
  named : ∀ {d : Definition} {columns : ColumnSet},
    s.telemetry.definition? r.definition = some d → d.columns? = some columns → ∀ name value,
      (s.step (.setNamed k name value)).1 = .done (.ok ()) ↔
        ∃ index column, columns.getIndex index = .ok column ∧
          Text.fold column.name = Text.fold name ∧ index < made.size
  /-- A column that came after the packet cannot be set in it. -/
  late : ∀ {d : Definition} {columns : ColumnSet} {index : Nat} {column : Column} {name : String},
    s.telemetry.definition? r.definition = some d → d.columns? = some columns →
    columns.getIndex index = .ok column → made.size ≤ index →
    Text.fold column.name = Text.fold name → ∀ value, s.step (.setNamed k name value) =
      (.done (.error (.unknownColumn made.owner (toString index))), s)

theorem edit_eq_ok_iff {result : Except Error Packet} :
    (s.edit k (some result)).1 = .done (.ok ()) ↔ ∃ p, result = .ok p := by
  cases result with
  | error e => exact iff_of_false nofun nofun
  | ok p => exact iff_of_true rfl ⟨p, rfl⟩

/-- A packet that holds what was put into it round-trips. -/
theorem Filled.roundTrips (filled : s.Filled past k made p columns) (holds : s.Sealed)
    (sound : s.telemetry.Sound) (locked : made.locked = true) (own : made.definition = r.definition)
    (stays : (s.telemetry.instance? r).isSome) : s.RoundTrips past r k made := by
  obtain ⟨d, found, event⟩ := filled.present
  obtain ⟨further, grown⟩ := filled.grown
  have locked' : columns.locked = true := grown.locked.trans locked
  have consistent := sound.columns found event
  rw [own] at found
  have same : ∀ {d' columns'}, s.telemetry.definition? r.definition = some d' →
      d'.columns? = some columns' → columns' = columns := by
    intro d' columns' found' event'
    obtain rfl : d = d' := Option.some.inj (found.symm.trans found')
    exact Option.some.inj (event'.symm.trans event)
  refine ⟨stays, ?sample, ?set, ?fill, ?named, ?late⟩
  case sample =>
    intro r' within there timestamp
    obtain ⟨⟨d', i⟩, found_instance⟩ := Option.isSome_iff_exists.mp there
    obtain ⟨defined, -⟩ := Telemetry.instance?_eq_some_iff.mp found_instance
    rw [within] at defined
    obtain rfl : d = d' := Option.some.inj (found.symm.trans defined)
    have accepted : d.checkPacket p = .ok () := by
      have issued : p.definition = d.id := by
        rw [filled.taken.definition, (holds.filed _ _ found).1, ← own]
        rfl
      simp only [Definition.checkPacket, event, issued, if_true]
    refine ⟨_, p.slots, step_writePacket_ok found_instance filled.held accepted, rfl,
      filled.size_eq, fun later => ?_⟩
    let operations : List Operation := .writePacket r' k timestamp :: later
    obtain ⟨d', columns', found', event', grown'⟩ := run_extends sound found event locked' operations
    have consistent' := (run_sound sound operations).columns found' event'
    refine ⟨d', columns', _, found', event', grown.trans grown', fun {index column} listed => ?_⟩
    obtain ⟨-, -, -, position⟩ :=
      consistent'.exists_of_getIndex (grown'.locked.trans locked') listed
    refine ⟨position, filled.get?_eq grown' consistent' listed, fun beyond => ?_⟩
    exact Packet.get?_of_size_le (filled.size_eq ▸ beyond)
  case set =>
    intro index value
    rw [step, filled.held, Option.map_some, edit_eq_ok_iff, Packet.exists_set_iff, filled.size_eq]
  case fill =>
    intro values
    rw [step, filled.held, Option.map_some, edit_eq_ok_iff, Packet.exists_fill_iff, filled.size_eq]
  case named =>
    intro d' columns' found' event' name value
    obtain rfl := same found' event'
    rw [filled.step_setNamed, edit_eq_ok_iff, Packet.exists_setNamed_iff consistent locked',
      filled.size_eq]
  case late =>
    intro d' columns' index column name found' event' listed beyond named value
    obtain rfl := same found' event'
    have owner : p.owner = made.owner := filled.taken.owner
    rw [filled.step_setNamed, Packet.setNamed_of_getIndex consistent locked' listed named,
      Packet.set_of_size_le (filled.size_eq ▸ beyond), owner, edit]

variable {settings : Settings} {lastSequence : Nat}

/-- **Packets over a run.** Every instance of an event makes packets with a slot for each column, and
whatever is done until such a packet is written, it round-trips. -/
theorem run_packet (created : create settings lastSequence = .ok s) (before : List Operation)
    (found : (s.run before).telemetry.instance? r = some (d, i))
    (event : d.columns? = some columns) :
    let k := (s.run before).packets.length
    let made := (s.run before).step (.createPacket r)
    made.1 = .packet (.ok k) ∧
      ∀ operations : List Operation, (∀ r' timestamp, .writePacket r' k timestamp ∉ operations) →
        (made.2.run operations).RoundTrips (made.2.record operations) r k columns.lock := by
  intro k made
  obtain ⟨holds, uniform⟩ := run_uniform (sealed_create created) (uniform_create created) before
  have sound := run_sound (sound_create created) before
  obtain ⟨defined, -⟩ := Telemetry.instance?_eq_some_iff.mp found
  obtain ⟨answer, filled⟩ :=
    step_createPacket holds (sound.columns defined event) found event
  refine ⟨answer, fun operations kept => ?_⟩
  have sound' := step_sound sound (.createPacket r)
  obtain ⟨p, columns', filled'⟩ := run_filled sound' rfl filled operations kept
  obtain ⟨d', i', found', -, -⟩ := run_keeps_instance holds uniform found
    (.createPacket r :: operations)
  have whole := run_uniform holds uniform (.createPacket r :: operations)
  have own : columns.definition = r.definition := holds.owned defined event
  exact filled'.roundTrips whole.1 (run_sound sound' operations) rfl own
    (Option.isSome_iff_exists.mpr ⟨_, found'⟩)

/-- An event with two columns and an instance. -/
def twoColumns : List Operation :=
  [.define .event ⟨"web", "http", "requests"⟩, .addColumn 0 "Status" .int {},
   .addColumn 0 "Latency" .int {}, .openInstance 0 none]

/-- A packet is filled in all three ways, cleared and filled again, while a column arrives for which it
has no slot. -/
def overtakenPacket : List Operation :=
  [.setNamed 0 "STATUS" (.int 200), .setSlot 0 1 (some (.int 12)),
   .fill 0 [none, none, some (.int 9)], .rehydrateColumn 0 "Late" .int {},
   .setNamed 0 "late" (.int 9), .fill 0 [some (.int 404)], .setSlot 0 1 none,
   .setNamed 0 "latency" (.int 15), .setSlot 0 2 (some (.int 9))]

/-- The sample shows the code and the time that came last, and nothing of the column that arrived. -/
theorem run_packet_overtakenPacket :
    let s : Session := ⟨{}, []⟩
    let t := ((s.run twoColumns).step (.createPacket ⟨0, 0⟩)).2
    let u := t.run overtakenPacket
    create {} 0 = .ok s ∧ (∀ r timestamp, .writePacket r 0 timestamp ∉ overtakenPacket) ∧
    ∃ columns sample slots, u.RoundTrips (t.record overtakenPacket) ⟨0, 0⟩ 0 columns ∧
      (u.step (.writePacket ⟨0, 0⟩ 0 .earliest)).1 = .sample (.ok sample) ∧
      sample.payload = .event slots ∧ slots.length = 2 ∧
      sample.value? 0 = some (.int 404) ∧ sample.value? 1 = some (.int 15) ∧
      sample.value? 2 = none ∧
      u.step (.setNamed 0 "LATE" (.int 9)) =
        (.done (.error (.unknownColumn "web~http~requests" "2")), u) := by
  intro s t u
  have created : create {} 0 = .ok s := rfl
  have kept : ∀ r timestamp, .writePacket r 0 timestamp ∉ overtakenPacket := by
    intro r timestamp
    simp [overtakenPacket]
  have seen : ((s.run twoColumns).telemetry.instance? ⟨0, 0⟩).bind (fun found =>
      found.1.columns?.map fun columns => (columns.size, columns.owner)) =
        some (2, "web~http~requests") := by decide +kernel
  obtain ⟨⟨d, i⟩, found, views⟩ := Option.bind_eq_some_iff.mp seen
  obtain ⟨columns, event, views⟩ := Option.map_eq_some_iff.mp views
  obtain ⟨size, owner⟩ := Prod.mk.inj views
  have number : (s.run twoColumns).packets.length = 0 := by decide +kernel
  have trips := (run_packet created twoColumns found event).2 overtakenPacket (number ▸ kept)
  rw [number] at trips
  obtain ⟨sample, slots, written, payload, sized, shows⟩ :=
    trips.sample rfl trips.instance_stays .earliest
  have listed : ∀ {v : Session} {d columns} (index name), v.telemetry.definition? 0 = some d →
      d.columns? = some columns →
      ((v.telemetry.definition? 0).bind fun d => d.columns?.bind fun columns =>
        (columns.getIndex index).toOption.map (·.name)) = some name →
      ∃ column, columns.getIndex index = .ok column ∧ column.name = name := by
    intro v d columns index name found event seen
    rw [found, Option.bind_some, event, Option.bind_some] at seen
    cases there : columns.getIndex index with
    | error e => simp [there, Except.toOption] at seen
    | ok column => exact ⟨column, rfl, by simpa [there, Except.toOption] using seen⟩
  obtain ⟨d', columns', -, found', event', -, values⟩ := shows []
  have value_at : ∀ index name value,
      (∃ column, columns'.getIndex index = .ok column ∧ column.name = name) →
      (lastWritten? 0 (t.record overtakenPacket) name index).join = value →
      sample.value? index = value := by
    rintro index name value ⟨column, there, rfl⟩ last
    exact (values there).2.1.trans last
  have status := value_at 0 "Status" (some (.int 404))
    (listed 0 "Status" found' event' (by decide +kernel)) (by decide +kernel)
  have latency := value_at 1 "Latency" (some (.int 15))
    (listed 1 "Latency" found' event' (by decide +kernel)) (by decide +kernel)
  have late := value_at 2 "Late" none
    (listed 2 "Late" found' event' (by decide +kernel)) (by decide +kernel)
  have kept_out : u.step (.setNamed 0 "LATE" (.int 9)) =
      (.done (.error (.unknownColumn columns.owner "2")), u) := by
    have present : ((u.telemetry.definition? 0).bind (·.columns?)).isSome := by decide +kernel
    obtain ⟨columns'', held⟩ := Option.isSome_iff_exists.mp present
    obtain ⟨d'', found'', event''⟩ := Option.bind_eq_some_iff.mp held
    obtain ⟨column, there, named⟩ := listed 2 "Late" found'' event'' (by decide +kernel)
    have beyond : columns.size ≤ 2 := by rw [size]
    exact trips.late found'' event'' there beyond (by rw [named]; decide +kernel) _
  rw [owner] at kept_out
  exact ⟨created, kept, columns.lock, sample, slots, trips, written, payload, sized.trans size,
    status, latency, late, kept_out⟩

end Session

end Metering
