import Metering.Catalog
import Mathlib.Data.List.Basic
import Mathlib.Data.List.Find

/-!
Catalogs that are filled by requests.

A request is answered with the item that is filed under its key; if there is none, one is made and
filed under a new id. A catalog that is filled in no other way can be read off its requests
(`FilledBy`): the first request under a key made the item, and all later ones under that key found
it. Its three views then hold the same items (`Agrees`).
-/

namespace Metering

/-- What an item is known by for good: its id, the text it is filed under, and whatever else of it
never changes. -/
structure Label (γ : Type) where
  id : Nat
  key : String
  rest : γ

namespace Label

variable {γ : Type} {labels : List (Label γ)} {m : Label γ}

theorem of_find?_key {key : String} (found : labels.find? (·.key == key) = some m) :
    m ∈ labels ∧ m.key = key :=
  ⟨List.mem_of_find?_eq_some found, by simpa using List.find?_some found⟩

theorem of_find?_id {id : Nat} (found : labels.find? (·.id == id) = some m) :
    m ∈ labels ∧ m.id = id :=
  ⟨List.mem_of_find?_eq_some found, by simpa using List.find?_some found⟩

end Label

namespace Catalog

variable {α β γ : Type}

/-- The same ids are filed under the same keys and in the same order. The items they stand for have
the same label; in all else they may differ. -/
structure SameIds (label : α → β) (c c' : Catalog α) : Prop where
  order : c'.order = c.order
  index : c'.index = c.index
  items : ∀ id, (c'.get? id).map label = (c.get? id).map label

/-- The three views hold the same items, each under its own id and its own key. -/
structure Agrees (label : α → Label γ) (c : Catalog α) : Prop where
  order : c.toList.map (fun item => (label item).id) = c.order
  ids : c.order.Nodup
  keys : (c.toList.map fun item => (label item).key).Nodup
  byId : ∀ {id : Nat} {item : α},
    c.get? id = some item ↔ item ∈ c.toList ∧ (label item).id = id
  byKey : ∀ {key : String} {item : α},
    c.find? key = some item ↔ item ∈ c.toList ∧ (label item).key = key
  index : ∀ key, c.idOf? key = (c.find? key).map fun item => (label item).id

/-- The catalog is what the requests made of it. A request is the label of the item that it was
answered with, as the request itself has it. -/
structure FilledBy (label : α → Label γ) (requests : List (Label γ)) (c : Catalog α) : Prop where
  order : c.order = (requests.map (·.id)).eraseDups
  nodup : c.order.Nodup
  index : ∀ key, c.idOf? key = (requests.find? (·.key == key)).map (·.id)
  items : ∀ id, (c.get? id).map label = requests.find? (·.id == id)
  same : ∀ m ∈ requests, ∀ m' ∈ requests, m.id = m'.id ↔ m.key = m'.key

/-! ### Items that change their content -/

section SameIds

variable {label : α → β} {c c' c'' : Catalog α}

theorem SameIds.refl (c : Catalog α) : c.SameIds label c :=
  ⟨rfl, rfl, fun _ => rfl⟩

theorem SameIds.trans (first : c.SameIds label c') (second : c'.SameIds label c'') :
    c.SameIds label c'' :=
  ⟨second.order.trans first.order, second.index.trans first.index,
    fun id => (second.items id).trans (first.items id)⟩

theorem SameIds.filed (same : c.SameIds label c') (id : Nat) :
    (c'.get? id).isSome = (c.get? id).isSome := by
  rw [← Option.isSome_map (f := label), same.items, Option.isSome_map]

theorem SameIds.eq_none_iff (same : c.SameIds label c') (id : Nat) :
    c'.get? id = none ↔ c.get? id = none := by
  rw [← Option.map_eq_none_iff (f := label), same.items, Option.map_eq_none_iff]

theorem SameIds.label_eq (same : c.SameIds label c') {id : Nat} {item item' : α}
    (before : c.get? id = some item) (after : c'.get? id = some item') :
    label item' = label item := by
  have items := same.items id
  rw [before, after] at items
  exact Option.some.inj items

theorem sameIds_set {id : Nat} {item other : α} (found : c.get? id = some item)
    (same : label other = label item) : c.SameIds label (c.set id other) := by
  refine ⟨rfl, rfl, fun id' => ?_⟩
  rw [get?_set]
  by_cases here : id = id'
  · rw [if_pos here, ← here, found, Option.map_some, Option.map_some, same]
  · rw [if_neg here]

end SameIds

/-! ### Requests -/

namespace FilledBy

variable {label : α → Label γ} {requests : List (Label γ)} {m : Label γ} {c c' : Catalog α}

theorem empty : FilledBy label [] (∅ : Catalog α) := by
  refine ⟨rfl, .nil, fun key => ?_, fun id => ?_, fun m member => nomatch member⟩
  · change (∅ : Std.TreeMap String Nat)[key]? = none
    simp
  · rw [get?_empty]
    rfl

/-- What changes the content of items alone does not count. -/
theorem congr (filled : FilledBy label requests c) (same : c.SameIds label c') :
    FilledBy label requests c' := by
  refine ⟨same.order.trans filled.order, same.order ▸ filled.nodup, fun key => ?_, fun id => ?_,
    filled.same⟩
  · rw [idOf?, same.index]
    exact filled.index key
  · rw [same.items]
    exact filled.items id

/-- A request that finds its item. -/
theorem found (filled : FilledBy label requests c) (known : c.idOf? m.key = some m.id) :
    FilledBy label (requests ++ [m]) c := by
  obtain ⟨first, asked, same_id⟩ := Option.map_eq_some_iff.mp ((filled.index m.key).symm.trans known)
  obtain ⟨member, same_key⟩ := Label.of_find?_key asked
  have listed : m.id ∈ requests.map (·.id) := List.mem_map.mpr ⟨first, member, same_id⟩
  refine ⟨?_, filled.nodup, fun key => ?_, fun id => ?_, ?_⟩
  · have nothing : [m.id].removeAll (requests.map (·.id)) = [] := by
      simpa [List.removeAll] using List.mem_map.mp listed
    rw [filled.order, List.map_append, List.eraseDups_append, List.map_singleton, nothing]
    simp
  · rw [filled.index, List.find?_append]
    by_cases here : m.key = key
    · rw [← here, asked]
      rfl
    · simp [here]
  · rw [filled.items, List.find?_append]
    by_cases here : m.id = id
    · have kept : (requests.find? (·.id == id)).isSome := by
        rw [List.find?_isSome]
        exact ⟨first, member, beq_iff_eq.mpr (same_id.trans here)⟩
      rw [Option.or_of_isSome kept]
    · simp [here]
  · -- The new request has the id and the key of the one that made its item.
    have like : ∀ m' ∈ requests, (m'.id = m.id ↔ m'.key = m.key) := by
      intro m' member'
      rw [← same_id, ← same_key]
      exact filled.same m' member' first member
    intro m' member' m'' member''
    rw [List.mem_append, List.mem_singleton] at member' member''
    rcases member' with member' | rfl <;> rcases member'' with member'' | rfl
    · exact filled.same m' member' m'' member''
    · exact like m' member'
    · rw [eq_comm, like m'' member'', eq_comm]
    · simp

/-- A request that has its item made. -/
theorem insert (filled : FilledBy label requests c) {item : α} (made : label item = m)
    (missing : c.idOf? m.key = none) (unused : c.get? m.id = none) :
    FilledBy label (requests ++ [m]) (c.insert m.id m.key item) := by
  have no_key : ∀ m' ∈ requests, m'.key ≠ m.key := by
    have nothing := (filled.index m.key).symm.trans missing
    rw [Option.map_eq_none_iff, List.find?_eq_none] at nothing
    exact fun m' member same => nothing m' member (beq_iff_eq.mpr same)
  have no_id : ∀ m' ∈ requests, m'.id ≠ m.id := by
    have nothing := filled.items m.id
    rw [unused, Option.map_none, eq_comm, List.find?_eq_none] at nothing
    exact fun m' member same => nothing m' member (beq_iff_eq.mpr same)
  have unlisted : m.id ∉ requests.map (·.id) := by
    intro listed
    obtain ⟨m', member, same⟩ := List.mem_map.mp listed
    exact no_id m' member same
  refine ⟨?_, ?_, fun key => ?_, fun id => ?_, ?_⟩
  · have new : [m.id].removeAll (requests.map (·.id)) = [m.id] := by
      simpa [List.removeAll] using no_id
    rw [List.map_append, List.eraseDups_append, ← filled.order, List.map_singleton, new,
      List.eraseDups_cons]
    rfl
  · refine List.nodup_append.mpr ⟨filled.nodup, List.pairwise_singleton _ _, ?_⟩
    intro id listed new member same
    obtain rfl := List.mem_singleton.mp member
    rw [filled.order, List.mem_eraseDups, same] at listed
    exact unlisted listed
  · rw [idOf?_insert, List.find?_append]
    by_cases here : m.key = key
    · have nothing : requests.find? (·.key == key) = none := by
        rw [List.find?_eq_none]
        exact fun m' member same => no_key m' member ((eq_of_beq same).trans here.symm)
      simp [here, nothing]
    · rw [if_neg here, filled.index]
      simp [here]
  · rw [get?_insert, List.find?_append]
    by_cases here : m.id = id
    · have nothing : requests.find? (·.id == id) = none := by
        rw [List.find?_eq_none]
        exact fun m' member same => no_id m' member ((eq_of_beq same).trans here.symm)
      simp [here, nothing, made]
    · rw [if_neg here, filled.items]
      simp [here]
  · intro m' member' m'' member''
    rw [List.mem_append, List.mem_singleton] at member' member''
    rcases member' with member' | rfl <;> rcases member'' with member'' | rfl
    · exact filled.same m' member' m'' member''
    · simp [no_id m' member', no_key m' member']
    · simp [Ne.symm (no_id m'' member''), Ne.symm (no_key m'' member'')]
    · simp

/-- The item under a key is the one that the first request under that key made. -/
theorem find? (filled : FilledBy label requests c) (key : String) :
    (c.find? key).map label = requests.find? (·.key == key) := by
  rw [Catalog.find?, filled.index]
  cases asked : requests.find? (·.key == key) with
  | none => rfl
  | some first =>
      obtain ⟨member, same_key⟩ := Label.of_find?_key asked
      rw [Option.map_some, Option.bind_some, filled.items, ← asked]
      refine List.find?_congr fun m' member' => ?_
      rw [Bool.eq_iff_iff, beq_iff_eq, beq_iff_eq, ← same_key]
      exact filled.same m' member' first member

theorem own (filled : FilledBy label requests c) {id : Nat} {item : α}
    (held : c.get? id = some item) : (label item).id = id := by
  have asked := filled.items id
  rw [held, Option.map_some] at asked
  exact (Label.of_find?_id asked.symm).2

theorem mem_order_iff (filled : FilledBy label requests c) {id : Nat} :
    id ∈ c.order ↔ ∃ item, c.get? id = some item := by
  rw [filled.order, List.mem_eraseDups, List.mem_map, ← Option.isSome_iff_exists,
    ← Option.isSome_map (f := label), filled.items, List.find?_isSome]
  simp

theorem mem_toList_iff (filled : FilledBy label requests c) {item : α} :
    item ∈ c.toList ↔ c.get? (label item).id = some item := by
  rw [toList, List.mem_filterMap]
  constructor
  · rintro ⟨id, -, held⟩
    rw [filled.own held]
    exact held
  · intro held
    exact ⟨(label item).id, filled.mem_order_iff.mpr ⟨item, held⟩, held⟩

theorem find?_eq_some_iff (filled : FilledBy label requests c) {key : String} {item : α} :
    c.find? key = some item ↔ item ∈ c.toList ∧ (label item).key = key := by
  rw [filled.mem_toList_iff]
  constructor
  · intro found
    have asked := filled.find? key
    rw [found, Option.map_some] at asked
    obtain ⟨id, -, held⟩ := Option.bind_eq_some_iff.mp found
    rw [filled.own held]
    exact ⟨held, (Label.of_find?_key asked.symm).2⟩
  · rintro ⟨held, rfl⟩
    -- The label is itself a request, so the first one under its key has its id.
    have asked := filled.items (label item).id
    rw [held, Option.map_some] at asked
    obtain ⟨member, -⟩ := Label.of_find?_id asked.symm
    have among : (requests.find? (·.key == (label item).key)).isSome := by
      rw [List.find?_isSome]
      exact ⟨label item, member, beq_self_eq_true _⟩
    obtain ⟨first, found⟩ := Option.isSome_iff_exists.mp among
    obtain ⟨first_member, same_key⟩ := Label.of_find?_key found
    have same := (filled.same first first_member _ member).mpr same_key
    rw [Catalog.find?, filled.index, found, Option.map_some, Option.bind_some, same]
    exact held

theorem agrees (filled : FilledBy label requests c) : c.Agrees label := by
  have listed : c.toList.map (fun item => (label item).id) = c.order := by
    have each : ∀ id ∈ c.order, (c.get? id).map (fun item => (label item).id) = some id := by
      intro id member
      obtain ⟨item, held⟩ := filled.mem_order_iff.mp member
      rw [held, Option.map_some, filled.own held]
    rw [toList, List.map_filterMap, List.filterMap_congr each, List.filterMap_some]
  refine ⟨listed, filled.nodup, ?_, ?_, filled.find?_eq_some_iff, fun key => ?_⟩
  · -- Two items under one key would be one item, and no item is listed twice.
    have distinct := filled.nodup
    rw [← listed, List.Nodup, List.pairwise_map] at distinct
    rw [List.Nodup, List.pairwise_map]
    refine distinct.imp_of_mem fun {item other} first second different same => different ?_
    have found := filled.find?_eq_some_iff.mpr ⟨first, same⟩
    rw [filled.find?_eq_some_iff.mpr ⟨second, rfl⟩] at found
    rw [Option.some.inj found]
  · intro id item
    rw [filled.mem_toList_iff]
    constructor
    · intro held
      rw [filled.own held]
      exact ⟨held, rfl⟩
    · rintro ⟨held, rfl⟩
      exact held
  · have labels := congrArg (Option.map Label.id) (filled.find? key)
    rw [Option.map_map, ← filled.index] at labels
    exact labels.symm

end FilledBy

/-! ### Places in the order -/

namespace Agrees

variable {label : α → Label γ} {c : Catalog α} {id : Nat} {item : α}

theorem idxOf_getElem (agrees : c.Agrees label) {place : Nat} (within : place < c.toList.length) :
    c.order.idxOf (label c.toList[place]).id = place := by
  have inside : place < c.order.length := by
    rw [← agrees.order, List.length_map]
    exact within
  have own : (label c.toList[place]).id = c.order[place] := by
    simp only [← agrees.order, List.getElem_map]
  rw [own]
  exact agrees.ids.idxOf_getElem place inside

/-- An item stands at the place of its id. -/
theorem getElem?_place (agrees : c.Agrees label) (held : c.get? id = some item) :
    c.toList[c.order.idxOf id]? = some item := by
  obtain ⟨listed, rfl⟩ := agrees.byId.mp held
  obtain ⟨place, within, rfl⟩ := List.mem_iff_getElem.mp listed
  rw [agrees.idxOf_getElem within]
  exact List.getElem?_eq_getElem within

/-- The content of an item is replaced at its place. -/
theorem toList_set (agrees : c.Agrees label) (held : c.get? id = some item) (item' : α) :
    (c.set id item').toList = c.toList.set (c.order.idxOf id) item' := by
  have replaced : (c.set id item').toList =
      c.toList.map fun other => if id = (label other).id then item' else other := by
    rw [toList, order_set, ← agrees.order, List.filterMap_map, ← List.filterMap_eq_map]
    refine List.filterMap_congr fun other listed => ?_
    rw [Function.comp_apply, get?_set, agrees.byId.mpr ⟨listed, rfl⟩, Function.comp_apply,
      apply_ite some]
  rw [replaced]
  refine List.ext_getElem (by simp) fun place within _ => ?_
  have inside : place < c.toList.length := by simpa using within
  have own := agrees.idxOf_getElem inside
  rw [List.getElem_map, List.getElem_set]
  by_cases here : id = (label c.toList[place]).id
  · rw [if_pos here, if_pos (by rw [here, own])]
  · rw [if_neg here, if_neg]
    intro same
    have at_place := agrees.getElem?_place held
    rw [same, List.getElem?_eq_getElem inside, Option.some.injEq] at at_place
    rw [at_place] at here
    exact here (agrees.byId.mp held).2.symm

/-- A new item stands at the end. -/
theorem toList_insert (agrees : c.Agrees label) (unused : c.get? id = none) (key : String)
    (item : α) :
    (c.insert id key item).toList = c.toList ++ [item] ∧
      (c.insert id key item).order.idxOf id = c.toList.length := by
  have unlisted : id ∉ c.order := by
    intro listed
    rw [← agrees.order] at listed
    obtain ⟨other, member, rfl⟩ := List.mem_map.mp listed
    rw [agrees.byId.mpr ⟨member, rfl⟩] at unused
    cases unused
  constructor
  · have before : c.order.filterMap (c.insert id key item).get? = c.toList := by
      refine List.filterMap_congr fun other listed => ?_
      rw [get?_insert, if_neg]
      rintro rfl
      exact unlisted listed
    have last : (c.insert id key item).order = c.order ++ [id] := rfl
    rw [toList, last, List.filterMap_append, before]
    simp
  · rw [insert, List.idxOf_append_of_notMem unlisted, List.idxOf_cons_self, Nat.add_zero,
      ← agrees.order, List.length_map]

/-- An item is found by its key at the place of its id. -/
theorem findIdx?_key (agrees : c.Agrees label) (key : String) :
    c.toList.findIdx? (fun item => (label item).key == key) =
      (c.find? key).map fun item => c.order.idxOf (label item).id := by
  cases located : c.toList.findIdx? (fun item => (label item).key == key) with
  | none =>
      cases found : c.find? key with
      | none => rfl
      | some item =>
          obtain ⟨listed, same⟩ := agrees.byKey.mp found
          have other := List.findIdx?_eq_none_iff.mp located item listed
          rw [same, beq_self_eq_true] at other
          cases other
  | some place =>
      obtain ⟨within, same, -⟩ := List.findIdx?_eq_some_iff_getElem.mp located
      rw [agrees.byKey.mpr ⟨List.getElem_mem within, eq_of_beq same⟩, Option.map_some,
        agrees.idxOf_getElem within]

end Agrees

end Catalog

end Metering
