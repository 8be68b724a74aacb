import Std.Data.TreeMap

/-!
Catalogs: items filed under an id and under a key, and listed in the order of their creation.

The three views are kept side by side: `items` by id, `index` from keys to ids, and `order`, the
ids from the oldest to the newest. An item is never taken out of a catalog, and it keeps its id,
its key and its place; only its content changes.
-/

namespace Metering

structure Catalog (α : Type) where
  order : List Nat := []
  items : Std.TreeMap Nat α := ∅
  index : Std.TreeMap String Nat := ∅

namespace Catalog

variable {α : Type}

instance : EmptyCollection (Catalog α) := ⟨{}⟩

/-- The item with the given id. -/
def get? (c : Catalog α) (id : Nat) : Option α :=
  c.items[id]?

/-- The id filed under the given key. -/
def idOf? (c : Catalog α) (key : String) : Option Nat :=
  c.index[key]?

/-- The item filed under the given key. -/
def find? (c : Catalog α) (key : String) : Option α :=
  (c.idOf? key).bind c.get?

/-- The items in the order of their creation. -/
def toList (c : Catalog α) : List α :=
  c.order.filterMap c.get?

def size (c : Catalog α) : Nat :=
  c.order.length

/-- Files a new item. -/
def insert (c : Catalog α) (id : Nat) (key : String) (item : α) : Catalog α where
  order := c.order ++ [id]
  items := c.items.insert id item
  index := c.index.insert key id

/-- Replaces the content of the item with the given id. -/
def set (c : Catalog α) (id : Nat) (item : α) : Catalog α :=
  { c with items := c.items.insert id item }

/-! ### What each operation does to the views -/

@[simp] theorem get?_empty (id : Nat) : (∅ : Catalog α).get? id = none := by
  change (∅ : Std.TreeMap Nat α)[id]? = none
  simp

@[simp] theorem get?_insert (c : Catalog α) (id : Nat) (key : String) (item : α) (id' : Nat) :
    (c.insert id key item).get? id' = if id = id' then some item else c.get? id' := by
  simp [get?, insert, Std.TreeMap.getElem?_insert]

@[simp] theorem get?_set (c : Catalog α) (id : Nat) (item : α) (id' : Nat) :
    (c.set id item).get? id' = if id = id' then some item else c.get? id' := by
  simp [get?, set, Std.TreeMap.getElem?_insert]

@[simp] theorem idOf?_insert (c : Catalog α) (id : Nat) (key : String) (item : α)
    (key' : String) :
    (c.insert id key item).idOf? key' = if key = key' then some id else c.idOf? key' := by
  simp [idOf?, insert, Std.TreeMap.getElem?_insert]

@[simp] theorem order_set (c : Catalog α) (id : Nat) (item : α) :
    (c.set id item).order = c.order := rfl

end Catalog

end Metering
