import Mathlib.Data.List.Nodup
import OrderDesk.Store.OrderBook

/-!
# Books in which no identifier stands twice

Whether an order is found, and whose it is, depends on its identifier and its owner alone, which
never change.  The *keys* of a book are these two for each order, the oldest order first
(`OrderBook.keys`).  Where no identifier stands twice (`OrderBook.Distinct`), every order is found
in its own slot (`Distinct.slot?_eq`), all orders are listed (`Distinct.list_eq`), and looking up
the orders of a user by their identifiers gives just these orders (`Distinct.getAll_idsOf`).
-/

namespace OrderDesk.OrderBook

/-- The identifier and the owner of each order. -/
def keys (b : OrderBook) : List (OrderId × Option UserId) := b.orders.map fun o => (o.id, o.owner)

/-- No two orders have one identifier. -/
def Distinct (b : OrderBook) : Prop := (b.keys.map (·.1)).Nodup

/-- The identifiers of the orders of a user. -/
def idsOf (b : OrderBook) (u : UserId) : List OrderId := (b.keys.filter (·.2 = some u)).map (·.1)

variable {b b' : OrderBook} {slot other : Nat} {o o' : Order}

/-! ## Keys -/

theorem map_fst_keys (b : OrderBook) : b.keys.map (·.1) = b.orders.map (·.id) := by
  rw [keys, List.map_map]
  rfl

theorem idsOf_eq (b : OrderBook) (u : UserId) :
    b.idsOf u = (b.orders.filter (·.owner = some u)).map (·.id) := by
  rw [idsOf, keys, List.filter_map, List.map_map]
  rfl

theorem mem_orders_of_atSlot? (h : b.atSlot? slot = some o) : o ∈ b.orders :=
  List.mem_of_getElem? h

theorem exists_atSlot? (h : o ∈ b.orders) : ∃ slot, b.atSlot? slot = some o :=
  List.mem_iff_getElem?.1 h

theorem mem_keys_of_atSlot? (h : b.atSlot? slot = some o) : (o.id, o.owner) ∈ b.keys :=
  List.mem_map_of_mem (mem_orders_of_atSlot? h)

theorem exists_of_mem_keys {k : OrderId × Option UserId} (h : k ∈ b.keys) :
    ∃ slot o, b.atSlot? slot = some o ∧ o.id = k.1 ∧ o.owner = k.2 := by
  obtain ⟨o, ho, rfl⟩ := List.mem_map.1 h
  obtain ⟨slot, hslot⟩ := exists_atSlot? ho
  exact ⟨slot, o, hslot, rfl, rfl⟩

theorem mem_idsOf_iff {u : UserId} {id : OrderId} : id ∈ b.idsOf u ↔ (id, some u) ∈ b.keys := by
  constructor
  · intro h
    obtain ⟨⟨id', owner⟩, hk, rfl⟩ := List.mem_map.1 h
    obtain ⟨hk, howner⟩ := List.mem_filter.1 hk
    rw [decide_eq_true_iff] at howner
    exact howner ▸ hk
  · intro h
    have hmem : (id, some u) ∈ b.keys.filter (·.2 = some u) :=
      List.mem_filter.2 ⟨h, decide_eq_true rfl⟩
    exact List.mem_map_of_mem hmem

theorem keys_insert (b : OrderBook) (o : Order) : (b.insert o).keys = b.keys ++ [(o.id, o.owner)] :=
  List.map_append

/-- An order with the same identifier and the same owner can stand in the place of another. -/
theorem keys_put (h : b.atSlot? slot = some o) (hid : o'.id = o.id) (howner : o'.owner = o.owner) :
    (b.put slot o').keys = b.keys := by
  have hkey : (b.orders.map fun o => (o.id, o.owner))[slot]? = some (o'.id, o'.owner) := by
    rw [List.getElem?_map, hid, howner]
    exact congrArg _ h
  obtain ⟨hlt, hget⟩ := List.getElem?_eq_some_iff.1 hkey
  show (b.orders.set slot o').map _ = _
  rw [List.map_set, ← hget, List.set_getElem_self]
  rfl

/-! ## Finding orders -/

theorem lastSlot?_eq_none {id : OrderId} {orders : List Order} (h : id ∉ orders.map (·.id)) :
    lastSlot? id orders = none := by
  induction orders with
  | nil => rfl
  | cons o rest ih =>
    rw [List.map_cons, List.mem_cons, not_or] at h
    rw [lastSlot?, ih h.2]
    exact if_neg fun hid => h.1 hid.symm

/-- Where an order is found depends on the identifiers alone. -/
theorem lastSlot?_congr {id : OrderId} {orders orders' : List Order}
    (h : orders.map (·.id) = orders'.map (·.id)) : lastSlot? id orders = lastSlot? id orders' := by
  induction orders generalizing orders' with
  | nil => rw [List.map_eq_nil_iff.1 h.symm]
  | cons o rest ih =>
    cases orders' with
    | nil => cases h
    | cons o' rest' =>
      rw [List.map_cons, List.map_cons, List.cons.injEq] at h
      rw [lastSlot?, lastSlot?, ih h.2, h.1]

/-- An order with the same identifier and owner is found in the place of another. -/
theorem get?_put {id : OrderId} (hslot : b.slot? id = some slot) (h : b.atSlot? slot = some o)
    (hid : o'.id = o.id) (howner : o'.owner = o.owner) : (b.put slot o').get? id = some o' := by
  have hkeys : (b.put slot o').orders.map (·.id) = b.orders.map (·.id) := by
    rw [← map_fst_keys, keys_put h hid howner, map_fst_keys]
  have hsame : (b.put slot o').slot? id = b.slot? id := lastSlot?_congr hkeys
  rw [get?, hsame, hslot]
  exact atSlot?_put_self o' h

theorem lastSlot?_of_nodup {orders : List Order} (hd : (orders.map (·.id)).Nodup)
    (h : orders[slot]? = some o) : lastSlot? o.id orders = some slot := by
  induction orders generalizing slot with
  | nil => cases h
  | cons p rest ih =>
    rw [List.map_cons, List.nodup_cons] at hd
    cases slot with
    | zero =>
      cases h
      rw [lastSlot?, lastSlot?_eq_none hd.1]
      exact if_pos rfl
    | succ slot => rw [lastSlot?, ih hd.2 h]

namespace Distinct

theorem orders_nodup (hb : b.Distinct) : (b.orders.map (·.id)).Nodup := b.map_fst_keys ▸ hb

/-- Every order is found in its own slot. -/
theorem slot?_eq (hb : b.Distinct) (h : b.atSlot? slot = some o) : b.slot? o.id = some slot :=
  lastSlot?_of_nodup hb.orders_nodup h

/-- Orders with one identifier are one order. -/
theorem eq_of_id (hb : b.Distinct) (h : b.atSlot? slot = some o) (h' : b.atSlot? other = some o')
    (hid : o'.id = o.id) : other = slot ∧ o' = o := by
  have hslot : other = slot :=
    Option.some.inj ((hb.slot?_eq h').symm.trans (hid ▸ hb.slot?_eq h))
  subst hslot
  exact ⟨rfl, Option.some.inj (h'.symm.trans h)⟩

theorem get?_eq (hb : b.Distinct) (h : o ∈ b.orders) : b.get? o.id = some o := by
  obtain ⟨slot, hslot⟩ := exists_atSlot? h
  rw [get?, hb.slot?_eq hslot]
  exact hslot

/-- Looking up orders by their identifiers gives the orders. -/
theorem getAll_map (hb : b.Distinct) {orders : List Order} (h : ∀ o ∈ orders, o ∈ b.orders) :
    b.getAll (orders.map (·.id)) = orders := by
  rw [getAll, List.filterMap_map]
  exact (List.filterMap_congr fun o ho => hb.get?_eq (h o ho)).trans List.filterMap_some

/-- All orders are listed. -/
theorem list_eq (hb : b.Distinct) : b.list = b.orders := by
  have hall : b.list = b.getAll (b.orders.map (·.id)) := by
    rw [list, listedSlots, getAll, List.filterMap_filterMap, List.filterMap_map]
    rfl
  rw [hall, hb.getAll_map fun _ ho => ho]

/-- Whether an order is one of a user is a question of the owner that it names. -/
theorem mem_idsOf_iff_owner (hb : b.Distinct) {u : UserId} (h : o ∈ b.orders) :
    o.id ∈ b.idsOf u ↔ o.owner = some u := by
  rw [mem_idsOf_iff]
  constructor
  · intro hkey
    obtain ⟨slot, hslot⟩ := exists_atSlot? h
    obtain ⟨other, p, hother, hid, howner⟩ := exists_of_mem_keys hkey
    rw [← (hb.eq_of_id hslot hother hid).2]
    exact howner
  · intro howner
    exact howner ▸ List.mem_map_of_mem h

theorem idsOf_nodup (hb : b.Distinct) (u : UserId) : (b.idsOf u).Nodup := by
  rw [idsOf_eq]
  exact hb.orders_nodup.sublist (List.filter_sublist.map _)

/-- The orders of a user, looked up by their identifiers. -/
theorem getAll_idsOf (hb : b.Distinct) (u : UserId) :
    b.getAll (b.idsOf u) = b.list.filter (·.owner = some u) := by
  rw [idsOf_eq, hb.list_eq]
  exact hb.getAll_map fun _ ho => (List.mem_filter.1 ho).1

end Distinct

end OrderDesk.OrderBook
