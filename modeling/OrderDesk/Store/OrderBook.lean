import OrderDesk.Order.Basic

/-!
# The order book

Orders are kept in the order in which they came in, each in a slot of its own that it never leaves.
Identifiers are looked up from the end: if two orders share an identifier, the later one is found
and the earlier one is out of reach for everyone who has not found its slot before.
-/

namespace OrderDesk

/-- The orders of the desk. -/
structure OrderBook where
  /-- The orders, the oldest first. -/
  orders : List Order

namespace OrderBook

/-- A book without orders. -/
def empty : OrderBook := ⟨[]⟩

/-- The slot of the last order with an identifier. -/
def lastSlot? (id : OrderId) : List Order → Option Nat
  | [] => none
  | o :: rest =>
    match lastSlot? id rest with
    | some slot => some (slot + 1)
    | none => if o.id = id then some 0 else none

/-- The slot of the order with an identifier. -/
def slot? (b : OrderBook) (id : OrderId) : Option Nat := lastSlot? id b.orders

/-- The order in a slot. -/
def atSlot? (b : OrderBook) (slot : Nat) : Option Order := b.orders[slot]?

/-- The order with an identifier. -/
def get? (b : OrderBook) (id : OrderId) : Option Order := (b.slot? id).bind b.atSlot?

/-- The book with one order more. -/
def insert (b : OrderBook) (o : Order) : OrderBook := ⟨b.orders ++ [o]⟩

/-- The book with one order more, unless it has an order with this identifier. -/
def load (b : OrderBook) (o : Order) : OrderBook :=
  if (b.slot? o.id).isSome then b else b.insert o

/-- The book with another order in a slot. -/
def put (b : OrderBook) (slot : Nat) (o : Order) : OrderBook := ⟨b.orders.set slot o⟩

/-- The slots of the orders as they are listed. -/
def listedSlots (b : OrderBook) : List Nat := b.orders.filterMap fun o => b.slot? o.id

/-- All orders, the oldest first. -/
def list (b : OrderBook) : List Order := b.listedSlots.filterMap b.atSlot?

/-- The number of orders. -/
def size (b : OrderBook) : Nat := b.orders.length

/-- The orders with the given identifiers; an identifier that no order has is passed over. -/
def getAll (b : OrderBook) (ids : List OrderId) : List Order := ids.filterMap b.get?

/-! ## Cancelling -/

/-- Cancels the order in a slot if it is pending, and says whether it did. -/
def cancelSlot (b : OrderBook) (slot : Nat) : OrderBook × Bool :=
  match b.atSlot? slot with
  | none => (b, false)
  | some o =>
    match o.execute .cancel with
    | .ok (o, _) => (b.put slot o, true)
    | .error _ => (b, false)

/-- Cancels the order with an identifier if it is pending, and says whether it did. -/
def cancelIfPending (b : OrderBook) (id : OrderId) : OrderBook × Bool :=
  match b.slot? id with
  | none => (b, false)
  | some slot => b.cancelSlot slot

/-- Cancels those of the given orders that are pending, one after the other, and names them. -/
def cancelAmong (b : OrderBook) : List OrderId → OrderBook × List OrderId
  | [] => (b, [])
  | id :: ids =>
    let (b, done) := b.cancelIfPending id
    let (b, cancelled) := b.cancelAmong ids
    (b, if done then id :: cancelled else cancelled)

/-! ## Small facts -/

theorem lastSlot?_append_singleton (id : OrderId) (orders : List Order) (o : Order) :
    lastSlot? id (orders ++ [o]) =
      if o.id = id then some orders.length else lastSlot? id orders := by
  induction orders with
  | nil => by_cases h : o.id = id <;> simp [lastSlot?, h]
  | cons p rest ih =>
    by_cases h : o.id = id
    · simp [lastSlot?, ih, h]
    · simp only [List.cons_append, lastSlot?, ih, if_neg h]

/-- The order just inserted is the one that is found. -/
@[simp] theorem get?_insert_self (b : OrderBook) (o : Order) : (b.insert o).get? o.id = some o := by
  simp [get?, slot?, atSlot?, insert, lastSlot?_append_singleton]

theorem lastSlot?_lt {id : OrderId} {orders : List Order} {slot : Nat}
    (h : lastSlot? id orders = some slot) : slot < orders.length := by
  induction orders generalizing slot with
  | nil => simp [lastSlot?] at h
  | cons o rest ih =>
    rw [lastSlot?] at h
    split at h
    · next found =>
      cases h
      simpa using ih found
    · split at h <;> simp_all
      omega

theorem exists_of_lastSlot? {id : OrderId} {orders : List Order} {slot : Nat}
    (h : lastSlot? id orders = some slot) : ∃ o, orders[slot]? = some o ∧ o.id = id := by
  induction orders generalizing slot with
  | nil => cases h
  | cons o rest ih =>
    rw [lastSlot?] at h
    split at h
    · next found =>
      cases h
      exact ih found
    · split at h
      · next hid =>
        cases h
        exact ⟨o, rfl, hid⟩
      · cases h

/-- The order that is found has the identifier that was looked for. -/
theorem exists_of_slot? {b : OrderBook} {id : OrderId} {slot : Nat} (h : b.slot? id = some slot) :
    ∃ o, b.atSlot? slot = some o ∧ o.id = id :=
  exists_of_lastSlot? h

theorem atSlot?_insert (b : OrderBook) (o : Order) (slot : Nat) :
    (b.insert o).atSlot? slot = if slot = b.size then some o else b.atSlot? slot := by
  by_cases h : slot = b.size
  · rw [if_pos h, h]
    exact List.getElem?_concat_length
  · rw [if_neg h]
    unfold size at h
    unfold insert atSlot?
    by_cases hlt : slot < b.orders.length
    · rw [List.getElem?_append_left hlt]
    · rw [List.getElem?_eq_none (by simp; omega), List.getElem?_eq_none (by omega)]

theorem lt_size_of_atSlot? {b : OrderBook} {slot : Nat} {o : Order} (h : b.atSlot? slot = some o) :
    slot < b.size :=
  (List.getElem?_eq_some_iff.1 h).1

/-- An order that is there stays in its slot when another one comes in. -/
theorem atSlot?_insert_of_some {b : OrderBook} {slot : Nat} {o : Order} (p : Order)
    (h : b.atSlot? slot = some o) : (b.insert p).atSlot? slot = some o := by
  rw [atSlot?_insert, if_neg (Nat.ne_of_lt (lt_size_of_atSlot? h)), h]

theorem atSlot?_put_self {b : OrderBook} {slot : Nat} {o : Order} (p : Order)
    (h : b.atSlot? slot = some o) : (b.put slot p).atSlot? slot = some p :=
  List.getElem?_set_self (lt_size_of_atSlot? h)

theorem atSlot?_put_of_ne (b : OrderBook) {slot other : Nat} (p : Order) (h : slot ≠ other) :
    (b.put slot p).atSlot? other = b.atSlot? other :=
  List.getElem?_set_ne h

@[simp] theorem size_put (b : OrderBook) (slot : Nat) (o : Order) :
    (b.put slot o).size = b.size := by
  simp [put, size]

end OrderBook

end OrderDesk
