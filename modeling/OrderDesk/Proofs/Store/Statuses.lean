import Mathlib.Data.List.Count
import OrderDesk.Proofs.Service.Operations
import OrderDesk.Proofs.Store.Keys

/-!
# How many orders have a status

Only a pending order ever gets another status, and it gets it for good.  So what has become of the
orders between two states of a book is told by a list of statuses, one for each order that has
stopped being pending, in the order in which this happened (`OrderBook.Turned`): of every status
other than pending there are as many orders more as the list names it (`Turned.tally`).

An event that a pending order goes through names the status that it leads to, or none
(`Turned.put`), and cancelling the orders in a list of identifiers names one cancellation for each
order that it reports (`turned_cancelAmong`).
-/

namespace OrderDesk.OrderBook

/-- The number of orders with a status. -/
def tally (b : OrderBook) (status : OrderStatus) : Nat := b.orders.countP (·.status = status)

/-- Orders that were pending in the first book have come to the given statuses in the second one:
the same identifiers stand in it, and it has as many orders more with a status as the list names
it. -/
structure Turned (b : OrderBook) (statuses : List OrderStatus) (b' : OrderBook) : Prop where
  ids : b'.orders.map (·.id) = b.orders.map (·.id)
  tally : ∀ status, status ≠ .pending → b'.tally status = b.tally status + statuses.count status

variable {b b' b'' : OrderBook} {slot : Nat} {o o' : Order} {status : OrderStatus}
  {statuses statuses' : List OrderStatus}

theorem tally_insert (b : OrderBook) (o : Order) (status : OrderStatus) :
    (b.insert o).tally status = b.tally status + if o.status = status then 1 else 0 := by
  simp [tally, insert, List.countP_append, List.countP_singleton]

/-- A pending order is not counted under any other status, so another order in its place is counted
in addition. -/
theorem tally_put (h : b.atSlot? slot = some o) (hp : o.status = .pending) (o' : Order)
    (hstatus : status ≠ .pending) :
    (b.put slot o').tally status = b.tally status + if o'.status = status then 1 else 0 := by
  obtain ⟨hlt, rfl⟩ := List.getElem?_eq_some_iff.1 h
  have hnot : ¬ b.orders[slot].status = status := fun heq => hstatus (heq.symm.trans hp)
  rw [tally, put, List.countP_set hlt]
  simp [hnot, tally]

namespace Turned

theorem refl (b : OrderBook) : b.Turned [] b := ⟨rfl, fun _ _ => rfl⟩

theorem trans (h : b.Turned statuses b') (h' : b'.Turned statuses' b'') :
    b.Turned (statuses ++ statuses') b'' where
  ids := h'.ids.trans h.ids
  tally status hstatus := by
    rw [h'.tally status hstatus, h.tally status hstatus, List.count_append, Nat.add_assoc]

theorem size (h : b.Turned statuses b') : b'.size = b.size := by
  have hlength := congrArg List.length h.ids
  rwa [List.length_map, List.length_map] at hlength

/-- What becomes of an order by an event. -/
theorem put (h : b.atSlot? slot = some o) (hp : o.status = .pending) (e : OrderEvent) :
    b.Turned (if (o.apply e).status = .pending then [] else [(o.apply e).status])
      (b.put slot (o.apply e)) where
  ids := by
    have howner : (o.apply e).owner = o.owner := by
      cases e <;> rfl
    rw [← map_fst_keys, keys_put h (Order.apply_id o e) howner, map_fst_keys]
  tally status hstatus := by
    rw [tally_put h hp _ hstatus]
    by_cases hpending : (o.apply e).status = .pending
    · rw [if_pos hpending, if_neg fun heq => hstatus (heq.symm.trans hpending)]
      rfl
    · rw [if_neg hpending, List.count_singleton]
      simp only [beq_iff_eq]

end Turned

/-! ## Cancelling -/

theorem cancelIfPending_eq (b : OrderBook) (id : OrderId) :
    (∃ b', b.cancelIfPending id = (b', true) ∧ b.Turned [.cancelled] b') ∨
      b.cancelIfPending id = (b, false) := by
  unfold cancelIfPending
  cases b.slot? id with
  | none => exact Or.inr rfl
  | some slot =>
    rcases b.cancelSlot_eq slot with ⟨o, hslot, hpending, heq⟩ | ⟨-, heq⟩
    · exact Or.inl ⟨_, heq, .put hslot hpending .cancelled⟩
    · exact Or.inr heq

/-- Every order that is cancelled is named, and no other. -/
theorem turned_cancelAmong (b : OrderBook) (ids : List OrderId) :
    b.Turned ((b.cancelAmong ids).2.map fun _ => .cancelled) (b.cancelAmong ids).1 := by
  -- The rest is cancelled in the book that has come about so far, where an order that is named
  -- again is no longer pending.
  induction ids generalizing b with
  | nil => exact .refl b
  | cons id ids ih =>
    rcases b.cancelIfPending_eq id with ⟨b', heq, hturned⟩ | heq
    · simp only [cancelAmong, heq, if_true, List.map_cons]
      exact hturned.trans (ih b')
    · simp only [cancelAmong, heq, Bool.false_eq_true, if_false]
      exact ih b

end OrderDesk.OrderBook
