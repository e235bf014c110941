import OrderDesk.Proofs.Service.Operations
import OrderDesk.Proofs.Store.Keys

/-!
# Cancelling the orders in a list

The orders in a list of identifiers are cancelled one by one, each looked up in the book that has
come about so far.  Where no identifier stands twice this is one pass over the book
(`OrderBook.Distinct.cancelAmong_eq`): the pending orders in the list are cancelled, every other
order stays as it is, and what is named are the identifiers in the list that belonged to pending
orders.
-/

namespace OrderDesk

/-! ## One order -/

namespace Order

/-- The order, cancelled if it is pending and in the list. -/
def sweep (ids : List OrderId) (o : Order) : Order :=
  if o.id ∈ ids ∧ o.status = .pending then { o with status := .cancelled } else o

variable {ids : List OrderId} {o : Order}

@[simp] theorem sweep_id (ids : List OrderId) (o : Order) : (o.sweep ids).id = o.id := by
  unfold sweep
  split <;> rfl

theorem sweep_of_pending (h : o.id ∈ ids) (hp : o.status = .pending) :
    o.sweep ids = o.apply .cancelled :=
  if_pos ⟨h, hp⟩

theorem sweep_of_not_pending (ids : List OrderId) (hp : o.status ≠ .pending) : o.sweep ids = o :=
  if_neg fun h => hp h.2

theorem sweep_of_not_mem (h : o.id ∉ ids) : o.sweep ids = o :=
  if_neg fun hmem => h hmem.1

@[simp] theorem sweep_nil (o : Order) : o.sweep [] = o := sweep_of_not_mem List.not_mem_nil

/-- An order that has been swept is not pending any more, so it may be passed over later. -/
theorem sweep_sweep (id : OrderId) (ids : List OrderId) (o : Order) :
    (o.sweep [id]).sweep ids = o.sweep (id :: ids) := by
  by_cases hp : o.status = .pending
  · by_cases hid : o.id = id
    · have hmem : o.id ∈ [id] := by simp [hid]
      rw [sweep_of_pending hmem hp, sweep_of_pending (List.mem_cons.2 (.inl hid)) hp]
      exact sweep_of_not_pending ids nofun
    · have hfirst : o.sweep [id] = o := sweep_of_not_mem (by simpa using hid)
      rw [hfirst]
      simp [sweep, hid]
  · rw [sweep_of_not_pending _ hp, sweep_of_not_pending _ hp, sweep_of_not_pending _ hp]

end Order

/-! ## The book -/

namespace OrderBook

/-- The book with the orders in the list swept. -/
def sweep (b : OrderBook) (ids : List OrderId) : OrderBook := ⟨b.orders.map (·.sweep ids)⟩

/-- Is the order with this identifier pending? -/
def isPending (b : OrderBook) (id : OrderId) : Bool := (b.get? id).any (·.status = .pending)

variable {b : OrderBook} {id : OrderId} {ids : List OrderId} {o : Order} {slot : Nat}

theorem map_id_sweep (b : OrderBook) (ids : List OrderId) :
    (b.sweep ids).orders.map (·.id) = b.orders.map (·.id) := by
  simp [sweep]

theorem get?_sweep (b : OrderBook) (ids : List OrderId) (id : OrderId) :
    (b.sweep ids).get? id = (b.get? id).map (·.sweep ids) := by
  have hslot : (b.sweep ids).slot? id = b.slot? id := lastSlot?_congr (b.map_id_sweep ids)
  rw [get?, get?, hslot]
  cases b.slot? id with
  | none => rfl
  | some slot => exact List.getElem?_map

theorem id_of_get? (h : b.get? id = some o) : o.id = id := by
  obtain ⟨slot, hslot, hat⟩ := Option.bind_eq_some_iff.1 h
  obtain ⟨o', hat', hid⟩ := exists_of_slot? hslot
  cases hat.symm.trans hat'
  exact hid

/-- What is swept has no part in whether other orders are pending. -/
theorem isPending_sweep (h : id ∉ ids) : (b.sweep ids).isPending id = b.isPending id := by
  rw [isPending, isPending, get?_sweep]
  cases hget : b.get? id with
  | none => rfl
  | some o => rw [Option.map_some, Order.sweep_of_not_mem (id_of_get? hget ▸ h)]

theorem sweep_sweep (b : OrderBook) (id : OrderId) (ids : List OrderId) :
    (b.sweep [id]).sweep ids = b.sweep (id :: ids) := by
  simp only [sweep, List.map_map, mk.injEq]
  exact List.map_congr_left fun o _ => o.sweep_sweep id ids

/-- Where none of the orders in the list is pending, nothing is swept. -/
theorem sweep_eq_self (h : ∀ o ∈ b.orders, o.id ∈ ids → o.status ≠ .pending) : b.sweep ids = b := by
  obtain ⟨orders⟩ := b
  rw [sweep, mk.injEq]
  refine (List.map_congr_left fun o ho => ?_).trans (List.map_id' orders)
  exact if_neg fun hmem => h o ho hmem.1 hmem.2

namespace Distinct

theorem sweep (hb : b.Distinct) (ids : List OrderId) : (b.sweep ids).Distinct := by
  unfold Distinct
  rw [map_fst_keys, map_id_sweep]
  exact hb.orders_nodup

/-- Putting a cancelled order in its slot sweeps the book. -/
theorem put_cancelled (hb : b.Distinct) (hat : b.atSlot? slot = some o) (hp : o.status = .pending) :
    b.put slot (o.apply .cancelled) = b.sweep [o.id] := by
  rw [put, OrderBook.sweep, mk.injEq]
  refine List.ext_getElem? fun i => ?_
  rw [List.getElem?_map]
  by_cases hi : slot = i
  · subst hi
    have hself : b.orders[slot]? = some o := hat
    rw [List.getElem?_set_self (lt_size_of_atSlot? hat), hself, Option.map_some,
      Order.sweep_of_pending (List.mem_singleton_self _) hp]
  · rw [List.getElem?_set_ne hi]
    cases hother : b.orders[i]? with
    | none => rfl
    | some p =>
      have hid : p.id ∉ [o.id] := by
        rw [List.mem_singleton]
        exact fun heq => hi (hb.eq_of_id hat hother heq).1.symm
      rw [Option.map_some, Order.sweep_of_not_mem hid]

theorem cancelIfPending_eq (hb : b.Distinct) (id : OrderId) :
    b.cancelIfPending id = (b.sweep [id], b.isPending id) := by
  unfold cancelIfPending isPending get?
  cases hslot : b.slot? id with
  | none =>
    have hnone : ∀ o ∈ b.orders, o.id ∈ [id] → o.status ≠ .pending := by
      intro o ho hid
      obtain ⟨slot, hat⟩ := exists_atSlot? ho
      cases (List.mem_singleton.1 hid ▸ hb.slot?_eq hat).symm.trans hslot
    rw [sweep_eq_self hnone]
    rfl
  | some slot =>
    obtain ⟨o, hat, rfl⟩ := exists_of_slot? hslot
    rw [Option.bind_some, hat, Option.any_some]
    rcases b.cancelSlot_eq slot with ⟨p, hat', hp, heq⟩ | ⟨hnot, heq⟩
    · cases hat.symm.trans hat'
      exact heq.trans (by rw [hb.put_cancelled hat hp, decide_eq_true hp])
    · have hall : ∀ p ∈ b.orders, p.id ∈ [o.id] → p.status ≠ .pending := by
        intro p hpmem hid
        obtain ⟨other, hother⟩ := exists_atSlot? hpmem
        rw [(hb.eq_of_id hat hother (List.mem_singleton.1 hid)).2]
        exact hnot o hat
      exact heq.trans (by rw [sweep_eq_self hall, decide_eq_false (hnot o hat)])

/-- **The orders in a list are cancelled in one pass.** -/
theorem cancelAmong_eq (hb : b.Distinct) (hids : ids.Nodup) :
    b.cancelAmong ids = (b.sweep ids, ids.filter b.isPending) := by
  induction ids generalizing b with
  | nil =>
    have hnone : ∀ o ∈ b.orders, o.id ∈ ([] : List OrderId) → o.status ≠ .pending := nofun
    rw [sweep_eq_self hnone]
    rfl
  | cons id ids ih =>
    obtain ⟨hnot, hids⟩ := List.nodup_cons.1 hids
    -- none of the orders that are still to come has been swept
    have hrest : ids.filter (b.sweep [id]).isPending = ids.filter b.isPending := by
      refine List.filter_congr fun other hother => isPending_sweep ?_
      rw [List.mem_singleton]
      rintro rfl
      exact hnot hother
    rw [cancelAmong, hb.cancelIfPending_eq id]
    dsimp only
    rw [ih (hb.sweep [id]) hids, sweep_sweep, hrest, List.filter_cons]

/-! ## The orders of a user -/

theorem isPending_eq (hb : b.Distinct) (h : o ∈ b.orders) :
    b.isPending o.id = decide (o.status = .pending) := by
  rw [isPending, hb.get?_eq h, Option.any_some]

/-- The pending orders of a user, by what they say of themselves. -/
theorem filter_isPending_idsOf (hb : b.Distinct) (u : UserId) :
    (b.idsOf u).filter b.isPending =
      (b.orders.filter fun o => o.owner = some u ∧ o.status = .pending).map (·.id) := by
  rw [idsOf_eq, List.filter_map, List.filter_filter]
  refine congrArg _ (List.filter_congr fun o ho => ?_)
  rw [Function.comp_apply, hb.isPending_eq ho, Bool.decide_and, Bool.and_comm]

theorem sweep_idsOf (hb : b.Distinct) (u : UserId) :
    (b.sweep (b.idsOf u)).orders = b.orders.map fun o =>
      if o.owner = some u ∧ o.status = .pending then { o with status := .cancelled } else o := by
  refine List.map_congr_left fun o ho => ?_
  simp only [Order.sweep, hb.mem_idsOf_iff_owner ho]

end Distinct

end OrderBook

end OrderDesk
