import OrderDesk.Proofs.Store.Cancelling
import OrderDesk.Proofs.Switchboard.Notes

/-!
# What the deletion of a user changes

The orders that go with a user are found by what is noted with the user, not by the owner that they
name.  As notes and book agree in every state that is reached (`Indexed`), a deletion nevertheless
cancels exactly the pending orders that name the user (`Indexed.deleteUser_eq`).

**`Switchboard.deletion_cancels_pending`** — the user is gone, these orders are cancelled and named
in the order of the list, everything else is as it was, and who is gone cannot be deleted again.
-/

namespace OrderDesk

variable {s : Service} {known : List Uuid} {u : UserId} {user : User}

/-- Where notes and book agree, a deletion sweeps the orders of the user. -/
theorem Indexed.deleteUser_eq (h : Indexed s known) (hu : s.users.user? u = some user) :
    s.deleteUser u = (⟨s.orders.sweep (s.orders.idsOf u), s.users.erase u⟩,
      .ok ((s.orders.idsOf u).filter s.orders.isPending)) := by
  obtain ⟨account, haccount, -⟩ := Option.map_eq_some_iff.1 hu
  have hnoted : s.users.notedOrders? u = some (s.orders.idsOf u) := by
    have hids : s.users.notedOrders? u = some account.orders :=
      Accounts.notedOrders?_eq_some_iff.2 ⟨account, haccount, rfl⟩
    rw [hids, h.noted u _ hids]
  rw [Service.deleteUser, Service.removeUser, hnoted]
  dsimp only
  rw [Service.cancelAmong, h.distinct.cancelAmong_eq (h.distinct.idsOf_nodup u)]

/-- Who is not a user cannot be deleted. -/
theorem Service.deleteUser_of_get?_eq_none (h : s.users.get? u = none) :
    s.deleteUser u = (s, .error (.notFound u)) := by
  rw [deleteUser, removeUser, Accounts.notedOrders?_eq_none_iff.2 h]

namespace Switchboard

variable {b : Switchboard} {es : List Event}

/-- **A deletion cancels the pending orders of the user, and changes nothing else**, in every state
that is reached from nothing or from the demo data.  It names the orders that it cancels, each once
and in the order of the list.  Every order keeps its slot and, but for the status of these, all that
it says; every other user is kept with their balance and their orders.  To delete the user a second
time fails, and leaves everything as it is. -/
theorem deletion_cancels_pending (hs : s = .empty ∨ ∃ now, Demo.load now .empty = .ok s)
    (h : (ofService s).run es = some b) (hids : NeverRepeats s es)
    (hu : b.service.users.user? u = some user) :
    let pending := b.service.orders.list.filter fun o => o.owner = some u ∧ o.status = .pending
    ∃ s', b.service.deleteUser u = (s', .ok (pending.map (·.id))) ∧
      (pending.map (·.id)).Nodup ∧
      (s'.orders.list = b.service.orders.list.map fun o =>
        if o.owner = some u ∧ o.status = .pending then { o with status := .cancelled } else o) ∧
      (∀ slot, s'.orders.atSlot? slot = (b.service.orders.atSlot? slot).map fun o =>
        if o.owner = some u ∧ o.status = .pending then { o with status := .cancelled } else o) ∧
      s'.users.get? u = none ∧
      (∀ v, v ≠ u → s'.users.get? v = b.service.users.get? v) ∧
      s'.deleteUser u = (s', .error (.notFound u)) := by
  intro pending
  have hb : Indexed b.service _ := indexed_run hids (indexed_start hs) h
  have hlist : b.service.orders.list = b.service.orders.orders := hb.distinct.list_eq
  have hnamed : (b.service.orders.idsOf u).filter b.service.orders.isPending =
      pending.map (·.id) := by
    rw [hb.distinct.filter_isPending_idsOf u, ← hlist]
  have hswept := hb.distinct.sweep_idsOf u
  have hgone : (b.service.users.erase u).get? u = none := by
    rw [Table.get?_erase, if_pos rfl]
  refine ⟨⟨b.service.orders.sweep (b.service.orders.idsOf u), b.service.users.erase u⟩,
    ?_, ?_, ?_, ?_, hgone, ?_, Service.deleteUser_of_get?_eq_none hgone⟩
  · rw [hb.deleteUser_eq hu, hnamed]
  · rw [← hnamed]
    exact (hb.distinct.idsOf_nodup u).filter _
  · rw [(hb.distinct.sweep _).list_eq, hswept, hlist]
  · intro slot
    show (b.service.orders.sweep _).orders[slot]? = _
    rw [hswept, List.getElem?_map]
    rfl
  · intro v hv
    show (b.service.users.erase u).get? v = _
    rw [Table.get?_erase, if_neg fun heq => hv heq.symm]

open Rehearsal in
theorem deletion_cancels_pending_of_demo_user :
    ∃ s b s', Demo.load midnight .empty = .ok s ∧ (ofService s).run ordering = some b ∧
      NeverRepeats s ordering ∧
      b.service.deleteUser (Demo.userId 0) = (s', .ok [Demo.orderId 0]) ∧
      s'.deleteUser (Demo.userId 0) = (s', .error (.notFound (Demo.userId 0))) := by
  obtain ⟨s, hs⟩ := Demo.exists_load midnight
  have hrun : ((Demo.load midnight .empty).toOption.bind fun s =>
      ((ofService s).run ordering).map fun b =>
        (decide (NeverRepeats s ordering), (b.service.users.user? (Demo.userId 0)).isSome,
          (b.service.orders.list.filter fun o =>
            o.owner = some (Demo.userId 0) ∧ o.status = .pending).map (·.id))) =
      some (true, true, [Demo.orderId 0]) := by
    decide
  rw [hs, Except.toOption, Option.bind_some] at hrun
  obtain ⟨b, hb, hrun⟩ := Option.map_eq_some_iff.1 hrun
  rw [Prod.mk.injEq, Prod.mk.injEq, decide_eq_true_iff, Option.isSome_iff_exists] at hrun
  obtain ⟨hids, ⟨user, huser⟩, hpending⟩ := hrun
  obtain ⟨s', hdelete, -, -, -, -, -, hagain⟩ :=
    deletion_cancels_pending (.inr ⟨midnight, hs⟩) hb hids huser
  rw [hpending] at hdelete
  exact ⟨s, b, s', hs, hb, hids, hdelete, hagain⟩

end Switchboard

end OrderDesk
