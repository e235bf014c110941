import OrderDesk.Proofs.Service.Steady
import OrderDesk.Proofs.Store.Credits
import OrderDesk.Proofs.Store.Keys

/-!
# Two orders do not get in each other's way

What is done to one order looks at this order and at whether its owner has an account, and it writes
this order and the owner's balance.  Nothing of this is looked at when something is done to another
order; so two such requests can change places, even if both credit the same owner.

The proof splits a request in two.  `Service.plan` looks and does not write: it gives what is to be
written, or the failure.  `Service.write` writes and does not look.  Where the catalog's answers do
not change, a request comes to its plan being written (`perform_request`); what is written for one
order does not affect what is planned for another (`plan_carryOut`), and two writes for different
orders can change places (`carryOut_comm`).

* `Service.changes_of_two_orders_commute` — two requests, each about an order of its own, can change
  places.
-/

namespace OrderDesk

/-- What can be done to an order. -/
inductive OrderTask where
  | revise (inputs : List LineInput)
  | act (action : OrderAction)

/-- The request to do something to an order. -/
def OrderTask.request (id : OrderId) : OrderTask → Request
  | .revise inputs => .revise id inputs
  | .act action => .act id action

/-- What is written for an order: the order in its slot, and the points that a user is credited. -/
structure Write where
  slot : Nat
  order : Order
  credit : Option (UserId × Unsigned64)

/-- The command that a change of status comes to. -/
def OrderAction.command : OrderAction → OrderCommand
  | .submit => .submit
  | .cancel => .cancel

/-- Who is credited when the status of an order changes: the owner, when it is submitted. -/
def OrderAction.credited? (o : Order) : OrderAction → Option UserId
  | .submit => o.owner
  | .cancel => none

/-- The order with its lines changed, at the prices that the catalog answers. -/
def Order.changedBy (answer : ProductId → Answer) (deltas : List Delta) (o : Order) :
    Except OrderError Order := do
  o.requirePending
  let revision ← o.revise deltas
  let _ ← judge revision.added (revision.added.map answer)
  let total ← priceBy answer revision.items
  let (o', _) ← o.execute (.replaceItems revision.items total)
  return o'

namespace Order

theorem changedBy_eq_ok {answer : ProductId → Answer} {deltas : List Delta} {o o' : Order}
    (h : o.changedBy answer deltas = .ok o') : ∃ e, o' = o.apply e := by
  simp only [changedBy, Fallible.bind_eq_ok_iff] at h
  obtain ⟨-, -, revision, -, -, -, total, -, ⟨o₁, e⟩, hexec, h⟩ := h
  rw [Fallible.pure_eq_ok_iff] at h
  subst h
  exact ⟨e, (execute_eq_ok_iff.1 hexec).2⟩

theorem apply_owner (o : Order) (e : OrderEvent) : (o.apply e).owner = o.owner := by
  cases e <;> rfl

end Order

/-! ## Users -/

namespace Write

/-- The users after a write. -/
def usersAfter (w : Write) (now : Timestamp) (users : Accounts) : Accounts :=
  match w.credit with
  | none => users
  | some (owner, points) => users.credit owner now points

/-- The users with the balance raised that a write raises. -/
def raise (w : Write) (users : Accounts) : Accounts :=
  match w.credit with
  | none => users
  | some (owner, points) => users.raise owner points

/-- Who has an account keeps it, and nobody gets one. -/
theorem contains_usersAfter (w : Write) (now : Timestamp) (users : Accounts) (u : UserId) :
    (w.usersAfter now users).contains u = users.contains u := by
  unfold usersAfter
  split
  · rfl
  · next owner points _ =>
    have hnone := Table.get?_amend_eq_none_iff users owner u (Account.credited now points)
    rw [Bool.eq_iff_iff]
    unfold Table.contains
    rw [Option.isSome_iff_ne_none, Option.isSome_iff_ne_none]
    exact not_congr hnone

theorem timeless_usersAfter (w : Write) (now : Timestamp) (users : Accounts) :
    (w.usersAfter now users).timeless = w.raise users.timeless := by
  unfold usersAfter raise
  split
  · rfl
  · exact users.timeless_credit _ now _

theorem raise_comm (w w' : Write) (users : Accounts) :
    w'.raise (w.raise users) = w.raise (w'.raise users) := by
  unfold raise
  split
  · rfl
  · split
    · rfl
    · exact users.raise_comm _ _ _ _

end Write

namespace Service

variable {κ : Type} {ask ask' : κ → List ProductId → κ × List Answer}
  {answer answer' : ProductId → Answer} {s s' : Service} {id id' : OrderId} {fresh : Uuid}
  {now now' : Timestamp} {catalog : κ} {o : Order} {w w' : Write}

/-! ## Looking and writing -/

/-- The slot of an order and the order. -/
def locate (s : Service) (id : OrderId) : Except OrderError (Nat × Order) :=
  match s.orders.slot? id with
  | none => .error (.notFound id)
  | some slot =>
    match s.orders.atSlot? slot with
    | none => .error (.notFound id)
    | some o => .ok (slot, o)

/-- What is to be written to change the status of an order. -/
def planAct (s : Service) (slot : Nat) (o : Order) (action : OrderAction) :
    Except OrderError Write := do
  let (o', _) ← o.execute action.command
  match action.credited? o with
  | none => return ⟨slot, o', none⟩
  | some owner =>
    if s.users.contains owner then return ⟨slot, o', some (owner, o'.accrued)⟩
    else .error (.ownerNotFound owner)

/-- What is to be written to do something to an order. -/
def plan (answer : ProductId → Answer) (s : Service) (id : OrderId) :
    OrderTask → Except OrderError Write
  | .revise inputs => do
    let deltas ← Delta.ofInputs inputs
    let (slot, o) ← s.locate id
    let o' ← o.changedBy answer deltas
    return ⟨slot, o', none⟩
  | .act action => do
    let (slot, o) ← s.locate id
    s.planAct slot o action

/-- Writes. -/
def write (s : Service) (now : Timestamp) (w : Write) : Service :=
  ⟨s.orders.put w.slot w.order, w.usersAfter now s.users⟩

/-- Writes what has been planned, unless the plan has failed. -/
def carryOut (s : Service) (now : Timestamp) :
    Except OrderError Write → Service × Except OrderError Order
  | .error e => (s, .error e)
  | .ok w => (s.write now w, .ok w.order)

theorem locate_of_none (h : s.orders.slot? id = none) : s.locate id = .error (.notFound id) := by
  rw [locate, h]

theorem locate_of_some {slot : Nat} (h : s.orders.slot? id = some slot)
    (hat : s.orders.atSlot? slot = some o) : s.locate id = .ok (slot, o) := by
  simp only [locate, h, hat]

/-! ## Requests come to plans -/

theorem settle_pricing_eq (hask : Steady ask answer) {ref : OrderRef} {revision : Revision}
    (hat : s.orders.atSlot? ref.slot = some o) :
    (s.settle ask fresh now catalog (.pricing ref revision)).2 =
      match priceBy answer revision.items with
      | .error e => (s, .error e)
      | .ok total => Stage.commit s ref revision total o := by
  have hprice : price revision.items (ask catalog (Stage.pricing ref revision).questions).2 =
      priceBy answer revision.items := by
    rw [hask]
    exact congrArg _ List.map_map
  cases htotal : priceBy answer revision.items with
  | error e =>
    rw [htotal] at hprice
    exact congrArg Prod.snd (settle_of_finished
      (by simp only [Stage.resume, hprice, Stage.fail]))
  | ok total =>
    rw [htotal] at hprice
    exact congrArg Prod.snd (settle_of_finished (by simp only [Stage.resume, hprice, hat]; rfl))

theorem settle_validating_eq (hask : Steady ask answer) {ref : OrderRef} {deltas : List Delta}
    {revision : Revision} (hat : s.orders.atSlot? ref.slot = some o)
    (hpending : o.status = .pending) (hrevision : o.revise deltas = .ok revision) :
    (s.settle ask fresh now catalog (.validating ref deltas revision.added)).2 =
      match judge revision.added (revision.added.map answer) with
      | .error e => (s, .error e)
      | .ok _ => (s.settle ask fresh now catalog (.pricing ref revision)).2 := by
  have hjudge : judge revision.added
      (ask catalog (Stage.validating ref deltas revision.added).questions).2 =
      judge revision.added (revision.added.map answer) := by
    rw [hask]
    rfl
  cases hjudged : judge revision.added (revision.added.map answer) with
  | error e =>
    rw [hjudged] at hjudge
    exact congrArg Prod.snd (settle_of_finished
      (by simp only [Stage.resume, hjudge, Stage.fail]))
  | ok judged =>
    rw [hjudged] at hjudge
    have hheld : Stage.ofHeld ref deltas revision.added o = .ok (.pricing ref revision) :=
      Stage.ofHeld_added hpending hrevision
    rw [settle_of_waiting (by simp only [Stage.resume, hjudge, hat, hheld]; rfl)]
    rw [settle_pricing_eq hask hat, settle_pricing_eq hask hat]

/-- A change that has found its order comes to the order being changed and put in its place. -/
theorem run_beginRevisionAt (hask : Steady ask answer) (ref : OrderRef) {deltas : List Delta}
    (hat : s.orders.atSlot? ref.slot = some o) :
    (s.run ask fresh now catalog (s.beginRevisionAt ref deltas)).2 =
      s.carryOut now ((o.changedBy answer deltas).map fun o' => ⟨ref.slot, o', none⟩) := by
  have hbegin : s.beginRevisionAt ref deltas = Stage.ofOrder ref deltas o := by
    rw [beginRevisionAt, hat]
  rw [hbegin, Stage.ofOrder, Order.changedBy]
  cases hpending : o.requirePending with
  | error e => rfl
  | ok u =>
    cases hrevision : o.revise deltas with
    | error e => rfl
    | ok revision =>
      have hstatus := Order.requirePending_eq_ok_iff.1 hpending
      refine (settle_validating_eq hask hat hstatus hrevision).trans ?_
      rw [settle_pricing_eq hask hat]
      show _ = s.carryOut now
        (Except.map _ (judge revision.added (revision.added.map answer) >>= _))
      cases judge revision.added (revision.added.map answer) with
      | error e => rfl
      | ok judged =>
        show _ = s.carryOut now (Except.map _ (priceBy answer revision.items >>= _))
        cases priceBy answer revision.items with
        | error e => rfl
        | ok total =>
          show Stage.commit s ref revision total o =
            s.carryOut now (Except.map _ (o.execute (.replaceItems revision.items total) >>= _))
          rw [Stage.commit]
          cases o.execute (.replaceItems revision.items total) with
          | error e => rfl
          | ok executed => rfl

theorem reviseOrder_eq (hask : Steady ask answer) (inputs : List LineInput) :
    (s.reviseOrder ask now catalog id inputs).2 =
      s.carryOut now (s.plan answer id (.revise inputs)) := by
  rw [reviseOrder, beginRevision, revisionTarget, plan]
  cases Delta.ofInputs inputs with
  | error e => rfl
  | ok deltas =>
    cases hslot : s.orders.slot? id with
    | none =>
      rw [locate_of_none hslot]
      rfl
    | some slot =>
      obtain ⟨o, hat, -⟩ := OrderBook.exists_of_slot? hslot
      rw [locate_of_some hslot hat]
      refine (run_beginRevisionAt hask ⟨id, slot⟩ hat).trans ?_
      show _ = s.carryOut now (o.changedBy answer deltas >>= _)
      cases o.changedBy answer deltas with
      | error e => rfl
      | ok o' => rfl

theorem submitSlot_eq (slot : Nat) (o : Order) :
    s.submitSlot slot o now = s.carryOut now (s.planAct slot o .submit) := by
  rw [submitSlot, planAct, Order.execute]
  show _ = s.carryOut now ((o.decide .submit >>= fun e => .ok (o.apply e, e)) >>= _)
  cases o.decide .submit with
  | error e => rfl
  | ok event =>
    show _ = s.carryOut now (match o.owner with
      | none => .ok ⟨slot, o.apply event, none⟩
      | some owner =>
        if s.users.contains owner then
          .ok ⟨slot, o.apply event, some (owner, (o.apply event).accrued)⟩
        else .error (.ownerNotFound owner))
    cases o.owner with
    | none => rfl
    | some owner =>
      dsimp only
      cases haccount : s.users.get? owner with
      | none =>
        rw [Accounts.award_of_none haccount, Table.contains, haccount]
        rfl
      | some account =>
        obtain ⟨balance, haward⟩ := Accounts.award_of_get? haccount now (o.apply event).accrued
        rw [haward, Table.contains, haccount]
        rfl

theorem act_eq (action : OrderAction) :
    s.act id action now = s.carryOut now (s.plan answer id (.act action)) := by
  rw [act, plan]
  cases hslot : s.orders.slot? id with
  | none =>
    rw [locate_of_none hslot]
    rfl
  | some slot =>
    obtain ⟨o, hat, -⟩ := OrderBook.exists_of_slot? hslot
    simp only [locate_of_some hslot hat, hat]
    cases action with
    | submit => exact submitSlot_eq slot o
    | cancel =>
      show s.cancelSlot slot o = s.carryOut now (o.execute .cancel >>= _)
      rw [cancelSlot]
      cases o.execute .cancel with
      | error e => rfl
      | ok executed => rfl

/-! ## Plans for one order and writes for another -/

/-- A write is for an order: it puts an order of this identifier and its owner in its slot. -/
structure WritesTo (s : Service) (id : OrderId) (w : Write) : Prop where
  slot : s.orders.slot? id = some w.slot
  replaces : ∃ o, s.orders.atSlot? w.slot = some o ∧ o.id = id ∧ w.order.id = o.id ∧
    w.order.owner = o.owner

theorem locate_eq_ok {slot : Nat} (h : s.locate id = .ok (slot, o)) :
    s.orders.slot? id = some slot ∧ s.orders.atSlot? slot = some o ∧ o.id = id := by
  cases hslot : s.orders.slot? id with
  | none => cases (locate_of_none hslot).symm.trans h
  | some slot' =>
    obtain ⟨o', hat, hid⟩ := OrderBook.exists_of_slot? hslot
    cases (locate_of_some hslot hat).symm.trans h
    exact ⟨rfl, hat, hid⟩

theorem planAct_eq_ok {slot : Nat} {action : OrderAction} (h : s.planAct slot o action = .ok w) :
    w.slot = slot ∧ ∃ e, w.order = o.apply e := by
  rw [planAct, Fallible.bind_eq_ok_iff] at h
  obtain ⟨⟨o', e⟩, hexec, h⟩ := h
  obtain ⟨-, rfl⟩ := Order.execute_eq_ok_iff.1 hexec
  dsimp only at h
  split at h
  · cases h
    exact ⟨rfl, e, rfl⟩
  · split at h <;> cases h
    exact ⟨rfl, e, rfl⟩

theorem plan_eq_ok {task : OrderTask} (h : s.plan answer id task = .ok w) :
    ∃ o e, s.locate id = .ok (w.slot, o) ∧ w.order = o.apply e := by
  cases task with
  | revise inputs =>
    rw [plan, Fallible.bind_eq_ok_iff] at h
    obtain ⟨deltas, -, h⟩ := h
    rw [Fallible.bind_eq_ok_iff] at h
    obtain ⟨⟨slot, o⟩, hlocate, h⟩ := h
    rw [Fallible.bind_eq_ok_iff] at h
    obtain ⟨o', hchanged, h⟩ := h
    rw [Fallible.pure_eq_ok_iff] at h
    subst h
    obtain ⟨e, rfl⟩ := Order.changedBy_eq_ok hchanged
    exact ⟨o, e, hlocate, rfl⟩
  | act action =>
    rw [plan, Fallible.bind_eq_ok_iff] at h
    obtain ⟨⟨slot, o⟩, hlocate, h⟩ := h
    obtain ⟨rfl, e, horder⟩ := planAct_eq_ok h
    exact ⟨o, e, hlocate, horder⟩

theorem writesTo_of_plan {task : OrderTask} (h : s.plan answer id task = .ok w) :
    s.WritesTo id w := by
  obtain ⟨o, e, hlocate, horder⟩ := plan_eq_ok h
  obtain ⟨hslot, hat, hid⟩ := locate_eq_ok hlocate
  exact ⟨hslot, o, hat, hid, horder ▸ o.apply_id e, horder ▸ o.apply_owner e⟩

namespace WritesTo

variable (h : s.WritesTo id w) (hne : id ≠ id')

include h

/-- Where an order is found does not change. -/
theorem slot?_write (now : Timestamp) (other : OrderId) :
    (s.write now w).orders.slot? other = s.orders.slot? other := by
  obtain ⟨o, hat, -, hid, howner⟩ := h.replaces
  refine OrderBook.lastSlot?_congr ?_
  rw [← OrderBook.map_fst_keys, ← OrderBook.map_fst_keys]
  exact congrArg _ (OrderBook.keys_put hat hid howner)

include hne

/-- Other orders are in other slots. -/
theorem slot_ne {slot : Nat} (hslot : s.orders.slot? id' = some slot) : w.slot ≠ slot := by
  rintro rfl
  obtain ⟨o, hat, hid, -⟩ := h.replaces
  obtain ⟨o', hat', hid'⟩ := OrderBook.exists_of_slot? hslot
  cases hat.symm.trans hat'
  exact hne (hid.symm.trans hid')

theorem locate_write (now : Timestamp) : (s.write now w).locate id' = s.locate id' := by
  cases hslot : s.orders.slot? id' with
  | none => rw [locate_of_none hslot, locate_of_none ((h.slot?_write now id').trans hslot)]
  | some slot =>
    obtain ⟨o, hat, -⟩ := OrderBook.exists_of_slot? hslot
    rw [locate_of_some hslot hat]
    refine locate_of_some ((h.slot?_write now id').trans hslot) ?_
    exact (s.orders.atSlot?_put_of_ne w.order (h.slot_ne hne hslot)).trans hat

/-- What is written for an order does not affect what is planned for another. -/
theorem plan_write (now : Timestamp) (task : OrderTask) :
    (s.write now w).plan answer id' task = s.plan answer id' task := by
  have hlocate := h.locate_write hne now
  have husers : ∀ u, (s.write now w).users.contains u = s.users.contains u :=
    w.contains_usersAfter now s.users
  cases task with
  | revise inputs => simp only [plan, hlocate]
  | act action => simp only [plan, planAct, hlocate, husers]

end WritesTo

theorem carryOut_snd (s : Service) (now : Timestamp) (p : Except OrderError Write) :
    (s.carryOut now p).2 = p.map Write.order := by
  cases p <;> rfl

theorem plan_carryOut (hne : id ≠ id') (now : Timestamp) (task task' : OrderTask) :
    (s.carryOut now (s.plan answer id task)).1.plan answer' id' task' =
      s.plan answer' id' task' := by
  cases hplan : s.plan answer id task with
  | error e => rfl
  | ok w => exact (writesTo_of_plan hplan).plan_write hne now task'

/-- But for the times at which users were last changed, plans for two orders can be carried out in
any order. -/
theorem carryOut_comm (hne : id ≠ id') {task task' : OrderTask} {p p' : Except OrderError Write}
    (hp : s.plan answer id task = p) (hp' : s.plan answer' id' task' = p')
    (now₁ now₂ now₃ now₄ : Timestamp) :
    ((s.carryOut now₁ p).1.carryOut now₂ p').1.orders =
        ((s.carryOut now₃ p').1.carryOut now₄ p).1.orders ∧
      ((s.carryOut now₁ p).1.carryOut now₂ p').1.users.timeless =
        ((s.carryOut now₃ p').1.carryOut now₄ p).1.users.timeless := by
  cases p with
  | error e =>
    cases p' with
    | error e' => exact ⟨rfl, rfl⟩
    | ok w' =>
      refine ⟨rfl, ?_⟩
      simp only [carryOut, write, Write.timeless_usersAfter]
  | ok w =>
    cases p' with
    | error e' =>
      refine ⟨rfl, ?_⟩
      simp only [carryOut, write, Write.timeless_usersAfter]
    | ok w' =>
      have hslots : w.slot ≠ w'.slot :=
        (writesTo_of_plan hp).slot_ne hne (writesTo_of_plan hp').slot
      constructor
      · exact congrArg OrderBook.mk (List.set_comm _ _ hslots)
      · simp only [carryOut, write, Write.timeless_usersAfter]
        exact w.raise_comm w' s.users.timeless

theorem perform_request (hask : Steady ask answer) (fresh : Uuid) (now : Timestamp) (catalog : κ)
    (s : Service) (id : OrderId) (task : OrderTask) :
    s.perform ask fresh now catalog (task.request id) =
      ((s.carryOut now (s.plan answer id task)).1,
        .order ((s.plan answer id task).map Write.order)) := by
  rw [← carryOut_snd s now]
  cases task with
  | revise inputs =>
    rw [← reviseOrder_eq hask inputs]
    rfl
  | act action =>
    rw [← act_eq action]
    rfl

/-- **Two orders do not get in each other's way.**  Let the catalog's answers not change, though two
callers may get different ones, and let something be done to each of two orders.  Whichever comes
first, each has the same result, a failure included, and the orders and users come out the same, but
for the times at which users were last changed. -/
theorem changes_of_two_orders_commute (hask : Steady ask answer) (hask' : Steady ask' answer')
    (hne : id ≠ id') (s : Service) (task task' : OrderTask) (fresh fresh' : Uuid)
    (now₁ now₂ now₃ now₄ : Timestamp) (catalog₁ catalog₂ catalog₃ catalog₄ : κ) :
    ∃ result result' s₁ s₂ s₃ s₄,
      s.perform ask fresh now₁ catalog₁ (task.request id) = (s₁, result) ∧
      s₁.perform ask' fresh' now₂ catalog₂ (task'.request id') = (s₂, result') ∧
      s.perform ask' fresh' now₃ catalog₃ (task'.request id') = (s₃, result') ∧
      s₃.perform ask fresh now₄ catalog₄ (task.request id) = (s₄, result) ∧
      s₂.orders = s₄.orders ∧ s₂.users.timeless = s₄.users.timeless := by
  obtain ⟨horders, husers⟩ := carryOut_comm hne (rfl : s.plan answer id task = _)
    (rfl : s.plan answer' id' task' = _) now₁ now₂ now₃ now₄
  refine ⟨_, _, _, _, _, _, perform_request hask fresh now₁ catalog₁ s id task, ?_,
    perform_request hask' fresh' now₃ catalog₃ s id' task', ?_, horders, husers⟩
  · rw [perform_request hask', plan_carryOut hne]
  · rw [perform_request hask, plan_carryOut hne.symm]

/-! Two bills of a user who is three points short of the largest balance; one earns two points and
the other five. -/

namespace Rehearsal

open Switchboard.Rehearsal (midnight)

def closed (catalog : Unit) (ids : List ProductId) : Unit × List Answer :=
  (catalog, ids.map fun _ => .error (.unavailable "closed"))

theorem steady_closed : Steady closed fun _ => .error (.unavailable "closed") := fun _ _ => rfl

def regular : UserId := .ofNat 9

def number (n : Nat) : OrderId := .ofNat n

def bill (n : Nat) (cents : UInt32) : Order :=
  .place (number n) midnight (some regular) [] (.ofHundredths cents)

def account : Account where
  user := ⟨regular, ⟨"joe", by decide, by decide, by decide⟩, ⟨"joe@example.com", by decide⟩, "Joe",
    "Roe", ⟨18446744073709551612, by decide, by decide⟩, midnight, midnight⟩
  orders := [number 1, number 2]

def counter : Service := ⟨⟨[bill 1 2500, bill 2 5000]⟩, ⟨[(regular, account)]⟩⟩

end Rehearsal

open Rehearsal in
open Switchboard.Rehearsal (midnight) in
theorem changes_of_two_orders_commute_at_the_limit :
    ∃ result result' s₁ s₂ s₃ s₄,
      counter.perform closed .nil midnight () (.act (number 1) .submit) = (s₁, result) ∧
      s₁.perform closed .nil ⟨1, 0, 0⟩ () (.act (number 2) .submit) = (s₂, result') ∧
      counter.perform closed .nil ⟨2, 0, 0⟩ () (.act (number 2) .submit) = (s₃, result') ∧
      s₃.perform closed .nil ⟨3, 0, 0⟩ () (.act (number 1) .submit) = (s₄, result) ∧
      s₂.orders = s₄.orders ∧ s₂.users.timeless = s₄.users.timeless ∧
      (s₁.users.balance regular).val = 18446744073709551614 ∧
      (s₂.users.balance regular).val = 18446744073709551615 ∧
      (s₃.users.balance regular).val = 18446744073709551615 := by
  obtain ⟨result, result', s₁, s₂, s₃, s₄, h₁, h₂, h₃, h₄, horders, husers⟩ :=
    changes_of_two_orders_commute steady_closed steady_closed (by decide : number 1 ≠ number 2)
      counter (.act .submit) (.act .submit) .nil .nil midnight ⟨1, 0, 0⟩ ⟨2, 0, 0⟩ ⟨3, 0, 0⟩
      () () () ()
  refine ⟨result, result', s₁, s₂, s₃, s₄, h₁, h₂, h₃, h₄, horders, husers, ?_, ?_, ?_⟩
  · cases h₁
    rfl
  · cases h₁
    cases h₂
    rfl
  · cases h₃
    rfl

end Service

end OrderDesk
