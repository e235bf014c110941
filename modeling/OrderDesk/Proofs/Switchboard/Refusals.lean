import OrderDesk.Proofs.Service.Perform
import OrderDesk.Proofs.Store.Keys
import OrderDesk.Proofs.Switchboard.Changes

/-!
# Calls on an order that is not pending

Whoever wants to change an order that is not pending, or its status, is refused, and told the
identifier and the status of the order.

* `Service.perform_of_not_pending` — with nothing else happening meanwhile.
* `Call.advance_validating_of_not_pending` — a change that had begun when the order was still
  pending comes to the same, unless its new products are refused first.
* `refused_of_run` — a call that begins when the order is not pending has been refused at every
  later moment, or is about to look at the order, which is still what it was.
* `exists_refusal` — such a call never waits, since nobody holds an order that is not pending.
-/

namespace OrderDesk

variable {o : Order} {slot : Nat}

/-- Requests to change the order with an identifier, or its status.  The changes have to be
readable. -/
inductive Request.Targets (id : OrderId) : Request → Prop
  | revise {inputs : List LineInput} {deltas : List Delta} : Delta.ofInputs inputs = .ok deltas →
      Targets id (.revise id inputs)
  | act {action : OrderAction} : Targets id (.act id action)

/-! ## One operation -/

namespace Order

theorem requirePending_of_not_pending (h : o.status ≠ .pending) :
    o.requirePending = .error (.notPending o.id o.status) :=
  if_neg h

theorem decide_of_not_pending (h : o.status ≠ .pending) (c : OrderCommand) :
    o.decide c = .error (.notPending o.id o.status) := by
  simp only [decide, requirePending_of_not_pending h, bind, Except.bind]

end Order

namespace Service

variable {s : Service}

theorem actOnSlot_of_not_pending (h : o.status ≠ .pending) (action : OrderAction)
    (now : Timestamp) :
    s.actOnSlot slot action o now = (s, .error (.notPending o.id o.status)) := by
  cases action with
  | submit => simp only [actOnSlot, submitSlot, Order.decide_of_not_pending h]
  | cancel =>
    simp only [actOnSlot, cancelSlot, Order.execute, Order.decide_of_not_pending h, bind,
      Except.bind]

theorem beginRevisionAt_of_not_pending {ref : OrderRef} (hslot : s.orders.atSlot? ref.slot = some o)
    (h : o.status ≠ .pending) (deltas : List Delta) :
    s.beginRevisionAt ref deltas = .error (.notPending o.id o.status) := by
  simp only [beginRevisionAt, hslot, Stage.ofOrder, Order.requirePending_of_not_pending h, bind,
    Except.bind]

/-- With nothing else happening meanwhile, the request is refused. -/
theorem perform_of_not_pending {κ : Type} (ask : κ → List ProductId → κ × List Answer)
    (fresh : Uuid) (now : Timestamp) (catalog : κ) {r : Request} (hd : s.orders.Distinct)
    (hslot : s.orders.atSlot? slot = some o) (h : o.status ≠ .pending) (hr : r.Targets o.id) :
    s.perform ask fresh now catalog r = (s, .order (.error (.notPending o.id o.status))) := by
  have hfound : s.orders.slot? o.id = some slot := hd.slot?_eq hslot
  cases hr with
  | @revise inputs deltas hdeltas =>
    have hbegin : s.beginRevision o.id inputs = .error (.notPending o.id o.status) := by
      simp only [beginRevision, revisionTarget, hdeltas, hfound, bind, Except.bind, pure,
        Except.pure]
      exact beginRevisionAt_of_not_pending hslot h deltas
    simp only [perform, reviseOrder, hbegin, run]
  | act => simp only [perform, act, hfound, hslot, actOnSlot_of_not_pending h]

end Service

/-! ## One step -/

namespace Call

variable {fresh : Uuid} {now : Timestamp} {answers : List Answer} {s s' : Service} {c : Call}

/-- The call has found the order in a slot, and looks at it in its next step. -/
def LooksAt (slot : Nat) : Call → Prop
  | .looking ref _ => ref.slot = slot
  | .acting ref _ => ref.slot = slot
  | .asking _ => False
  | .cascading _ _ => False
  | .cancelling _ _ _ => False
  | .ended _ => False

theorem LooksAt.needs (h : c.LooksAt slot) (answers : List Answer) :
    c.result? = none ∧ c.questions = [] ∧ c.needs? answers = some slot := by
  cases c with
  | looking | acting => exact ⟨rfl, rfl, congrArg some h⟩
  | asking | cascading | cancelling | ended => exact h.elim

theorem LooksAt.advance (h : c.LooksAt slot) (hslot : s.orders.atSlot? slot = some o)
    (hp : o.status ≠ .pending) : c.advance fresh now answers s =
      (s, .ended (.order (.error (.notPending o.id o.status)))) := by
  cases c with
  | looking ref deltas =>
    have hslots : ref.slot = slot := h
    subst hslots
    simp only [Call.advance, Service.beginRevisionAt_of_not_pending hslot hp]
  | acting ref action =>
    have hslots : ref.slot = slot := h
    subst hslots
    simp only [Call.advance, hslot, Service.actOnSlot_of_not_pending hp, Request.atOnce]
  | asking | cascading | cancelling | ended => exact h.elim

/-- A change whose order has ceased to be pending fails: with what is wrong with the products that
it would add, if anything is, and otherwise because of the order. -/
theorem advance_validating_of_not_pending {ref : OrderRef} {deltas : List Delta}
    {candidates : List ProductId} (hslot : s.orders.atSlot? ref.slot = some o)
    (hp : o.status ≠ .pending) :
    (Call.asking (.validating ref deltas candidates)).advance fresh now answers s =
      (s, .ended (.order (judge candidates answers >>= fun _ =>
        .error (.notPending o.id o.status)))) := by
  cases hjudge : judge candidates answers with
  | error e => simp only [Call.advance, Stage.resume, hjudge, Stage.fail, bind, Except.bind]
  | ok products =>
    simp only [Call.advance, Stage.resume, hjudge, hslot, Stage.ofHeld,
      Order.requirePending_of_not_pending hp, Stage.fail, bind, Except.bind]

end Call

/-- A call that is about an order first finds it. -/
theorem Starts.looksAt {fresh : Uuid} {now : Timestamp} {s s' : Service} {r : Request} {c : Call}
    (h : Starts fresh now s r s' c) (hd : s.orders.Distinct)
    (hslot : s.orders.atSlot? slot = some o) (hr : r.Targets o.id) : c.LooksAt slot := by
  have hfound : s.orders.slot? o.id = some slot := hd.slot?_eq hslot
  cases hr with
  | revise hdeltas =>
    cases h with
    | looking _ hslot' => exact Option.some.inj (hslot'.symm.trans hfound)
    | reviseFailed hfail =>
      simp only [Service.revisionTarget, hdeltas, hfound, bind, Except.bind] at hfail
      cases hfail
  | act =>
    cases h with
    | acting hslot' => exact Option.some.inj (hslot'.symm.trans hfound)
    | actFailed hnone => cases hnone.symm.trans hfound

/-! ## Every run -/

namespace Switchboard

variable {b b₁ b' : Switchboard} {e : Event} {es : List Event} {id : CallId} {r : Request}

theorem keyed_step (hb : b.calls.Keyed) (h : b.step e = some b') : b'.calls.Keyed := by
  cases moves_of_step h with
  | start _ _ => exact hb.insert _ _
  | advance _ _ _ => exact hb.insert _ _

/-- No call stands twice in the table of calls. -/
theorem keyed_run {s : Service} (h : (ofService s).run es = some b) : b.calls.Keyed :=
  run_preserves (P := fun b => b.calls.Keyed) (fun _ _ _ hb h => keyed_step hb h)
    Table.keyed_empty h

/-- Nobody holds an order that is not pending. -/
theorem Coherent.free (hb : Coherent b) (hkeyed : b.calls.Keyed)
    (hslot : b.service.orders.atSlot? slot = some o) (hp : o.status ≠ .pending) : b.Free slot := by
  -- what a call has planned on an order that it holds is for a pending order
  have hplans : ∀ {ref inputs revision}, Plans b.service.orders ref inputs revision →
      ref.slot ≠ slot := by
    rintro ref inputs revision ⟨deltas, p, -, hslot', -, hpending, -⟩ rfl
    cases hslot.symm.trans hslot'
    exact hp hpending
  intro entry hentry held
  obtain ⟨id, hid⟩ := hkeyed.exists_get? hentry
  obtain ⟨request, c⟩ := entry
  cases hb.serves id _ hid with
  | confirming hplan => exact hplans hplan (Option.some.inj held)
  | pricing hplan => exact hplans hplan (Option.some.inj held)
  | creating | looking | validating | acting | cascading | cancelling | ended => cases held

/-- The call is refused, or is about to be. -/
def Refused (b : Switchboard) (id : CallId) (r : Request) (slot : Nat) (o : Order) : Prop :=
  b.service.orders.atSlot? slot = some o ∧ ∃ c, b.calls.get? id = some ⟨r, c⟩ ∧
    (c.LooksAt slot ∨ c = .ended (.order (.error (.notPending o.id o.status))))

theorem refused_step (hp : o.status ≠ .pending) (hb : b.Refused id r slot o)
    (h : b.step e = some b') : b'.Refused id r slot o := by
  obtain ⟨hslot, c, hc, hrefused⟩ := hb
  obtain ⟨o', hslot', hcontinues⟩ := continues_of_step h hslot
  rw [hcontinues.frozen hp] at hslot'
  refine ⟨hslot', ?_⟩
  by_cases hid : id = e.call
  · subst hid
    cases e with
    | start id request fresh now =>
      cases (step_start_eq_some_iff.1 h).1.symm.trans hc
    | advance id answers fresh now =>
      obtain ⟨entry, hentry, hready, rfl⟩ := step_advance_eq_some_iff.1 h
      cases hentry.symm.trans hc
      rcases hrefused with hlooks | hended
      · refine ⟨_, Table.get?_insert_self .., Or.inr ?_⟩
        exact congrArg Prod.snd (hlooks.advance hslot hp)
      · have hnone := hready.1
        rw [hended] at hnone
        cases hnone
  · exact ⟨c, (get?_calls_of_step h hid).trans hc, hrefused⟩

/-- A call that begins when its order is not pending is refused, or is about to be, at every later
moment. -/
theorem refused_of_run {fresh : Uuid} {now : Timestamp} (hd : b.service.orders.Distinct)
    (hslot : b.service.orders.atSlot? slot = some o) (hp : o.status ≠ .pending)
    (hr : r.Targets o.id) (hstep : b.step (.start id r fresh now) = some b₁)
    (h : b₁.run es = some b') : b'.Refused id r slot o := by
  refine run_preserves (P := fun b => b.Refused id r slot o)
    (fun _ _ _ hb h => refused_step hp hb h) ?_ h
  obtain ⟨-, rfl⟩ := step_start_eq_some_iff.1 hstep
  have hstart := starts_start fresh now b.service r
  refine ⟨hstart.orders_eq ▸ hslot, _, Table.get?_insert_self .., Or.inl ?_⟩
  exact hstart.looksAt hd hslot hr

/-- A call that is about to be refused can go on, and is refused then. -/
theorem exists_refusal {c : Call} (hb : Coherent b) (hkeyed : b.calls.Keyed)
    (hslot : b.service.orders.atSlot? slot = some o) (hp : o.status ≠ .pending)
    (hc : b.calls.get? id = some ⟨r, c⟩) (hlooks : c.LooksAt slot) (fresh : Uuid)
    (now : Timestamp) : ∃ b', b.step (.advance id [] fresh now) = some b' ∧
      b'.service = b.service ∧
      b'.calls.get? id = some ⟨r, .ended (.order (.error (.notPending o.id o.status)))⟩ := by
  obtain ⟨hopen, hquestions, hneeds⟩ := hlooks.needs []
  have hready : b.Ready c [] := by
    refine ⟨Option.isNone_iff_eq_none.2 hopen, (congrArg List.length hquestions).symm, ?_⟩
    intro other hother
    have heq : slot = other := Option.some.inj (hneeds.symm.trans hother)
    exact heq ▸ hb.free hkeyed hslot hp
  have hadvance : c.advance fresh now [] b.service = _ := hlooks.advance hslot hp
  refine ⟨_, step_advance_eq_some_iff.2 ⟨_, hc, hready, rfl⟩, congrArg Prod.fst hadvance, ?_⟩
  rw [Table.get?_insert_self]
  exact congrArg (fun c => some (Entry.mk r c)) (congrArg Prod.snd hadvance)

end Switchboard

end OrderDesk
