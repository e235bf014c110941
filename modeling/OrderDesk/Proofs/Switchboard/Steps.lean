import OrderDesk.Proofs.Service.Operations
import OrderDesk.Proofs.Switchboard.Basic

/-!
# What one step of a call can do

`Starts` and `Advances` list the ways in which a call begins and goes on, each with everything that
has to hold for it.  Every first step is one of the first list (`starts_start`) and every other step
one of the second (`advances_advance`), so what all steps keep is shown by going through the lists.

Only four steps change the orders: a new order is placed, the lines of a held order are replaced,
and an order that is free is submitted or cancelled.
-/

namespace OrderDesk

/-! ## The first step of a call -/

/-- The ways in which a call begins. -/
inductive Starts (fresh : Uuid) (now : Timestamp) (s : Service) : Request → Service → Call → Prop
  | creating {r : OrderRequest} {owner : Option UserId} {items : List LineItem} :
      UserId.parseOwner r.owner = .ok owner → LineItem.ofInputs r.products = .ok items →
      Starts fresh now s (.create r) s (.asking (.creating owner items))
  | createFailed {r : OrderRequest} {e : OrderError} : Service.beginCreate r = .error e →
      Starts fresh now s (.create r) s (.ended (.order (.error e)))
  | looking {id : OrderId} {inputs : List LineInput} {deltas : List Delta} {slot : Nat} :
      Delta.ofInputs inputs = .ok deltas → s.orders.slot? id = some slot →
      Starts fresh now s (.revise id inputs) s (.looking ⟨id, slot⟩ deltas)
  | reviseFailed {id : OrderId} {inputs : List LineInput} {e : OrderError} :
      s.revisionTarget id inputs = .error e →
      Starts fresh now s (.revise id inputs) s (.ended (.order (.error e)))
  | acting {id : OrderId} {action : OrderAction} {slot : Nat} : s.orders.slot? id = some slot →
      Starts fresh now s (.act id action) s (.acting ⟨id, slot⟩ action)
  | actFailed {id : OrderId} {action : OrderAction} : s.orders.slot? id = none →
      Starts fresh now s (.act id action) s (.ended (.order (.error (.notFound id))))
  | registered {r : Registration} {user : User} {users : Accounts} :
      s.users.register fresh now r = .ok (user, users) →
      Starts fresh now s (.register r) { s with users } (.ended (.user (.ok user)))
  | registerFailed {r : Registration} {e : UserError} : s.users.register fresh now r = .error e →
      Starts fresh now s (.register r) s (.ended (.user (.error e)))
  | redeemed {id : UserId} {points : Signed64} {balance : Unsigned64} {users : Accounts} :
      s.users.redeem id now points = .ok (balance, users) →
      Starts fresh now s (.redeem id points) { s with users } (.ended (.points (.ok balance)))
  | redeemFailed {id : UserId} {points : Signed64} {e : UserError} :
      s.users.redeem id now points = .error e →
      Starts fresh now s (.redeem id points) s (.ended (.points (.error e)))
  | awarded {id : UserId} {points balance : Unsigned64} {users : Accounts} :
      s.users.award id now points = .ok (balance, users) →
      Starts fresh now s (.award id points) { s with users } (.ended (.points (.ok balance)))
  | awardFailed {id : UserId} {points : Unsigned64} {e : UserError} :
      s.users.award id now points = .error e →
      Starts fresh now s (.award id points) s (.ended (.points (.error e)))
  | removed {id : UserId} {ids : List OrderId} : s.users.notedOrders? id = some ids →
      Starts fresh now s (.deleteUser id) { s with users := s.users.erase id } (.cascading ids [])
  | removeFailed {id : UserId} : s.users.notedOrders? id = none →
      Starts fresh now s (.deleteUser id) s (.ended (.deleted (.error (.notFound id))))

theorem starts_start (fresh : Uuid) (now : Timestamp) (s : Service) (r : Request) :
    Starts fresh now s r (r.start fresh now s).1 (r.start fresh now s).2 := by
  cases r with
  | create r =>
    cases h : Service.beginCreate r with
    | error e =>
      simp only [Request.start, h]
      exact .createFailed h
    | ok stage =>
      simp only [Request.start, h]
      rw [Service.beginCreate, Fallible.bind_eq_ok_iff] at h
      obtain ⟨owner, howner, h⟩ := h
      rw [Fallible.bind_eq_ok_iff] at h
      obtain ⟨items, hitems, h⟩ := h
      rw [Fallible.pure_eq_ok_iff] at h
      exact h ▸ .creating howner hitems
  | revise id inputs =>
    cases h : s.revisionTarget id inputs with
    | error e =>
      simp only [Request.start, h]
      exact .reviseFailed h
    | ok target =>
      obtain ⟨ref, deltas⟩ := target
      simp only [Request.start, h]
      rw [Service.revisionTarget, Fallible.bind_eq_ok_iff] at h
      obtain ⟨deltas', hdeltas, h⟩ := h
      split at h
      · next slot hslot =>
        cases h
        exact .looking hdeltas hslot
      · cases h
  | act id action =>
    cases h : s.orders.slot? id with
    | none =>
      simp only [Request.start, h]
      exact .actFailed h
    | some slot =>
      simp only [Request.start, h]
      exact .acting h
  | register r =>
    cases h : s.users.register fresh now r with
    | error e =>
      simp only [Request.start, Request.atOnce, Service.register, h]
      exact .registerFailed h
    | ok result =>
      simp only [Request.start, Request.atOnce, Service.register, h]
      exact .registered h
  | redeem id points =>
    cases h : s.users.redeem id now points with
    | error e =>
      simp only [Request.start, Request.atOnce, Service.redeem, h]
      exact .redeemFailed h
    | ok result =>
      simp only [Request.start, Request.atOnce, Service.redeem, h]
      exact .redeemed h
  | award id points =>
    cases h : s.users.award id now points with
    | error e =>
      simp only [Request.start, Request.atOnce, Service.award, h]
      exact .awardFailed h
    | ok result =>
      simp only [Request.start, Request.atOnce, Service.award, h]
      exact .awarded h
  | deleteUser id =>
    cases h : s.users.notedOrders? id with
    | none =>
      simp only [Request.start, Service.removeUser, h]
      exact .removeFailed h
    | some ids =>
      simp only [Request.start, Service.removeUser, h]
      exact .removed h

/-! ## The further steps of a call -/

/-- The ways in which a call goes on. -/
inductive Advances (fresh : Uuid) (now : Timestamp) (answers : List Answer) (s : Service) :
    Call → Service → Call → Prop
  /-- A change looks at its order, and asks about the products that it would add. -/
  | looked {ref : OrderRef} {deltas : List Delta} {o : Order} {revision : Revision} :
      s.orders.atSlot? ref.slot = some o → o.status = .pending → o.revise deltas = .ok revision →
      Advances fresh now answers s (.looking ref deltas) s
        (.asking (.validating ref deltas revision.added))
  | lookFailed {ref : OrderRef} {deltas : List Delta} {e : OrderError} :
      s.beginRevisionAt ref deltas = .error e →
      Advances fresh now answers s (.looking ref deltas) s (.ended (.order (.error e)))
  /-- A change holds its order, and plans on what the order has become. -/
  | held {ref : OrderRef} {deltas : List Delta} {candidates : List ProductId}
      {products : List (ProductId × Product)} {o : Order} {revision : Revision} :
      judge candidates answers = .ok products → s.orders.atSlot? ref.slot = some o →
      o.status = .pending → o.revise deltas = .ok revision →
      Advances fresh now answers s (.asking (.validating ref deltas candidates)) s
        (.asking (Stage.planned ref candidates revision))
  | confirmed {ref : OrderRef} {revision : Revision} {late : List ProductId}
      {products : List (ProductId × Product)} : judge late answers = .ok products →
      Advances fresh now answers s (.asking (.confirming ref revision late)) s
        (.asking (.pricing ref revision))
  /-- A change replaces the lines and the total of the order that it holds. -/
  | revised {ref : OrderRef} {revision : Revision} {total : Decimal} {o : Order} :
      price revision.items answers = .ok total → s.orders.atSlot? ref.slot = some o →
      o.status = .pending →
      Advances fresh now answers s (.asking (.pricing ref revision))
        { s with orders := s.orders.put ref.slot (o.apply (.itemsReplaced revision.items total)) }
        (.ended (.order (.ok (o.apply (.itemsReplaced revision.items total)))))
  /-- A new order is placed, and noted with its owner. -/
  | placed {owner : Option UserId} {items : List LineItem} {products : List (ProductId × Product)}
      {total : Decimal} {s' : Service} : judge (items.map (·.product)) answers = .ok products →
      totalOf products items = .ok total →
      s'.orders = s.orders.insert (.place fresh now owner items total) →
      (owner = none ∧ s'.users = s.users ∨
        ∃ u, owner = some u ∧ s.users.noteOrder? u fresh = some s'.users) →
      Advances fresh now answers s (.asking (.creating owner items)) s'
        (.ended (.order (.ok (.place fresh now owner items total))))
  | askFailed {stage : Stage} {e : OrderError} :
      stage.resume fresh now s answers = .finished s (.error e) →
      Advances fresh now answers s (.asking stage) s (.ended (.order (.error e)))
  /-- An order is submitted, and its owner credited. -/
  | submitted {ref : OrderRef} {o : Order} {s' : Service} : s.orders.atSlot? ref.slot = some o →
      o.status = .pending →
      s'.orders = s.orders.put ref.slot (o.apply (.submitted (loyaltyPoints o.total))) →
      (o.owner = none ∧ s'.users = s.users ∨
        ∃ u balance, o.owner = some u ∧
          s.users.award u now (loyaltyPoints o.total) = .ok (balance, s'.users)) →
      Advances fresh now answers s (.acting ref .submit) s'
        (.ended (.order (.ok (o.apply (.submitted (loyaltyPoints o.total))))))
  | cancelled {ref : OrderRef} {o : Order} : s.orders.atSlot? ref.slot = some o →
      o.status = .pending →
      Advances fresh now answers s (.acting ref .cancel)
        { s with orders := s.orders.put ref.slot (o.apply .cancelled) }
        (.ended (.order (.ok (o.apply .cancelled))))
  | actFailed {ref : OrderRef} {action : OrderAction} {e : OrderError} :
      (∀ o, s.orders.atSlot? ref.slot = some o →
        (s.actOnSlot ref.slot action o now).2 = .error e) →
      Advances fresh now answers s (.acting ref action) s (.ended (.order (.error e)))
  /-- A deletion comes to its end. -/
  | finished {done : List OrderId} :
      Advances fresh now answers s (.cascading [] done) s (.ended (.deleted (.ok done)))
  /-- A deletion passes over an order that is not in the book. -/
  | passedOver {id : OrderId} {rest done : List OrderId} : s.orders.slot? id = none →
      Advances fresh now answers s (.cascading (id :: rest) done) s (.cascading rest done)
  | found {id : OrderId} {slot : Nat} {rest done : List OrderId} : s.orders.slot? id = some slot →
      Advances fresh now answers s (.cascading (id :: rest) done) s
        (.cancelling ⟨id, slot⟩ rest done)
  /-- A deletion cancels an order. -/
  | swept {ref : OrderRef} {o : Order} {rest done : List OrderId} :
      s.orders.atSlot? ref.slot = some o → o.status = .pending →
      Advances fresh now answers s (.cancelling ref rest done)
        { s with orders := s.orders.put ref.slot (o.apply .cancelled) }
        (.cascading rest (done ++ [ref.id]))
  /-- A deletion leaves an order alone. -/
  | spared {ref : OrderRef} {rest done : List OrderId} :
      (∀ o, s.orders.atSlot? ref.slot = some o → o.status ≠ .pending) →
      Advances fresh now answers s (.cancelling ref rest done) s (.cascading rest done)

/-- An order that is free is submitted or cancelled, or nothing happens. -/
theorem advances_acting (fresh : Uuid) (now : Timestamp) (answers : List Answer) (s : Service)
    (ref : OrderRef) (action : OrderAction) :
    Advances fresh now answers s (.acting ref action)
      ((Call.acting ref action).advance fresh now answers s).1
      ((Call.acting ref action).advance fresh now answers s).2 := by
  cases hslot : s.orders.atSlot? ref.slot with
  | none =>
    simp only [Call.advance, hslot]
    exact .actFailed fun o ho => absurd (hslot ▸ ho) (by simp)
  | some o =>
    simp only [Call.advance, hslot, Request.atOnce]
    rcases hact : s.actOnSlot ref.slot action o now with ⟨s', result⟩
    cases result with
    | error e =>
      have hs : s' = s := by
        cases action with
        | submit => exact Service.submitSlot_eq_error hact
        | cancel => exact Service.cancelSlot_eq_error hact
      subst hs
      refine .actFailed fun o' ho' => ?_
      cases hslot.symm.trans ho'
      rw [hact]
    | ok o' =>
      cases action with
      | submit =>
        obtain ⟨hpending, rfl, horders, husers⟩ := Service.submitSlot_eq_ok hact
        exact .submitted hslot hpending horders husers
      | cancel =>
        obtain ⟨hpending, rfl, rfl⟩ := Service.cancelSlot_eq_ok hact
        exact .cancelled hslot hpending

/-- The answers to a stage end the operation or take it to its next stage. -/
theorem advances_asking (fresh : Uuid) (now : Timestamp) (answers : List Answer) (s : Service)
    (stage : Stage) :
    Advances fresh now answers s (.asking stage)
      ((Call.asking stage).advance fresh now answers s).1
      ((Call.asking stage).advance fresh now answers s).2 := by
  cases hresume : stage.resume fresh now s answers with
  | finished s' result =>
    simp only [Call.advance, hresume]
    cases result with
    | error e =>
      have hs : s' = s := Stage.resume_eq_error hresume
      subst hs
      exact .askFailed hresume
    | ok o' =>
      rcases Stage.resume_eq_ok hresume with
        ⟨owner, items, products, total, rfl, hjudge, htotal, hinsert⟩ |
        ⟨ref, revision, total, o, rfl, hprice, hslot, hcommit⟩
      · obtain ⟨rfl, horders, husers⟩ := Service.insertOrder_eq_ok hinsert
        exact .placed hjudge htotal horders husers
      · obtain ⟨hpending, rfl, rfl⟩ := Stage.commit_eq_ok hcommit
        exact .revised hprice hslot hpending
  | waiting next =>
    simp only [Call.advance, hresume]
    rcases Stage.resume_eq_waiting hresume with
      ⟨ref, deltas, candidates, products, o, rfl, hjudge, hslot, hheld⟩ |
      ⟨ref, revision, late, products, rfl, hjudge, rfl⟩
    · obtain ⟨hpending, revision, hrevision, rfl⟩ := Stage.ofHeld_eq_ok hheld
      exact .held hjudge hslot hpending hrevision
    · exact .confirmed hjudge

theorem advances_advance (fresh : Uuid) (now : Timestamp) (answers : List Answer) (s : Service)
    {c : Call} (hc : c.result? = none) :
    Advances fresh now answers s c (c.advance fresh now answers s).1
      (c.advance fresh now answers s).2 := by
  cases c with
  | looking ref deltas =>
    cases h : s.beginRevisionAt ref deltas with
    | error e =>
      simp only [Call.advance, h]
      exact .lookFailed h
    | ok stage =>
      simp only [Call.advance, h]
      rw [Service.beginRevisionAt] at h
      split at h
      · next o hslot =>
        obtain ⟨hpending, revision, hrevision, rfl⟩ := Stage.ofOrder_eq_ok h
        exact .looked hslot hpending hrevision
      · cases h
  | asking stage => exact advances_asking fresh now answers s stage
  | acting ref action => exact advances_acting fresh now answers s ref action
  | cascading rest done =>
    cases rest with
    | nil => exact .finished
    | cons id rest =>
      cases h : s.orders.slot? id with
      | none =>
        simp only [Call.advance, h]
        exact .passedOver h
      | some slot =>
        simp only [Call.advance, h]
        exact .found h
  | cancelling ref rest done =>
    rcases s.orders.cancelSlot_eq ref.slot with ⟨o, hslot, hpending, h⟩ | ⟨hother, h⟩
    · simp only [Call.advance, h, if_true]
      exact .swept hslot hpending
    · simp only [Call.advance, h]
      exact .spared hother
  | ended result => cases hc

/-! ## Events -/

namespace Switchboard

/-- What an event does: one call begins or goes on, and all others stay as they are. -/
inductive Moves (b : Switchboard) : Event → Switchboard → Prop
  | start {id : CallId} {request : Request} {fresh : Uuid} {now : Timestamp} {s' : Service}
      {c : Call} : b.calls.get? id = none → Starts fresh now b.service request s' c →
      Moves b (.start id request fresh now) ⟨s', b.calls.insert id ⟨request, c⟩⟩
  | advance {id : CallId} {answers : List Answer} {fresh : Uuid} {now : Timestamp} {e : Entry}
      {s' : Service} {c : Call} : b.calls.get? id = some e → b.Ready e.call answers →
      Advances fresh now answers b.service e.call s' c →
      Moves b (.advance id answers fresh now) ⟨s', b.calls.insert id ⟨e.request, c⟩⟩

variable {b b' : Switchboard} {e : Event} {es : List Event}

theorem moves_of_step (h : b.step e = some b') : Moves b e b' := by
  cases e with
  | start id request fresh now =>
    obtain ⟨hnew, rfl⟩ := step_start_eq_some_iff.1 h
    exact .start hnew (starts_start fresh now b.service request)
  | advance id answers fresh now =>
    obtain ⟨entry, hentry, hready, rfl⟩ := step_advance_eq_some_iff.1 h
    refine .advance hentry hready ?_
    exact advances_advance fresh now answers b.service (Option.isNone_iff_eq_none.1 hready.1)

/-- What each event keeps holds at the end of a run. -/
theorem run_preserves {P : Switchboard → Prop}
    (step : ∀ b e b', P b → b.step e = some b' → P b') (hb : P b) (h : b.run es = some b') :
    P b' := by
  induction es generalizing b with
  | nil =>
    cases h
    exact hb
  | cons e es ih =>
    obtain ⟨c, hc, hrest⟩ := run_cons_eq_some_iff.1 h
    exact ih (step b e c hb hc) hrest

/-- The calls after an event: only the call to which it happens is another one. -/
theorem get?_calls_of_step (h : b.step e = some b') {id : CallId} (hid : id ≠ e.call) :
    b'.calls.get? id = b.calls.get? id := by
  cases moves_of_step h with
  | start _ _ => exact (Table.get?_insert ..).trans (if_neg fun heq => hid heq.symm)
  | advance _ _ _ => exact (Table.get?_insert ..).trans (if_neg fun heq => hid heq.symm)

/-- A call after an event: it is where it was, or it has begun, or it has gone on. -/
theorem call_of_step (h : b.step e = some b') {id : CallId} {r : Request} {c : Call}
    (hc : b'.calls.get? id = some ⟨r, c⟩) :
    b.calls.get? id = some ⟨r, c⟩ ∨
      (∃ fresh now, Starts fresh now b.service r b'.service c) ∨
      ∃ fresh now answers before, b.calls.get? id = some ⟨r, before⟩ ∧
        Advances fresh now answers b.service before b'.service c := by
  by_cases hid : id = e.call
  · subst hid
    cases moves_of_step h with
    | start _ hstart =>
      cases (Table.get?_insert_self ..).symm.trans hc
      exact Or.inr (Or.inl ⟨_, _, hstart⟩)
    | advance hentry _ hadv =>
      cases (Table.get?_insert_self ..).symm.trans hc
      exact Or.inr (Or.inr ⟨_, _, _, _, hentry, hadv⟩)
  · exact Or.inl ((get?_calls_of_step h hid).symm.trans hc)

end Switchboard

end OrderDesk
