import OrderDesk.Proofs.Fallible
import OrderDesk.Service.Flow

/-!
# What the operations of the service do

Each operation on one order is described once: what has to hold for it to succeed, and what the
service is afterwards.  A failure leaves the service as it was.
-/

namespace OrderDesk

namespace Order

theorem requirePending_eq_ok_iff {o : Order} {u : Unit} :
    o.requirePending = .ok u ↔ o.status = .pending := by
  unfold requirePending
  split <;> simp_all

theorem decide_eq_ok {o : Order} {c : OrderCommand} {e : OrderEvent} (h : o.decide c = .ok e) :
    o.status = .pending := by
  unfold Order.decide at h
  rw [Fallible.bind_eq_ok_iff] at h
  obtain ⟨u, hu, -⟩ := h
  exact requirePending_eq_ok_iff.1 hu

/-- What a pending order makes of a command. -/
theorem decide_of_pending {o : Order} (h : o.status = .pending) :
    o.decide .submit = .ok (.submitted (loyaltyPoints o.total)) ∧
      o.decide .cancel = .ok .cancelled := by
  have hp : o.requirePending = .ok () := requirePending_eq_ok_iff.2 h
  simp only [decide, hp, bind, Except.bind, and_self]

theorem execute_eq_ok_iff {o o' : Order} {c : OrderCommand} {e : OrderEvent} :
    o.execute c = .ok (o', e) ↔ o.decide c = .ok e ∧ o' = o.apply e := by
  rw [execute, Fallible.bind_eq_ok_iff]
  constructor
  · rintro ⟨e', he', h⟩
    rw [Fallible.pure_eq_ok_iff, Prod.mk.injEq] at h
    obtain ⟨ho, rfl⟩ := h
    exact ⟨he', ho.symm⟩
  · rintro ⟨he, rfl⟩
    exact ⟨e, he, rfl⟩

end Order

namespace Service

variable {s s' : Service} {o o' : Order}

theorem insertOrder_eq_ok (h : s.insertOrder o = (s', .ok o')) :
    o' = o ∧ s'.orders = s.orders.insert o ∧
      (o.owner = none ∧ s'.users = s.users ∨
        ∃ owner, o.owner = some owner ∧ s.users.noteOrder? owner o.id = some s'.users) := by
  unfold insertOrder at h
  split at h
  · next howner =>
    cases h
    exact ⟨rfl, rfl, Or.inl ⟨howner, rfl⟩⟩
  · next owner howner =>
    split at h
    · cases h
    · next users husers =>
      cases h
      exact ⟨rfl, rfl, Or.inr ⟨owner, howner, husers⟩⟩

theorem insertOrder_eq_error {e : OrderError} (h : s.insertOrder o = (s', .error e)) : s' = s := by
  unfold insertOrder at h
  split at h
  · cases h
  · split at h <;> cases h
    rfl

theorem submitSlot_eq_ok {slot : Nat} {now : Timestamp}
    (h : s.submitSlot slot o now = (s', .ok o')) :
    o.status = .pending ∧ o' = o.apply (.submitted (loyaltyPoints o.total)) ∧
      s'.orders = s.orders.put slot o' ∧
      (o.owner = none ∧ s'.users = s.users ∨
        ∃ owner balance, o.owner = some owner ∧
          s.users.award owner now (loyaltyPoints o.total) = .ok (balance, s'.users)) := by
  unfold submitSlot at h
  split at h
  · cases h
  · next event hevent =>
    have hpending : o.status = .pending := Order.decide_eq_ok hevent
    rw [(Order.decide_of_pending hpending).1] at hevent
    cases hevent
    dsimp only at h
    split at h
    · next howner =>
      cases h
      exact ⟨hpending, rfl, rfl, Or.inl ⟨howner, rfl⟩⟩
    · next owner howner =>
      split at h
      · cases h
      · next balance users haward =>
        cases h
        exact ⟨hpending, rfl, rfl, Or.inr ⟨owner, balance, howner, haward⟩⟩

theorem submitSlot_eq_error {slot : Nat} {now : Timestamp} {e : OrderError}
    (h : s.submitSlot slot o now = (s', .error e)) : s' = s := by
  unfold submitSlot at h
  split at h
  · cases h
    rfl
  · dsimp only at h
    split at h
    · cases h
    · split at h <;> cases h
      rfl

theorem cancelSlot_eq_ok {slot : Nat} (h : s.cancelSlot slot o = (s', .ok o')) :
    o.status = .pending ∧ o' = o.apply .cancelled ∧
      s' = { s with orders := s.orders.put slot o' } := by
  unfold cancelSlot at h
  split at h
  · cases h
  · next o₁ event hexec =>
    cases h
    obtain ⟨hevent, rfl⟩ := Order.execute_eq_ok_iff.1 hexec
    have hpending : o.status = .pending := Order.decide_eq_ok hevent
    rw [(Order.decide_of_pending hpending).2] at hevent
    cases hevent
    exact ⟨hpending, rfl, rfl⟩

theorem cancelSlot_eq_error {slot : Nat} {e : OrderError}
    (h : s.cancelSlot slot o = (s', .error e)) : s' = s := by
  unfold cancelSlot at h
  split at h <;> cases h
  rfl

end Service

/-- Cancelling in the book cancels the order in the slot if it is pending, and otherwise changes
nothing. -/
theorem OrderBook.cancelSlot_eq (b : OrderBook) (slot : Nat) :
    (∃ o, b.atSlot? slot = some o ∧ o.status = .pending ∧
        b.cancelSlot slot = (b.put slot (o.apply .cancelled), true)) ∨
      (∀ o, b.atSlot? slot = some o → o.status ≠ .pending) ∧ b.cancelSlot slot = (b, false) := by
  unfold cancelSlot
  cases hslot : b.atSlot? slot with
  | none =>
    right
    exact ⟨fun o ho => absurd ho (by simp), rfl⟩
  | some o =>
    by_cases hp : o.status = .pending
    · left
      refine ⟨o, rfl, hp, ?_⟩
      have hexec : o.execute .cancel = .ok (o.apply .cancelled, .cancelled) :=
        Order.execute_eq_ok_iff.2 ⟨(Order.decide_of_pending hp).2, rfl⟩
      simp only [hexec]
    · right
      refine ⟨fun o' ho' => by cases ho'; exact hp, ?_⟩
      cases hexec : o.execute .cancel with
      | error e => simp only [hexec]
      | ok r => exact absurd (Order.decide_eq_ok (Order.execute_eq_ok_iff.1 hexec).1) hp

namespace Stage

/-- The next stage of a change that has been planned on a held order. -/
def planned (ref : OrderRef) (validated : List ProductId) (revision : Revision) : Stage :=
  let late := revision.added.filter fun id => !validated.contains id
  if late.isEmpty then .pricing ref revision else .confirming ref revision late

variable {ref : OrderRef} {deltas : List Delta} {o : Order} {stage : Stage}

theorem ofOrder_eq_ok (h : ofOrder ref deltas o = .ok stage) :
    o.status = .pending ∧ ∃ revision, o.revise deltas = .ok revision ∧
      stage = .validating ref deltas revision.added := by
  rw [ofOrder, Fallible.bind_eq_ok_iff] at h
  obtain ⟨u, hpending, h⟩ := h
  rw [Fallible.bind_eq_ok_iff] at h
  obtain ⟨revision, hrevision, h⟩ := h
  rw [Fallible.pure_eq_ok_iff] at h
  exact ⟨Order.requirePending_eq_ok_iff.1 hpending, revision, hrevision, h.symm⟩

theorem ofHeld_eq_ok {validated : List ProductId} (h : ofHeld ref deltas validated o = .ok stage) :
    o.status = .pending ∧ ∃ revision, o.revise deltas = .ok revision ∧
      stage = planned ref validated revision := by
  rw [ofHeld, Fallible.bind_eq_ok_iff] at h
  obtain ⟨u, hpending, h⟩ := h
  rw [Fallible.bind_eq_ok_iff] at h
  obtain ⟨revision, hrevision, h⟩ := h
  rw [Fallible.pure_eq_ok_iff] at h
  exact ⟨Order.requirePending_eq_ok_iff.1 hpending, revision, hrevision, h.symm⟩

theorem commit_eq_ok {s s' : Service} {revision : Revision} {total : Decimal} {o' : Order}
    (h : commit s ref revision total o = (s', .ok o')) :
    o.status = .pending ∧ o' = o.apply (.itemsReplaced revision.items total) ∧
      s' = { s with orders := s.orders.put ref.slot o' } := by
  unfold commit at h
  split at h
  · cases h
  · next o₁ event hexec =>
    cases h
    obtain ⟨hevent, rfl⟩ := Order.execute_eq_ok_iff.1 hexec
    have hpending : o.status = .pending := Order.decide_eq_ok hevent
    have hp : o.requirePending = .ok () := Order.requirePending_eq_ok_iff.2 hpending
    simp only [Order.decide, hp, bind, Except.bind] at hevent
    split at hevent
    · cases hevent
    · cases hevent
      exact ⟨hpending, rfl, rfl⟩

theorem commit_eq_error {s s' : Service} {revision : Revision} {total : Decimal} {e : OrderError}
    (h : commit s ref revision total o = (s', .error e)) : s' = s := by
  unfold commit at h
  split at h <;> cases h
  rfl

/-! ### Answers -/

variable {fresh : OrderId} {now : Timestamp} {s s' : Service} {answers : List Answer}

/-- An operation that fails leaves the service as it was. -/
theorem resume_eq_error {e : OrderError}
    (h : stage.resume fresh now s answers = .finished s' (.error e)) : s' = s := by
  cases stage with
  | creating owner items =>
    simp only [resume, fail] at h
    split at h
    · cases h
      rfl
    · split at h
      · cases h
        rfl
      · next total _ =>
        rcases hinsert : s.insertOrder (.place fresh now owner items total) with ⟨s₁, result⟩
        rw [hinsert] at h
        cases h
        exact Service.insertOrder_eq_error hinsert
  | validating ref deltas candidates =>
    simp only [resume, fail] at h
    split at h
    · cases h
      rfl
    · split at h
      · cases h
        rfl
      · split at h <;> cases h
        rfl
  | confirming ref revision late =>
    simp only [resume, fail] at h
    split at h <;> cases h
    rfl
  | pricing ref revision =>
    simp only [resume, fail] at h
    split at h
    · cases h
      rfl
    · next total _ =>
      split at h
      · cases h
        rfl
      · next o _ =>
        rcases hcommit : commit s ref revision total o with ⟨s₁, result⟩
        rw [hcommit] at h
        cases h
        exact commit_eq_error hcommit

/-- An operation succeeds by placing a new order or by giving a held order its new lines. -/
theorem resume_eq_ok {o' : Order}
    (h : stage.resume fresh now s answers = .finished s' (.ok o')) :
    (∃ owner items products total, stage = .creating owner items ∧
        judge (items.map (·.product)) answers = .ok products ∧
        totalOf products items = .ok total ∧
        s.insertOrder (.place fresh now owner items total) = (s', .ok o')) ∨
      ∃ ref revision total o, stage = .pricing ref revision ∧
        price revision.items answers = .ok total ∧ s.orders.atSlot? ref.slot = some o ∧
        commit s ref revision total o = (s', .ok o') := by
  cases stage with
  | creating owner items =>
    simp only [resume, fail] at h
    split at h
    · cases h
    · next products hjudge =>
      split at h
      · cases h
      · next total htotal =>
        rcases hinsert : s.insertOrder (.place fresh now owner items total) with ⟨s₁, result⟩
        rw [hinsert] at h
        cases h
        exact Or.inl ⟨owner, items, products, total, rfl, hjudge, htotal, hinsert⟩
  | validating ref deltas candidates =>
    simp only [resume, fail] at h
    split at h
    · cases h
    · split at h
      · cases h
      · split at h <;> cases h
  | confirming ref revision late =>
    simp only [resume, fail] at h
    split at h <;> cases h
  | pricing ref revision =>
    simp only [resume, fail] at h
    split at h
    · cases h
    · next total hprice =>
      split at h
      · cases h
      · next o hslot =>
        rcases hcommit : commit s ref revision total o with ⟨s₁, result⟩
        rw [hcommit] at h
        cases h
        exact Or.inr ⟨ref, revision, total, o, rfl, hprice, hslot, hcommit⟩

/-- An operation goes on to a further stage once its order is held, or once products that are new
only now are validated. -/
theorem resume_eq_waiting {next : Stage}
    (h : stage.resume fresh now s answers = .waiting next) :
    (∃ ref deltas candidates products o, stage = .validating ref deltas candidates ∧
        judge candidates answers = .ok products ∧ s.orders.atSlot? ref.slot = some o ∧
        ofHeld ref deltas candidates o = .ok next) ∨
      ∃ ref revision late products, stage = .confirming ref revision late ∧
        judge late answers = .ok products ∧ next = .pricing ref revision := by
  cases stage with
  | creating owner items =>
    simp only [resume, fail] at h
    split at h
    · cases h
    · split at h <;> cases h
  | validating ref deltas candidates =>
    simp only [resume, fail] at h
    split at h
    · cases h
    · next products hjudge =>
      split at h
      · cases h
      · next o hslot =>
        split at h
        · cases h
        · next stage hheld =>
          cases h
          exact Or.inl ⟨ref, deltas, candidates, products, o, rfl, hjudge, hslot, hheld⟩
  | confirming ref revision late =>
    simp only [resume, fail] at h
    split at h
    · cases h
    · next products hjudge =>
      cases h
      exact Or.inr ⟨ref, revision, late, products, rfl, hjudge, rfl⟩
  | pricing ref revision =>
    simp only [resume, fail] at h
    split at h
    · cases h
    · split at h <;> cases h

end Stage

end OrderDesk
