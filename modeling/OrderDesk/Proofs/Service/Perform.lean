import OrderDesk.Proofs.Service.Operations
import OrderDesk.Proofs.Switchboard.Basic

/-!
# Requests from start to end

`Service.perform` carries out a request with nothing else happening meanwhile: it is the operation
that the request names.  Every way out of an operation with a failure leads past all that it would
have written (`perform_failure`).
-/

namespace OrderDesk.Service

variable {κ : Type} {ask : κ → List ProductId → κ × List Answer} {fresh : Uuid} {now : Timestamp}
  {catalog : κ} {s s' : Service} {stage : Stage}

/-! ## Stages in a row -/

theorem settle_of_finished {result : Except OrderError Order}
    (h : stage.resume fresh now s (ask catalog stage.questions).2 = .finished s' result) :
    s.settle ask fresh now catalog stage = ((ask catalog stage.questions).1, s', result) := by
  rw [settle]
  split
  · next h' =>
    cases h.symm.trans h'
    rfl
  · next h' => cases h.symm.trans h'

theorem settle_of_waiting {next : Stage}
    (h : stage.resume fresh now s (ask catalog stage.questions).2 = .waiting next) :
    s.settle ask fresh now catalog stage =
      s.settle ask fresh now (ask catalog stage.questions).1 next := by
  rw [settle]
  split
  · next h' => cases h.symm.trans h'
  · next h' =>
    cases h.symm.trans h'
    rfl

theorem settle_eq_error {e : OrderError}
    (h : (s.settle ask fresh now catalog stage).2.2 = .error e) :
    (s.settle ask fresh now catalog stage).2.1 = s := by
  induction catalog, stage using settle.induct ask fresh now s with
  | case1 catalog stage asked s' result hresume =>
    rw [settle_of_finished hresume] at h ⊢
    have hresult : result = .error e := h
    subst hresult
    exact Stage.resume_eq_error hresume
  | case2 catalog stage asked next hresume ih =>
    rw [settle_of_waiting hresume] at h ⊢
    exact ih h

theorem run_eq_error {start : Except OrderError Stage} {e : OrderError}
    (h : (s.run ask fresh now catalog start).2.2 = .error e) :
    (s.run ask fresh now catalog start).2.1 = s := by
  cases start with
  | error e => rfl
  | ok stage => exact settle_eq_error h

theorem act_eq_error {id : OrderId} {action : OrderAction} {e : OrderError}
    (h : s.act id action now = (s', .error e)) : s' = s := by
  unfold act at h
  split at h
  · cases h
    rfl
  · split at h
    · cases h
      rfl
    · cases action with
      | submit => exact submitSlot_eq_error h
      | cancel => exact cancelSlot_eq_error h

/-- An operation succeeds by placing a new order or by giving a pending order its new lines. -/
theorem settle_eq_ok {o' : Order}
    (h : (s.settle ask fresh now catalog stage).2.2 = .ok o') :
    (∃ owner items total, stage = .creating owner items ∧
        s.insertOrder (.place fresh now owner items total) =
          ((s.settle ask fresh now catalog stage).2.1, .ok o')) ∨
      (∀ owner items, stage ≠ .creating owner items) ∧
        ∃ ref revision total o, s.orders.atSlot? ref.slot = some o ∧
          Stage.commit s ref revision total o =
            ((s.settle ask fresh now catalog stage).2.1, .ok o') := by
  induction catalog, stage using settle.induct ask fresh now s with
  | case1 catalog stage asked s' result hresume =>
    rw [settle_of_finished hresume] at h ⊢
    have hresult : result = .ok o' := h
    subst hresult
    rcases Stage.resume_eq_ok hresume with
      ⟨owner, items, products, total, rfl, -, -, hinsert⟩ |
      ⟨ref, revision, total, o, rfl, -, hslot, hcommit⟩
    · exact Or.inl ⟨owner, items, total, rfl, hinsert⟩
    · exact Or.inr ⟨nofun, ref, revision, total, o, hslot, hcommit⟩
  | case2 catalog stage asked next hresume ih =>
    rw [settle_of_waiting hresume] at h ⊢
    rcases ih h with ⟨owner, items, total, rfl, -⟩ | ⟨-, hrevised⟩
    · rcases Stage.resume_eq_waiting hresume with
        ⟨ref, deltas, candidates, products, o, rfl, -, -, hheld⟩ | ⟨_, _, _, _, -, -, hnext⟩
      · obtain ⟨-, revision, -, hplanned⟩ := Stage.ofHeld_eq_ok hheld
        rw [Stage.planned] at hplanned
        split at hplanned <;> cases hplanned
      · cases hnext
    · refine Or.inr ⟨?_, hrevised⟩
      rintro owner items rfl
      rcases Stage.resume_eq_waiting hresume with
        ⟨_, _, _, _, _, hstage, -⟩ | ⟨_, _, _, _, hstage, -⟩ <;> cases hstage

theorem createOrder_eq_ok {r : OrderRequest} {o' : Order}
    (h : (s.createOrder ask fresh now catalog r).2.2 = .ok o') :
    ∃ owner items total, o' = .place fresh now owner items total ∧
      (s.createOrder ask fresh now catalog r).2.1.orders = s.orders.insert o' := by
  unfold createOrder at h ⊢
  cases hbegin : beginCreate r with
  | error e =>
    rw [hbegin] at h
    cases h
  | ok stage =>
    rw [hbegin] at h
    rcases settle_eq_ok h with ⟨owner, items, total, -, hinsert⟩ | ⟨hrevision, -⟩
    · obtain ⟨rfl, horders, -⟩ := insertOrder_eq_ok hinsert
      exact ⟨owner, items, total, rfl, horders⟩
    · rw [beginCreate, Fallible.bind_eq_ok_iff] at hbegin
      obtain ⟨owner, -, hbegin⟩ := hbegin
      rw [Fallible.bind_eq_ok_iff] at hbegin
      obtain ⟨items, -, hbegin⟩ := hbegin
      rw [Fallible.pure_eq_ok_iff] at hbegin
      exact absurd hbegin.symm (hrevision owner items)

theorem reviseOrder_eq_ok {id : OrderId} {inputs : List LineInput} {o' : Order}
    (h : (s.reviseOrder ask now catalog id inputs).2.2 = .ok o') :
    ∃ slot o items total, s.orders.atSlot? slot = some o ∧ o.status = .pending ∧
      o' = o.apply (.itemsReplaced items total) ∧
      (s.reviseOrder ask now catalog id inputs).2.1.orders = s.orders.put slot o' := by
  unfold reviseOrder at h ⊢
  cases hbegin : s.beginRevision id inputs with
  | error e =>
    rw [hbegin] at h
    cases h
  | ok stage =>
    rw [hbegin] at h
    rcases settle_eq_ok h with ⟨owner, items, total, rfl, -⟩ |
      ⟨-, ref, revision, total, o, hslot, hcommit⟩
    · rw [beginRevision, Fallible.bind_eq_ok_iff] at hbegin
      obtain ⟨⟨ref, deltas⟩, -, hbegin⟩ := hbegin
      simp only [beginRevisionAt] at hbegin
      split at hbegin
      · obtain ⟨-, _, -, hstage⟩ := Stage.ofOrder_eq_ok hbegin
        cases hstage
      · cases hbegin
    · obtain ⟨hpending, hrevised, hservice⟩ := Stage.commit_eq_ok hcommit
      exact ⟨ref.slot, o, revision.items, total, hslot, hpending, hrevised,
        congrArg Service.orders hservice⟩

theorem act_eq_ok {id : OrderId} {action : OrderAction} {o' : Order}
    (h : s.act id action now = (s', .ok o')) :
    ∃ slot o event, s.orders.atSlot? slot = some o ∧ o.status = .pending ∧
      (event = .submitted (loyaltyPoints o.total) ∨ event = .cancelled) ∧ o' = o.apply event ∧
      s'.orders = s.orders.put slot o' := by
  unfold act at h
  split at h
  · cases h
  · next slot _ =>
    split at h
    · cases h
    · next o hslot =>
      cases action with
      | submit =>
        obtain ⟨hpending, ho', horders, -⟩ := submitSlot_eq_ok h
        exact ⟨slot, o, _, hslot, hpending, Or.inl rfl, ho', horders⟩
      | cancel =>
        obtain ⟨hpending, ho', hservice⟩ := cancelSlot_eq_ok h
        exact ⟨slot, o, _, hslot, hpending, Or.inr rfl, ho', congrArg Service.orders hservice⟩

/-! ## Requests -/

/-- Carries out a request with nothing else happening meanwhile.  A new order or user gets the
identifier `fresh`. -/
def perform (ask : κ → List ProductId → κ × List Answer) (fresh : Uuid) (now : Timestamp)
    (catalog : κ) (s : Service) : Request → Service × CallResult
  | .create r =>
    let (_, s, result) := s.createOrder ask fresh now catalog r
    (s, .order result)
  | .revise id inputs =>
    let (_, s, result) := s.reviseOrder ask now catalog id inputs
    (s, .order result)
  | .act id action =>
    let (s, result) := s.act id action now
    (s, .order result)
  | .register r =>
    let (s, result) := s.register fresh now r
    (s, .user result)
  | .redeem id points =>
    let (s, result) := s.redeem id now points
    (s, .points result)
  | .award id points =>
    let (s, result) := s.award id now points
    (s, .points result)
  | .deleteUser id =>
    let (s, result) := s.deleteUser id
    (s, .deleted result)

/-- A request that fails leaves the service as it was. -/
theorem perform_failure {r : Request}
    (h : (s.perform ask fresh now catalog r).2.isFailure) :
    (s.perform ask fresh now catalog r).1 = s := by
  cases r with
  | create r =>
    simp only [perform, createOrder] at h ⊢
    cases hresult : (s.run ask fresh now catalog (beginCreate r)).2.2 with
    | error e => exact run_eq_error hresult
    | ok o =>
      rw [hresult] at h
      cases h
  | revise id inputs =>
    simp only [perform, reviseOrder] at h ⊢
    cases hresult : (s.run ask .nil now catalog (s.beginRevision id inputs)).2.2 with
    | error e => exact run_eq_error hresult
    | ok o =>
      rw [hresult] at h
      cases h
  | act id action =>
    rcases hact : s.act id action now with ⟨s', result⟩
    simp only [perform, hact] at h ⊢
    cases result with
    | error e => exact act_eq_error hact
    | ok o => cases h
  | register r =>
    simp only [perform, register] at h ⊢
    split at h
    · cases h
    · rfl
  | redeem id points =>
    simp only [perform, redeem] at h ⊢
    split at h
    · cases h
    · rfl
  | award id points =>
    simp only [perform, award] at h ⊢
    split at h
    · cases h
    · rfl
  | deleteUser id =>
    simp only [perform, deleteUser, removeUser] at h ⊢
    cases hnoted : s.users.notedOrders? id with
    | none => rfl
    | some ids =>
      simp only [hnoted] at h
      cases h

end OrderDesk.Service
