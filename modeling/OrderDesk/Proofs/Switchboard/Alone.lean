import OrderDesk.Proofs.Service.Perform

/-!
# A call that is left alone

When nothing happens in between, the steps of a call come to the same as the operation that its
request names: `leads_perform`.  So what is shown of all runs of a switchboard is shown of all
sequences of operations, among others.
-/

namespace OrderDesk

/-- An order that has to be free is not held by the call itself. -/
theorem Call.held_eq_none_of_needs {c : Call} {answers : List Answer} {slot : Nat}
    (h : c.needs? answers = some slot) : c.held? = none := by
  cases c with
  | asking stage =>
    cases stage with
    | validating => rfl
    | creating | confirming | pricing => cases h
  | looking | acting | cancelling => rfl
  | cascading | ended => cases h

namespace Switchboard

variable {b b' b'' : Switchboard} {id : CallId} {r : Request} {s : Service} {c : Call}

/-- The only call. -/
def alone (id : CallId) (r : Request) (s : Service) (c : Call) : Switchboard :=
  ⟨s, ⟨[(id, ⟨r, c⟩)]⟩⟩

/-- Some steps of a call lead from one state to another. -/
def Leads (id : CallId) (b b' : Switchboard) : Prop :=
  ∃ es, (∀ e ∈ es, Event.call e = id) ∧ b.run es = some b'

theorem Leads.refl (id : CallId) (b : Switchboard) : Leads id b b :=
  ⟨[], fun _ he => absurd he List.not_mem_nil, rfl⟩

theorem Leads.step {e : Event} (he : e.call = id) (h : b.step e = some b') (h' : Leads id b' b'') :
    Leads id b b'' := by
  obtain ⟨es, hes, hrun⟩ := h'
  refine ⟨e :: es, ?_, run_cons_eq_some_iff.2 ⟨b', h, hrun⟩⟩
  intro e' he'
  rcases List.mem_cons.1 he' with rfl | he'
  · exact he
  · exact hes e' he'

theorem step_alone (id : CallId) (r : Request) (s : Service) (fresh : Uuid) (now : Timestamp)
    {answers : List Answer} (hc : c.result? = none)
    (hlength : answers.length = c.questions.length) :
    (alone id r s c).step (.advance id answers fresh now) =
      some (alone id r (c.advance fresh now answers s).1 (c.advance fresh now answers s).2) := by
  refine step_advance_eq_some_iff.2 ⟨⟨r, c⟩, if_pos rfl, ⟨?_, hlength, ?_⟩, ?_⟩
  · rw [hc]
    rfl
  · intro slot hneeds e he
    rw [List.mem_singleton.1 he, Call.held_eq_none_of_needs hneeds]
    simp
  · show _ = (⟨_, ⟨if id = id then _ else _⟩⟩ : Switchboard)
    rw [if_pos rfl]
    rfl

/-- The first step. -/
theorem Leads.start (r : Request) (fresh : Uuid) (now : Timestamp)
    (h : Leads id (alone id r (r.start fresh now s).1 (r.start fresh now s).2) b) :
    Leads id (ofService s) b := by
  have hstep : (ofService s).step (.start id r fresh now) =
      some (alone id r (r.start fresh now s).1 (r.start fresh now s).2) :=
    step_start_eq_some_iff.2 ⟨rfl, rfl⟩
  exact .step rfl hstep h

/-- One step further, with answers to the questions. -/
theorem Leads.advance (fresh : Uuid) (now : Timestamp) (answers : List Answer) (s' : Service)
    (c' : Call) (hc : c.result? = none) (hlength : answers.length = c.questions.length)
    (hadvance : c.advance fresh now answers s = (s', c')) (h : Leads id (alone id r s' c') b) :
    Leads id (alone id r s c) b := by
  have hstep := step_alone id r s fresh now hc hlength
  rw [hadvance] at hstep
  exact .step rfl hstep h

/-! ## Operations that ask the catalog -/

section Asking

variable {κ : Type} {ask : κ → List ProductId → κ × List Answer} {fresh : Uuid} {now : Timestamp}
  {catalog : κ}

theorem leads_settle (hask : ∀ catalog ids, (ask catalog ids).2.length = ids.length)
    (stage : Stage) :
    Leads id (alone id r s (.asking stage))
      (alone id r (s.settle ask fresh now catalog stage).2.1
        (.ended (.order (s.settle ask fresh now catalog stage).2.2))) := by
  induction catalog, stage using Service.settle.induct ask fresh now s with
  | case1 catalog stage asked s' result hresume =>
    have hresume : stage.resume fresh now s (ask catalog stage.questions).2 = .finished s' result :=
      hresume
    rw [Service.settle_of_finished hresume]
    refine .advance fresh now _ _ _ rfl (hask catalog stage.questions) ?_ (.refl ..)
    simp only [Call.advance, hresume]
  | case2 catalog stage asked next hresume ih =>
    have hresume : stage.resume fresh now s (ask catalog stage.questions).2 = .waiting next :=
      hresume
    rw [Service.settle_of_waiting hresume]
    refine .advance fresh now _ _ _ rfl (hask catalog stage.questions) ?_ ih
    simp only [Call.advance, hresume]

theorem leads_create (hask : ∀ catalog ids, (ask catalog ids).2.length = ids.length)
    (request : OrderRequest) :
    Leads id (ofService s)
      (alone id (.create request) (s.createOrder ask fresh now catalog request).2.1
        (.ended (.order (s.createOrder ask fresh now catalog request).2.2))) := by
  refine .start (.create request) fresh now ?_
  unfold Service.createOrder
  cases h : Service.beginCreate request with
  | error e =>
    simp only [Request.start, h]
    exact .refl ..
  | ok stage =>
    simp only [Request.start, h]
    exact leads_settle hask stage

theorem leads_revise (hask : ∀ catalog ids, (ask catalog ids).2.length = ids.length)
    (order : OrderId) (inputs : List LineInput) :
    Leads id (ofService s)
      (alone id (.revise order inputs) (s.reviseOrder ask now catalog order inputs).2.1
        (.ended (.order (s.reviseOrder ask now catalog order inputs).2.2))) := by
  refine .start (.revise order inputs) .nil now ?_
  unfold Service.reviseOrder Service.beginRevision
  cases h : s.revisionTarget order inputs with
  | error e =>
    simp only [Request.start, h]
    exact .refl ..
  | ok target =>
    obtain ⟨ref, deltas⟩ := target
    simp only [Request.start, h]
    show Leads id _ (alone id _ (s.run ask .nil now catalog (s.beginRevisionAt ref deltas)).2.1
      (.ended (.order (s.run ask .nil now catalog (s.beginRevisionAt ref deltas)).2.2)))
    cases hbegin : s.beginRevisionAt ref deltas with
    | error e =>
      refine .advance .nil now [] _ _ rfl rfl ?_ (.refl ..)
      simp only [Call.advance, hbegin]
      rfl
    | ok stage =>
      refine .advance .nil now [] _ _ rfl rfl ?_ (leads_settle hask stage)
      simp only [Call.advance, hbegin]

end Asking

/-! ## Operations that do not -/

theorem leads_act (now : Timestamp) (order : OrderId) (action : OrderAction) :
    Leads id (ofService s)
      (alone id (.act order action) (s.act order action now).1
        (.ended (.order (s.act order action now).2))) := by
  refine .start (.act order action) .nil now ?_
  unfold Service.act
  cases hslot : s.orders.slot? order with
  | none =>
    simp only [Request.start, hslot]
    exact .refl ..
  | some slot =>
    simp only [Request.start, hslot]
    refine .advance .nil now [] _ _ rfl rfl ?_ (.refl ..)
    cases ho : s.orders.atSlot? slot with
    | none => simp only [Call.advance, ho]
    | some o => simp only [Call.advance, ho, Request.atOnce]

/-- A deletion goes through the orders just as `OrderBook.cancelAmong` does. -/
theorem leads_cascade (now : Timestamp) (ids done : List OrderId) :
    Leads id (alone id r s (.cascading ids done))
      (alone id r (s.cancelAmong ids).1
        (.ended (.deleted (.ok (done ++ (s.cancelAmong ids).2))))) := by
  induction ids generalizing s done with
  | nil =>
    refine .advance .nil now [] _ _ rfl rfl rfl ?_
    rw [show (s.cancelAmong []).2 = [] from rfl, List.append_nil]
    exact .refl ..
  | cons order ids ih =>
    cases hslot : s.orders.slot? order with
    | none =>
      refine .advance .nil now [] s (.cascading ids done) rfl rfl ?_ ?_
      · simp only [Call.advance, hslot]
      · have hsame : s.cancelAmong (order :: ids) = s.cancelAmong ids := by
          simp only [Service.cancelAmong, OrderBook.cancelAmong, OrderBook.cancelIfPending, hslot]
          rfl
        rw [hsame]
        exact ih done
    | some slot =>
      refine .advance .nil now [] s (.cancelling ⟨order, slot⟩ ids done) rfl rfl ?_ ?_
      · simp only [Call.advance, hslot]
      · rcases hcancel : s.orders.cancelSlot slot with ⟨orders, cancelled⟩
        refine .advance .nil now [] { s with orders }
          (.cascading ids (if cancelled then done ++ [order] else done)) rfl rfl ?_ ?_
        · simp only [Call.advance, hcancel]
        · have hcons : s.cancelAmong (order :: ids) =
              (({ s with orders }.cancelAmong ids).1,
                if cancelled then order :: ({ s with orders }.cancelAmong ids).2
                else ({ s with orders }.cancelAmong ids).2) := by
            simp only [Service.cancelAmong, OrderBook.cancelAmong, OrderBook.cancelIfPending, hslot,
              hcancel]
          rw [hcons]
          cases cancelled with
          | false => exact ih done
          | true =>
            have hrest := ih (s := { s with orders }) (done ++ [order])
            rw [List.append_assoc, List.singleton_append] at hrest
            exact hrest

theorem leads_delete (now : Timestamp) (user : UserId) :
    Leads id (ofService s)
      (alone id (.deleteUser user) (s.deleteUser user).1
        (.ended (.deleted (s.deleteUser user).2))) := by
  refine .start (.deleteUser user) .nil now ?_
  unfold Service.deleteUser
  cases hnoted : s.users.notedOrders? user with
  | none =>
    simp only [Request.start, Service.removeUser, hnoted]
    exact .refl ..
  | some ids =>
    simp only [Request.start, Service.removeUser, hnoted]
    exact leads_cascade now ids []

/-- **A call that is left alone does what its request names**, whatever catalog it asks. -/
theorem leads_perform {κ : Type} {ask : κ → List ProductId → κ × List Answer}
    (hask : ∀ catalog ids, (ask catalog ids).2.length = ids.length) (id : CallId) (fresh : Uuid)
    (now : Timestamp) (catalog : κ) (s : Service) (r : Request) :
    Leads id (ofService s)
      (alone id r (s.perform ask fresh now catalog r).1
        (.ended (s.perform ask fresh now catalog r).2)) := by
  cases r with
  | create request => exact leads_create hask request
  | revise order inputs => exact leads_revise hask order inputs
  | act order action => exact leads_act now order action
  | register request => exact .start _ fresh now (.refl ..)
  | redeem user points => exact .start _ fresh now (.refl ..)
  | award user points => exact .start _ fresh now (.refl ..)
  | deleteUser user => exact leads_delete now user

end Switchboard

end OrderDesk
