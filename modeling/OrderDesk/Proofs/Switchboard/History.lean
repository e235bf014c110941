import OrderDesk.Proofs.Switchboard.Holding

/-!
# What has been completed

An operation that asks the catalog has its effect in one step, its last, and only if it succeeds.
`Switchboard.completions` lists these steps for a run, in their order: which call it was, what the
catalog had been asked and answered last, in which slot the order stands, and the order that the
caller got.

* `commits_of_step` — an event leaves lines and totals alone and completes nothing, or it completes
  the placing of a new order, or a change of an order as that order stands at this moment.
* `mem_completions` — a completed call is over, with the order of its completion as its result, and
  was not over before the run; so no call is completed twice (`nodup_completions`).
* `exists_completion` — every change that ended well within a run was completed in it.
-/

namespace OrderDesk

/-- The end of an operation that asked the catalog and succeeded. -/
structure Completion where
  call : CallId
  request : Request
  /-- The stage at which the last answers came. -/
  stage : Stage
  /-- The last answers. -/
  answers : List Answer
  /-- Where the order stands. -/
  slot : Nat
  /-- The order as the caller gets it. -/
  order : Order

/-- What an order is for: everything but its status. -/
def Order.bill (o : Order) : OrderId × List LineItem × Decimal := (o.id, o.items, o.total)

theorem Order.bill_eq_iff {o o' : Order} :
    o'.bill = o.bill ↔ o'.id = o.id ∧ o'.items = o.items ∧ o'.total = o.total := by
  simp only [bill, Prod.mk.injEq]

namespace OrderBook

/-- Where a slot is for what it was for, an order stands in it as before. -/
theorem exists_of_bill {b b' : OrderBook} {slot : Nat} {o : Order}
    (h : (b'.atSlot? slot).map Order.bill = (b.atSlot? slot).map Order.bill)
    (ho : b.atSlot? slot = some o) : ∃ o', b'.atSlot? slot = some o' ∧ o'.bill = o.bill := by
  rw [ho, Option.map_some, Option.map_eq_some_iff] at h
  exact h

theorem bill_put {b : OrderBook} {slot : Nat} {o o' : Order}
    (h : b.atSlot? slot = some o) (hbill : o'.bill = o.bill) (other : Nat) :
    ((b.put slot o').atSlot? other).map Order.bill = (b.atSlot? other).map Order.bill := by
  by_cases heq : slot = other
  · subst heq
    rw [atSlot?_put_self _ h, h, Option.map_some, Option.map_some, hbill]
  · rw [atSlot?_put_of_ne _ _ heq]

end OrderBook

/-- The first step of a change leaves the service alone and is not a good end. -/
theorem Starts.revises {fresh : Uuid} {now : Timestamp} {s s' : Service} {c : Call} {id : OrderId}
    {inputs : List LineInput} (h : Starts fresh now s (.revise id inputs) s' c) :
    s' = s ∧ ∀ o, c ≠ .ended (.order (.ok o)) := by
  cases h with
  | looking | reviseFailed => exact ⟨rfl, fun o ho => by cases ho⟩

/-- A step of a change is its completion, or leaves the service alone and is not a good end. -/
theorem Advances.revises {fresh : Uuid} {now : Timestamp} {answers : List Answer} {s s' : Service}
    {c c' : Call} {id : OrderId} {inputs : List LineInput}
    (h : Advances fresh now answers s c s' c') (hc : Serves s.orders (.revise id inputs) c) :
    (s' = s ∧ ∀ o, c' ≠ .ended (.order (.ok o))) ∨
      ∃ ref revision total deltas o, c = .asking (.pricing ref revision) ∧
        Delta.ofInputs inputs = .ok deltas ∧ s.orders.atSlot? ref.slot = some o ∧ o.id = id ∧
        o.status = .pending ∧ o.revise deltas = .ok revision ∧
        c' = .ended (.order (.ok (o.apply (.itemsReplaced revision.items total)))) ∧
        s' = { s with
          orders := s.orders.put ref.slot (o.apply (.itemsReplaced revision.items total)) } := by
  cases h with
  | looked | lookFailed | held | confirmed | askFailed =>
    left
    exact ⟨rfl, fun o ho => by cases ho⟩
  | revised _ hslot _ =>
    cases hc with
    | pricing hplan =>
      obtain ⟨deltas, o, hdeltas, hslot', hid, hpending, hrevise⟩ := hplan
      cases hslot.symm.trans hslot'
      right
      exact ⟨_, _, _, deltas, _, rfl, hdeltas, hslot, hid, hpending, hrevise, rfl, rfl⟩
  | placed | submitted | cancelled | actFailed | finished | passedOver | found | swept | spared =>
    cases hc

namespace Switchboard

/-- The completion in an event that leads from one state to another. -/
def completion? (b b' : Switchboard) : Event → Option Completion
  | .start _ _ _ _ => none
  | .advance id answers _ _ =>
    match b.calls.get? id, b'.calls.get? id with
    | some ⟨request, .asking stage⟩, some ⟨_, .ended (.order (.ok o))⟩ =>
      some ⟨id, request, stage, answers, stage.held?.getD b.service.orders.size, o⟩
    | _, _ => none

/-- The completions in a run, in their order. -/
def completions (b : Switchboard) : List Event → List Completion
  | [] => []
  | e :: es =>
    match b.step e with
    | none => []
    | some b' => (b.completion? b' e).toList ++ b'.completions es

/-! ## One event -/

/-- What an event means for the lines and totals of orders. -/
inductive Commits (b : Switchboard) (e : Event) (b' : Switchboard) : Prop
  /-- Nothing is completed, and every order is for what it was for. -/
  | nothing : b.completion? b' e = none →
      (∀ slot, (b'.service.orders.atSlot? slot).map Order.bill =
        (b.service.orders.atSlot? slot).map Order.bill) → Commits b e b'
  /-- A new order is placed. -/
  | creation {call : CallId} {r : OrderRequest} {owner : Option UserId} {items : List LineItem}
      {answers : List Answer} {products : List (ProductId × Product)} {fresh : OrderId}
      {now : Timestamp} {total : Decimal} : LineItem.ofInputs r.products = .ok items →
      answers.length = items.length → judge (items.map (·.product)) answers = .ok products →
      totalOf products items = .ok total →
      b'.service.orders = b.service.orders.insert (.place fresh now owner items total) →
      b.completion? b' e = some ⟨call, .create r, .creating owner items, answers,
        b.service.orders.size, .place fresh now owner items total⟩ → Commits b e b'
  /-- The lines of an order are replaced by what the change makes of them now. -/
  | revision {call : CallId} {ref : OrderRef} {inputs : List LineInput} {deltas : List Delta}
      {revision : Revision} {answers : List Answer} {total : Decimal} {o : Order} :
      Delta.ofInputs inputs = .ok deltas → b.service.orders.atSlot? ref.slot = some o →
      o.id = ref.id → o.revise deltas = .ok revision →
      answers.length = revision.items.length → price revision.items answers = .ok total →
      b'.service.orders =
        b.service.orders.put ref.slot (o.apply (.itemsReplaced revision.items total)) →
      b.completion? b' e = some ⟨call, .revise ref.id inputs, .pricing ref revision, answers,
        ref.slot, o.apply (.itemsReplaced revision.items total)⟩ → Commits b e b'

variable {b b' : Switchboard} {e : Event} {es : List Event}

theorem commits_of_step (hb : Coherent b) (h : b.step e = some b') : Commits b e b' := by
  cases moves_of_step h with
  | start hnew hstart => exact .nothing rfl fun slot => by rw [hstart.orders_eq]
  | @advance id answers fresh now entry s' c hentry hready hadv =>
    obtain ⟨request, call⟩ := entry
    have hserves : Serves b.service.orders request call := hb.serves id _ hentry
    have hself : (b.calls.insert id ⟨request, c⟩).get? id = some ⟨request, c⟩ :=
      Table.get?_insert_self ..
    cases hadv with
    | looked | lookFailed | held | confirmed | askFailed | actFailed | finished | passedOver | found
    | spared =>
      exact .nothing (by simp only [completion?, hentry, hself]) fun _ => rfl
    | submitted hslot _ horders _ =>
      refine .nothing (by simp only [completion?, hentry]) fun slot => ?_
      rw [horders]
      exact OrderBook.bill_put hslot (by rfl) slot
    | cancelled hslot _ =>
      refine .nothing (by simp only [completion?, hentry]) fun slot => ?_
      exact OrderBook.bill_put hslot (by rfl) slot
    | swept hslot _ =>
      refine .nothing (by simp only [completion?, hentry]) fun slot => ?_
      exact OrderBook.bill_put hslot (by rfl) slot
    | placed hjudge htotal horders _ =>
      cases hserves with
      | creating hitems =>
        have hlength := hready.2.1.trans (List.length_map _)
        refine .creation hitems hlength hjudge htotal horders (?_ : _ = some (Completion.mk id ..))
        simp only [completion?, hentry, hself]
        rfl
    | revised hprice hslot _ =>
      cases hserves with
      | pricing hplan =>
        obtain ⟨deltas, o, hdeltas, hslot', hid, _, hrevise⟩ := hplan
        cases hslot.symm.trans hslot'
        have hlength := hready.2.1.trans (List.length_map _)
        refine .revision hdeltas hslot hid hrevise hlength hprice rfl
          (?_ : _ = some (Completion.mk id ..))
        simp only [completion?, hentry, hself]
        rfl

/-! ## Calls along a run -/

/-- A call that has begun keeps its request. -/
theorem get?_of_step (h : b.step e = some b') {id : CallId} {r : Request} {c : Call}
    (hc : b.calls.get? id = some ⟨r, c⟩) : ∃ c', b'.calls.get? id = some ⟨r, c'⟩ := by
  by_cases hid : id = e.call
  · subst hid
    cases moves_of_step h with
    | start hnew _ => exact absurd (hnew.symm.trans hc) (by simp)
    | advance hentry _ _ =>
      cases hentry.symm.trans hc
      exact ⟨_, Table.get?_insert_self ..⟩
  · exact ⟨c, (get?_calls_of_step h hid).trans hc⟩

/-- A call that is over stays as it is. -/
theorem get?_ended_of_step (h : b.step e = some b') {id : CallId} {r : Request}
    {result : CallResult} (hc : b.calls.get? id = some ⟨r, .ended result⟩) :
    b'.calls.get? id = some ⟨r, .ended result⟩ := by
  by_cases hid : id = e.call
  · subst hid
    cases moves_of_step h with
    | start hnew _ => exact absurd (hnew.symm.trans hc) (by simp)
    | advance hentry hready _ =>
      cases hentry.symm.trans hc
      exact absurd hready.1 (by simp [Call.result?])
  · exact (get?_calls_of_step h hid).trans hc

theorem get?_ended_of_run (h : b.run es = some b') {id : CallId} {r : Request} {result : CallResult}
    (hc : b.calls.get? id = some ⟨r, .ended result⟩) :
    b'.calls.get? id = some ⟨r, .ended result⟩ :=
  run_preserves (P := fun b => b.calls.get? id = some ⟨r, .ended result⟩)
    (fun _ _ _ hb h => get?_ended_of_step h hb) hc h

/-! ## Completions of a run -/

theorem completions_cons (h : b.step e = some b') :
    b.completions (e :: es) = (b.completion? b' e).toList ++ b'.completions es := by
  rw [completions, h]

/-- The call of a completion goes on in the event, asking before and over afterwards. -/
theorem completion?_eq_some {c : Completion} (h : b.completion? b' e = some c) :
    c.call = e.call ∧ b.calls.get? c.call = some ⟨c.request, .asking c.stage⟩ ∧
      ∃ r, b'.calls.get? c.call = some ⟨r, .ended (.order (.ok c.order))⟩ := by
  cases e with
  | start id request fresh now => cases h
  | advance id answers fresh now =>
    rw [completion?] at h
    split at h
    · next request stage r o hbefore hafter =>
      cases h
      exact ⟨rfl, hbefore, r, hafter⟩
    · cases h

/-- Is the call not over? -/
def Open (b : Switchboard) (id : CallId) : Prop :=
  ∀ r result, b.calls.get? id ≠ some ⟨r, .ended result⟩

theorem open_of_step (h : b.step e = some b') {id : CallId} (hopen : b'.Open id) : b.Open id :=
  fun r result hc => hopen r result (get?_ended_of_step h hc)

/-- A completed call is over, with the order of its completion as its result, and was not over
before the run. -/
theorem mem_completions (h : b.run es = some b') {c : Completion} (hc : c ∈ b.completions es) :
    b'.calls.get? c.call = some ⟨c.request, .ended (.order (.ok c.order))⟩ ∧ b.Open c.call := by
  induction es generalizing b with
  | nil => cases hc
  | cons e es ih =>
    obtain ⟨b₁, hstep, hrun⟩ := run_cons_eq_some_iff.1 h
    rw [completions_cons hstep] at hc
    rcases List.mem_append.1 hc with hhead | htail
    · obtain ⟨-, hbefore, r, hafter⟩ := completion?_eq_some (Option.mem_toList.1 hhead)
      constructor
      · obtain ⟨c', hc'⟩ := get?_of_step hstep hbefore
        cases hafter.symm.trans hc'
        exact get?_ended_of_run hrun hafter
      · intro r' result hended
        cases hbefore.symm.trans hended
    · obtain ⟨hresult, hopen⟩ := ih hrun htail
      exact ⟨hresult, open_of_step hstep hopen⟩

/-- No call is completed twice. -/
theorem nodup_completions (h : b.run es = some b') :
    ((b.completions es).map (·.call)).Nodup := by
  induction es generalizing b with
  | nil => exact List.nodup_nil
  | cons e es ih =>
    obtain ⟨b₁, hstep, hrun⟩ := run_cons_eq_some_iff.1 h
    rw [completions_cons hstep]
    cases hcompletion : b.completion? b₁ e with
    | none => exact ih hrun
    | some c =>
      obtain ⟨-, -, r, hafter⟩ := completion?_eq_some hcompletion
      rw [Option.toList_some, List.singleton_append, List.map_cons, List.nodup_cons]
      refine ⟨fun hmem => ?_, ih hrun⟩
      obtain ⟨c', hc', heq⟩ := List.mem_map.1 hmem
      exact (mem_completions hrun hc').2 _ _ (heq ▸ hafter)

/-- A change that ends well in an event is completed in it. -/
theorem completion?_of_revised (hb : Coherent b) (h : b.step e = some b') {call : CallId}
    {id : OrderId} {inputs : List LineInput} {o : Order} (hopen : b.Open call)
    (hc : b'.calls.get? call = some ⟨.revise id inputs, .ended (.order (.ok o))⟩) :
    ∃ c, b.completion? b' e = some c ∧ c.call = call ∧ c.request = .revise id inputs ∧
      c.order = o := by
  have hcall : call = e.call := by
    by_contra hne
    exact hopen _ _ ((get?_calls_of_step h hne).symm.trans hc)
  subst hcall
  cases moves_of_step h with
  | start hnew hstart =>
    cases (Table.get?_insert_self ..).symm.trans hc
    exact absurd rfl (hstart.revises.2 o)
  | @advance call answers fresh now entry s' c hentry hready hadv =>
    obtain ⟨request, before⟩ := entry
    cases (Table.get?_insert_self ..).symm.trans hc
    rcases hadv.revises (hb.serves call _ hentry) with ⟨-, hnot⟩ |
      ⟨ref, revision, total, deltas, o, rfl, -, -, -, -, -, hend, -⟩
    · exact absurd rfl (hnot o)
    · refine ⟨⟨call, _, .pricing ref revision, answers, ref.slot, _⟩, ?_, rfl, rfl, rfl⟩
      simp only [completion?, hentry, Table.get?_insert_self]
      rfl

/-- Every change that ended well within a run was completed in it. -/
theorem exists_completion (hb : Coherent b) (h : b.run es = some b') {call : CallId} {id : OrderId}
    {inputs : List LineInput} {o : Order} (hopen : b.Open call)
    (hc : b'.calls.get? call = some ⟨.revise id inputs, .ended (.order (.ok o))⟩) :
    ∃ c ∈ b.completions es, c.call = call ∧ c.request = .revise id inputs ∧ c.order = o := by
  induction es generalizing b with
  | nil =>
    cases h
    exact absurd hc (hopen _ _)
  | cons e es ih =>
    obtain ⟨b₁, hstep, hrun⟩ := run_cons_eq_some_iff.1 h
    rw [completions_cons hstep]
    by_cases hopen₁ : b₁.Open call
    · obtain ⟨c, hmem, hrest⟩ := ih (coherent_step hb hstep) hrun hopen₁
      exact ⟨c, List.mem_append_right _ hmem, hrest⟩
    · -- the call came to its end in the first event
      unfold Open at hopen₁
      push Not at hopen₁
      obtain ⟨r, result, hended⟩ := hopen₁
      cases (get?_ended_of_run hrun hended).symm.trans hc
      obtain ⟨c, hcompletion, hrest⟩ := completion?_of_revised hb hstep hopen hended
      exact ⟨c, List.mem_append_left _ (Option.mem_toList.2 hcompletion), hrest⟩

end Switchboard

end OrderDesk
