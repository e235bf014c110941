import OrderDesk.Proofs.Order.Revising
import OrderDesk.Proofs.Switchboard.Prices

/-!
# Only validated products enter an order

A change of an order is planned twice, on what the order is when it is looked at and on what it has
become when it is held.  What would be added is asked for each time, but the second time only what
was not asked for before.  Meanwhile other calls may take products off the order or put others on.

`Switchboard.validations` lists what a call was told in a run when it asked whether products can be
bought; the prices of a change are asked for without asking that.  Everything that a plan adds is
covered by what has been told, or is about to be (`Call.Backed`), whatever other calls do, because a
plan on a held order stays true.  So a product that comes on an order in some event was validated
by the call which that event completes (`only_validated_products_enter`).
-/

namespace OrderDesk

/-- Does this stage ask whether products can be bought? -/
def Stage.validates : Stage → Bool
  | .creating _ _ => true
  | .validating _ _ _ => true
  | .confirming _ _ _ => true
  | .pricing _ _ => false

/-- Among questions with their answers is one that says that a product can be bought. -/
def Cleared (told : List (ProductId × Answer)) (id : ProductId) : Prop :=
  ∃ a p, (id, a) ∈ told ∧ a.forSale id = .ok p

/-- All that a call is about to add to an order can be bought, as far as the call knows, or is being
asked for. -/
def Call.Backed (told : List (ProductId × Answer)) : Call → Prop
  | .asking (.confirming _ revision late) => ∀ id ∈ revision.added, id ∈ late ∨ Cleared told id
  | .asking (.pricing _ revision) => ∀ id ∈ revision.added, Cleared told id
  | _ => True

variable {told more : List (ProductId × Answer)} {id : ProductId}

theorem Cleared.left (h : Cleared told id) : Cleared (told ++ more) id := by
  obtain ⟨a, p, hmem, ha⟩ := h
  exact ⟨a, p, List.mem_append_left _ hmem, ha⟩

theorem Cleared.right (h : Cleared more id) : Cleared (told ++ more) id := by
  obtain ⟨a, p, hmem, ha⟩ := h
  exact ⟨a, p, List.mem_append_right _ hmem, ha⟩

theorem Call.Backed.left {c : Call} (h : c.Backed told) : c.Backed (told ++ more) := by
  cases c with
  | asking stage =>
    cases stage with
    | confirming => exact fun id hid => (h id hid).imp_right Cleared.left
    | pricing => exact fun id hid => (h id hid).left
    | creating | validating => exact trivial
  | looking | acting | cascading | cancelling | ended => exact trivial

/-- Products that are judged good are cleared by the answers about them. -/
theorem cleared_of_judge {ids : List ProductId} {answers : List Answer}
    {judged : List (ProductId × Product)} (hlength : answers.length = ids.length)
    (h : judge ids answers = .ok judged) : ∀ id ∈ ids, Cleared (ids.zip answers) id := by
  intro id hid
  obtain ⟨i, hi, rfl⟩ := List.mem_iff_getElem.1 hid
  have hmem : (ids[i], answers[i]) ∈ ids.zip answers := by
    refine List.mem_iff_getElem.2 ⟨i, ?_, List.getElem_zip⟩
    rw [List.length_zip]
    omega
  obtain ⟨p, hp⟩ := forSale_of_judge h _ hmem
  exact ⟨answers[i], p, hmem, hp⟩

/-- What a plan adds has been validated before, or is validated late. -/
theorem Call.backed_planned {ref : OrderRef} {candidates : List ProductId} {revision : Revision}
    (h : ∀ id ∈ candidates, Cleared told id) :
    (Call.asking (Stage.planned ref candidates revision)).Backed told := by
  unfold Stage.planned
  dsimp only
  split
  · next hlate =>
    intro id hid
    rw [List.isEmpty_iff, List.filter_eq_nil_iff] at hlate
    exact h id (by simpa using hlate id hid)
  · intro id hid
    by_cases hcandidate : id ∈ candidates
    · exact Or.inr (h id hcandidate)
    · exact Or.inl (List.mem_filter.2 ⟨hid, by simpa using hcandidate⟩)

theorem Starts.backed {fresh : Uuid} {now : Timestamp} {s s' : Service} {r : Request} {c : Call}
    (h : Starts fresh now s r s' c) : c.Backed told := by
  cases h <;> exact trivial

namespace Switchboard

/-- What a call is told in an event, if it asks whether products can be bought. -/
def validation (b : Switchboard) (call : CallId) : Event → List (ProductId × Answer)
  | .start _ _ _ _ => []
  | .advance id answers _ _ =>
    match b.calls.get? id with
    | some ⟨_, .asking stage⟩ =>
      if id = call ∧ stage.validates then stage.questions.zip answers else []
    | _ => []

/-- What a call is told in a run when it asks whether products can be bought. -/
def validations (b : Switchboard) (call : CallId) : List Event → List (ProductId × Answer)
  | [] => []
  | e :: es =>
    match b.step e with
    | none => []
    | some b' => b.validation call e ++ b'.validations call es

variable {b b' : Switchboard} {e : Event} {es : List Event} {caller : CallId}

theorem validation_advance {request : Request} {stage : Stage} {answers : List Answer}
    {fresh : Uuid} {now : Timestamp} (h : b.calls.get? caller = some ⟨request, .asking stage⟩)
    (hvalidates : stage.validates) :
    b.validation caller (.advance caller answers fresh now) = stage.questions.zip answers := by
  simp only [validation, h, hvalidates, and_self, if_true]

theorem validations_cons (h : b.step e = some b') :
    b.validations caller (e :: es) = b.validation caller e ++ b'.validations caller es := by
  rw [validations, h]

theorem validations_append (h : b.run es = some b') (es' : List Event) :
    b.validations caller (es ++ es') = b.validations caller es ++ b'.validations caller es' := by
  induction es generalizing b with
  | nil =>
    cases h
    rfl
  | cons e es ih =>
    obtain ⟨b₁, hstep, hrun⟩ := run_cons_eq_some_iff.1 h
    rw [List.cons_append, validations_cons hstep, validations_cons hstep, ih hrun,
      List.append_assoc]

/-! ## Backed calls -/

/-- Every call is backed by what it has been told. -/
def Backed (b : Switchboard) (told : CallId → List (ProductId × Answer)) : Prop :=
  ∀ call r c, b.calls.get? call = some ⟨r, c⟩ → c.Backed (told call)

theorem backed_step (h : b.step e = some b') {told : CallId → List (ProductId × Answer)}
    (hb : Backed b told) : Backed b' fun call => told call ++ b.validation call e := by
  intro call r c hc
  by_cases hcall : call = e.call
  · subst hcall
    cases moves_of_step h with
    | start hnew hstart =>
      cases (Table.get?_insert_self ..).symm.trans hc
      exact hstart.backed
    | @advance call answers fresh now entry s' c' hentry hready hadv =>
      obtain ⟨request, before⟩ := entry
      cases (Table.get?_insert_self ..).symm.trans hc
      have hlength : answers.length = before.questions.length := hready.2.1
      have hbefore : before.Backed (told call) := hb call _ _ hentry
      show c.Backed (told call ++ b.validation call (.advance call answers fresh now))
      cases hadv with
      | held hjudge _ _ _ =>
        rw [validation_advance hentry rfl]
        exact Call.backed_planned fun id hid => (cleared_of_judge hlength hjudge id hid).right
      | confirmed hjudge =>
        rw [validation_advance hentry rfl]
        intro id hid
        rcases hbefore id hid with hlate | hcleared
        · exact (cleared_of_judge hlength hjudge id hlate).right
        · exact hcleared.left
      | looked | lookFailed | revised | placed | askFailed | submitted | cancelled | actFailed
      | finished | passedOver | found | swept | spared => exact trivial
  · exact (hb call r c ((get?_calls_of_step h hcall).symm.trans hc)).left

theorem backed_run (h : b.run es = some b') {told : CallId → List (ProductId × Answer)}
    (hb : Backed b told) : Backed b' fun call => told call ++ b.validations call es := by
  induction es generalizing b told with
  | nil =>
    cases h
    exact fun call r c hc => (hb call r c hc).left
  | cons e es ih =>
    obtain ⟨b₁, hstep, hrun⟩ := run_cons_eq_some_iff.1 h
    have hrest := ih hrun (backed_step hstep hb)
    simp only [validations_cons hstep, ← List.append_assoc]
    exact hrest

/-! ## Completions -/

/-- A completion is an event in which its call gets its last answers. -/
theorem advance_of_completion? {c : Completion} (h : b.completion? b' e = some c) :
    ∃ fresh now, e = .advance c.call c.answers fresh now := by
  cases e with
  | start id request fresh now => cases h
  | advance id answers fresh now =>
    rw [completion?] at h
    split at h
    · cases h
      exact ⟨fresh, now, rfl⟩
    · cases h

/-- What is completed puts on its order what was there, or what its call has validated. -/
theorem cleared_of_completion? (hb : Coherent b) (h : b.step e = some b')
    {told : CallId → List (ProductId × Answer)} (hbacked : Backed b told) {c : Completion}
    (hc : b.completion? b' e = some c) :
    ∀ id ∈ c.order.items.map (·.product),
      (∃ o, b.service.orders.atSlot? c.slot = some o ∧ id ∈ o.items.map (·.product)) ∨
        Cleared (told c.call ++ b.validation c.call e) id := by
  obtain ⟨fresh, now, rfl⟩ := advance_of_completion? hc
  obtain ⟨-, hentry, -⟩ := completion?_eq_some hc
  cases commits_of_step hb h with
  | nothing hnone _ => cases hnone.symm.trans hc
  | creation _ hlength hjudge _ _ hsome =>
    cases hsome.symm.trans hc
    intro id hid
    right
    rw [validation_advance hentry rfl]
    exact (cleared_of_judge (hlength.trans (List.length_map _).symm) hjudge id hid).right
  | @revision _ ref _ _ revision _ _ o _ hslot _ hrevise _ _ _ hsome =>
    cases hsome.symm.trans hc
    intro id hid
    have hadded : ∀ id ∈ revision.added, Cleared (told _) id := hbacked _ _ _ hentry
    rcases LineItem.mem_products_revise hrevise id hid with hold | hnew
    · exact Or.inl ⟨o, hslot, hold⟩
    · exact Or.inr (hadded id hnew).left

/-- An order that a caller gets for placing or changing it is completed in the event in which the
call comes to its end. -/
theorem completion?_of_ordered (hb : Coherent b) (h : b.step e = some b') {request : Request}
    {o : Order} (hrequest : (∃ r, request = .create r) ∨ ∃ id inputs, request = .revise id inputs)
    (hopen : b.Open caller) (hc : b'.calls.get? caller = some ⟨request, .ended (.order (.ok o))⟩) :
    ∃ c, b.completion? b' e = some c ∧ c.call = caller ∧ c.order = o := by
  rcases hrequest with ⟨r, rfl⟩ | ⟨id, inputs, rfl⟩
  · have hcall : caller = e.call := by
      by_contra hne
      exact hopen _ _ ((get?_calls_of_step h hne).symm.trans hc)
    subst hcall
    cases moves_of_step h with
    | start hnew hstart =>
      cases (Table.get?_insert_self ..).symm.trans hc
      cases hstart
    | @advance call answers fresh now entry s' c hentry hready hadv =>
      obtain ⟨request, before⟩ := entry
      cases (Table.get?_insert_self ..).symm.trans hc
      cases hb.serves call _ hentry with
      | @creating _ owner items _ =>
        refine ⟨⟨call, .create r, .creating owner items, answers, b.service.orders.size, o⟩, ?_,
          rfl, rfl⟩
        simp only [completion?, hentry, Table.get?_insert_self]
        rfl
      | ended => cases hadv
  · obtain ⟨c, hcompletion, hcall, -, horder⟩ := completion?_of_revised hb h hopen hc
    exact ⟨c, hcompletion, hcall, horder⟩

/-- **Only validated products enter an order.**  In every run, whatever the catalog answers and
whatever other calls do meanwhile: a product that is on an order after an event and was not on it
before has been validated, with a good answer, by the call that the event completes, within this
call.  And the order that a caller gets for placing or changing it stands in the book right after
the event that completes the call, with the products that stood in its place before and those that
the call has validated. -/
theorem only_validated_products_enter {s : Service} (h : (ofService s).run es = some b)
    (hstep : b.step e = some b') :
    (∀ slot o id, b'.service.orders.atSlot? slot = some o → id ∈ o.items.map (·.product) →
      (∀ before, b.service.orders.atSlot? slot = some before →
        id ∉ before.items.map (·.product)) →
      (∃ request, b'.calls.get? e.call = some ⟨request, .ended (.order (.ok o))⟩) ∧
        Cleared ((ofService s).validations e.call (es ++ [e])) id) ∧
    ∀ call request o, (∃ r, request = .create r) ∨ (∃ id inputs, request = .revise id inputs) →
      b.Open call → b'.calls.get? call = some ⟨request, .ended (.order (.ok o))⟩ →
      ∃ slot, b'.service.orders.atSlot? slot = some o ∧ ∀ id ∈ o.items.map (·.product),
        (∃ before, b.service.orders.atSlot? slot = some before ∧
          id ∈ before.items.map (·.product)) ∨
        Cleared ((ofService s).validations call (es ++ [e])) id := by
  have hb : Coherent b := coherent_run h
  have hbacked : Backed b fun call => [] ++ (ofService s).validations call es :=
    backed_run h fun call r c hc => by cases hc
  have hentered : ∀ c, b.completion? b' e = some c → ∀ id ∈ c.order.items.map (·.product),
      (∃ o, b.service.orders.atSlot? c.slot = some o ∧ id ∈ o.items.map (·.product)) ∨
        Cleared ((ofService s).validations c.call (es ++ [e])) id := by
    intro c hc id hid
    have htold := cleared_of_completion? hb hstep hbacked hc id hid
    rw [validations_append h, validations_cons hstep]
    exact htold.imp_right fun hcleared => by simpa [validations] using hcleared
  constructor
  · intro slot o id ho hid hnew
    by_cases hcompletion : ∃ c, b.completion? b' e = some c ∧ c.slot = slot
    · obtain ⟨c, hc, rfl⟩ := hcompletion
      obtain ⟨hstands, -⟩ := prices_of_completion? hb hstep hc
      cases hstands.symm.trans ho
      obtain ⟨hcall, -, request, hended⟩ := completion?_eq_some hc
      rw [← hcall]
      refine ⟨⟨request, hended⟩, ?_⟩
      rcases hentered c hc id hid with ⟨before, hbefore, hold⟩ | hcleared
      · exact absurd hold (hnew before hbefore)
      · exact hcleared
    · -- without a completion the lines are what they were
      have hbill := bill_of_step hb hstep slot fun c hc heq => hcompletion ⟨c, hc, heq⟩
      obtain ⟨before, hbefore, heq⟩ := OrderBook.exists_of_bill hbill.symm ho
      rw [← (Order.bill_eq_iff.1 heq).2.1] at hid
      exact absurd hid (hnew before hbefore)
  · intro call request o hrequest hopen hended
    obtain ⟨c, hc, rfl, rfl⟩ := completion?_of_ordered hb hstep hrequest hopen hended
    exact ⟨c.slot, (prices_of_completion? hb hstep hc).1, hentered c hc⟩

namespace Rehearsal

def minusOne : Signed64 := ⟨-1, by decide, by decide⟩

/-- While one caller wants more tea, another one takes all tea off the order; so tea, which was on
the order when the first caller looked at it, is asked for late. -/
def emptying : List Event :=
  [.start (call 6) (.revise (order 1) [line one]) .nil midnight,
    .advance (call 6) [] .nil midnight,
    .start (call 7) (.revise (order 1) [line minusOne]) .nil midnight,
    .advance (call 7) [] .nil midnight, .advance (call 7) [] .nil midnight,
    .advance (call 7) [] .nil midnight, .advance (call 6) [] .nil midnight,
    .advance (call 6) [.ok tea] .nil midnight]

/-- The first caller gets the price of tea, and tea on the order. -/
def refilling : Event := .advance (call 6) [.ok tea] .nil midnight

end Rehearsal

open Rehearsal in
theorem only_validated_products_enter_when_emptied :
    ∃ b b' o, (ofService .empty).run (ordering ++ emptying) = some b ∧ b.step refilling = some b' ∧
      (b.service.orders.atSlot? 0).map (·.items) = some [] ∧
      b'.service.orders.atSlot? 0 = some o ∧ o.items.map (·.product) = [tea.id] ∧
      Cleared ((ofService .empty).validations (call 6) (ordering ++ emptying ++ [refilling]))
        tea.id := by
  have hrun : ((ofService .empty).run (ordering ++ emptying)).bind (fun b =>
      (b.step refilling).bind fun b' => (b'.service.orders.atSlot? 0).map fun o =>
        ((b.service.orders.atSlot? 0).map (·.items), o.items.map (·.product))) =
      some (some [], [tea.id]) := by decide
  obtain ⟨b, hb, hrun⟩ := Option.bind_eq_some_iff.1 hrun
  obtain ⟨b', hb', hrun⟩ := Option.bind_eq_some_iff.1 hrun
  obtain ⟨o, ho, hlines⟩ := Option.map_eq_some_iff.1 hrun
  obtain ⟨hempty, htea⟩ := Prod.mk.inj hlines
  have hentered := (only_validated_products_enter hb hb').1 0 o tea.id ho
    (htea ▸ List.mem_singleton_self _) (fun before hbefore hmem => by
      rw [hbefore, Option.map_some, Option.some.injEq] at hempty
      rw [hempty] at hmem
      cases hmem)
  exact ⟨b, b', o, hb, hb', hempty, ho, htea, hentered.2⟩

end Switchboard

end OrderDesk
