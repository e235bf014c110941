import OrderDesk.Proofs.Order.Lines
import OrderDesk.Proofs.Service.Perform
import OrderDesk.Proofs.Service.Totals

/-!
# A catalog whose answers do not change

Where the catalog always says the same about a product (`Steady`), the stages of an operation come
to one rule that names the catalog's answers and nothing of the questions.

* `Service.createOrder_eq_ok_iff` — which new orders succeed, and what they are.
* `Service.reviseOrder_eq_ok_iff` — the same of changes.  What is added when a change is looked at
  for the first time is what is added when the order is held, so nothing is asked for late.
* `Service.reviseOrder_iff` — the same, told of the order that the change is about.
-/

namespace OrderDesk

/-- The catalog says the same about a product whenever it is asked. -/
def Steady {κ : Type} (ask : κ → List ProductId → κ × List Answer) (answer : ProductId → Answer) :
    Prop :=
  ∀ catalog ids, (ask catalog ids).2 = ids.map answer

/-- A product that can be bought. -/
def ForSale (answer : ProductId → Answer) (id : ProductId) : Prop :=
  ∃ p, (answer id).forSale id = .ok p

/-- The total of lines at the prices that a catalog answers. -/
def priceBy (answer : ProductId → Answer) (items : List LineItem) : Except OrderError Decimal :=
  price items (items.map fun item => answer item.product)

variable {answer : ProductId → Answer}

/-! ## Judging and pricing -/

theorem judge_eq_ok_of_forSale {ids : List ProductId} (h : ∀ id ∈ ids, ForSale answer id) :
    ∃ judged, judge ids (ids.map answer) = .ok judged := by
  have hnone : ∀ c : Complaints,
      (List.zipWith (fun id a => (id, Answer.forSale id a)) ids (ids.map answer)).foldl
        Complaints.note c = c := by
    intro c
    induction ids with
    | nil => rfl
    | cons id ids ih =>
      rw [List.forall_mem_cons] at h
      obtain ⟨⟨p, hp⟩, hrest⟩ := h
      rw [List.map_cons, List.zipWith_cons_cons, List.foldl_cons, hp]
      exact ih hrest
  unfold judge
  dsimp only
  rw [Complaints.ofAnswers, hnone]
  exact ⟨_, rfl⟩

theorem zip_map_answer (ids : List ProductId) (answer : ProductId → Answer) :
    ids.zip (ids.map answer) = ids.map fun id => (id, answer id) := by
  rw [← List.zip_map', List.map_id']

theorem forSale_of_judge_map {ids : List ProductId} {judged : List (ProductId × Product)}
    (h : judge ids (ids.map answer) = .ok judged) : ∀ id ∈ ids, ForSale answer id := by
  intro id hid
  have hmem : (id, answer id) ∈ ids.zip (ids.map answer) :=
    zip_map_answer ids answer ▸ List.mem_map_of_mem hid
  exact forSale_of_judge h _ hmem

theorem price_map_ok (items : List LineItem) (products : List Product) :
    price items (products.map .ok) = totalAt items products := by
  rw [price, totalAt, List.zip_map_right, List.foldlM_map]
  rfl

/-- The lines of a new order are priced like those of a changed one. -/
theorem totalOf_eq_priceBy {items : List LineItem} {judged : List (ProductId × Product)}
    (hd : (items.map (·.product)).Nodup)
    (h : judge (items.map (·.product)) ((items.map (·.product)).map answer) = .ok judged) :
    totalOf judged items = priceBy answer items := by
  have hlength : ((items.map (·.product)).map answer).length = items.length := by
    rw [List.length_map, List.length_map]
  obtain ⟨⟨products, hanswers, -, htotal⟩, -⟩ := judge_lines_eq_ok hd hlength h
  rw [htotal, priceBy, ← price_map_ok, ← hanswers, List.map_map]
  rfl

/-! ## Changes -/

/-- An order permits changes: it is pending, the changes can be made of its lines, and what they
add can be bought. -/
structure Order.Permits (answer : ProductId → Answer) (o : Order) (deltas : List Delta)
    (revision : Revision) : Prop where
  pending : o.status = .pending
  revised : o.revise deltas = .ok revision
  forSale : ∀ id ∈ revision.added, ForSale answer id
  positive : ∀ item ∈ revision.items, 0 < item.quantity.val

theorem Order.decide_replaceItems_eq_ok_iff {o : Order} {items : List LineItem} {total : Decimal}
    {e : OrderEvent} :
    o.decide (.replaceItems items total) = .ok e ↔
      o.status = .pending ∧ (∀ item ∈ items, 0 < item.quantity.val) ∧
        e = .itemsReplaced items total := by
  rw [Order.decide, Fallible.bind_eq_ok_iff]
  simp only [Order.requirePending_eq_ok_iff, exists_and_left, exists_const]
  refine and_congr_right fun _ => ?_
  cases hbad : items.find? (fun item => item.quantity.val ≤ 0) with
  | some bad =>
    have hle : bad.quantity.val ≤ 0 := by simpa using List.find?_some hbad
    refine ⟨fun h => (by cases h), fun h => ?_⟩
    have hpos := h.1 bad (List.mem_of_find?_eq_some hbad)
    omega
  | none =>
    have hall : ∀ item ∈ items, 0 < item.quantity.val := by
      simpa using List.find?_eq_none.1 hbad
    constructor
    · rintro ⟨⟩
      exact ⟨hall, rfl⟩
    · rintro ⟨-, rfl⟩
      rfl

namespace Stage

variable {ref : OrderRef} {deltas : List Delta} {validated : List ProductId}
  {revision : Revision} {o o' : Order} {stage : Stage} {s s' : Service} {total : Decimal}

theorem commit_eq_ok_iff :
    commit s ref revision total o = (s', .ok o') ↔
      o.status = .pending ∧ (∀ item ∈ revision.items, 0 < item.quantity.val) ∧
        o' = o.apply (.itemsReplaced revision.items total) ∧
        s' = { s with orders := s.orders.put ref.slot o' } := by
  constructor
  · intro h
    obtain ⟨hpending, ho', hs'⟩ := commit_eq_ok h
    unfold commit at h
    split at h
    · cases h
    · next e hexec =>
      obtain ⟨hdecide, -⟩ := Order.execute_eq_ok_iff.1 hexec
      exact ⟨hpending, (Order.decide_replaceItems_eq_ok_iff.1 hdecide).2.1, ho', hs'⟩
  · rintro ⟨hpending, hpositive, rfl, rfl⟩
    have hdecide := Order.decide_replaceItems_eq_ok_iff.2
      ⟨hpending, hpositive, (rfl : OrderEvent.itemsReplaced revision.items total = _)⟩
    have hexec := Order.execute_eq_ok_iff.2 ⟨hdecide, rfl⟩
    rw [commit, hexec]

theorem ofOrder_eq_ok_iff :
    ofOrder ref deltas o = .ok stage ↔ o.status = .pending ∧
      ∃ revision, o.revise deltas = .ok revision ∧
        stage = .validating ref deltas revision.added := by
  refine ⟨ofOrder_eq_ok, ?_⟩
  rintro ⟨hpending, revision, hrevision, rfl⟩
  have hp : o.requirePending = .ok () := Order.requirePending_eq_ok_iff.2 hpending
  rw [ofOrder, hp, hrevision]
  rfl

/-- An order that has not changed since it was looked at is priced at once. -/
theorem ofHeld_added (hpending : o.status = .pending) (hrevision : o.revise deltas = .ok revision) :
    ofHeld ref deltas revision.added o = .ok (.pricing ref revision) := by
  have hlate : revision.added.filter (fun id => !revision.added.contains id) = [] := by
    simp
  have hp : o.requirePending = .ok () := Order.requirePending_eq_ok_iff.2 hpending
  rw [ofHeld, hp, hrevision]
  show Except.ok (planned ref revision.added revision) = _
  rw [planned, hlate]
  rfl

end Stage

namespace Service

variable {κ : Type} {ask : κ → List ProductId → κ × List Answer} {fresh : OrderId} {now : Timestamp}
  {catalog : κ} {s s' : Service} {stage : Stage} {o o' : Order}

/-! ## Operations -/

theorem settle_eq_ok_iff :
    (s.settle ask fresh now catalog stage).2 = (s', .ok o) ↔
      stage.resume fresh now s (ask catalog stage.questions).2 = .finished s' (.ok o) ∨
        ∃ next, stage.resume fresh now s (ask catalog stage.questions).2 = .waiting next ∧
          (s.settle ask fresh now (ask catalog stage.questions).1 next).2 = (s', .ok o) := by
  cases hresume : stage.resume fresh now s (ask catalog stage.questions).2 with
  | finished s₁ result =>
    rw [settle_of_finished hresume]
    simp
  | waiting next =>
    rw [settle_of_waiting hresume]
    simp

theorem settle_creating_eq_ok_iff (hask : Steady ask answer) {owner : Option UserId}
    {items : List LineItem} (hitems : LineItem.Regular items) :
    (s.settle ask fresh now catalog (.creating owner items)).2 = (s', .ok o) ↔
      (∀ item ∈ items, ForSale answer item.product) ∧
        ∃ total, priceBy answer items = .ok total ∧
          s.insertOrder (.place fresh now owner items total) = (s', .ok o) := by
  rw [settle_eq_ok_iff, hask]
  constructor
  · rintro (hresume | ⟨next, hresume, -⟩)
    · rcases Stage.resume_eq_ok hresume with
        ⟨_, _, judged, total, ⟨⟩, hjudge, htotal, hinsert⟩ | ⟨_, _, _, _, ⟨⟩, _⟩
      rw [totalOf_eq_priceBy hitems.distinct hjudge] at htotal
      refine ⟨fun item hitem => ?_, total, htotal, hinsert⟩
      exact forSale_of_judge_map hjudge _ (List.mem_map_of_mem hitem)
    · rcases Stage.resume_eq_waiting hresume with ⟨_, _, _, _, _, ⟨⟩, _⟩ | ⟨_, _, _, _, ⟨⟩, _⟩
  · rintro ⟨hsale, total, htotal, hinsert⟩
    left
    obtain ⟨judged, hjudge⟩ := judge_eq_ok_of_forSale (List.forall_mem_map.2 hsale)
    rw [← totalOf_eq_priceBy hitems.distinct hjudge] at htotal
    simp only [Stage.resume, Stage.questions, hjudge, htotal, hinsert]

theorem settle_pricing_eq_ok_iff (hask : Steady ask answer) {ref : OrderRef} {revision : Revision}
    (hslot : s.orders.atSlot? ref.slot = some o) :
    (s.settle ask fresh now catalog (.pricing ref revision)).2 = (s', .ok o') ↔
      ∃ total, priceBy answer revision.items = .ok total ∧
        Stage.commit s ref revision total o = (s', .ok o') := by
  have hprice : price revision.items ((revision.items.map (·.product)).map answer) =
      priceBy answer revision.items := by
    rw [List.map_map]
    rfl
  rw [settle_eq_ok_iff, hask]
  constructor
  · rintro (hresume | ⟨next, hresume, -⟩)
    · rcases Stage.resume_eq_ok hresume with
        ⟨_, _, _, _, ⟨⟩, _⟩ | ⟨_, _, total, o₁, ⟨⟩, htotal, hslot₁, hcommit⟩
      cases hslot.symm.trans hslot₁
      exact ⟨total, hprice.symm.trans htotal, hcommit⟩
    · rcases Stage.resume_eq_waiting hresume with ⟨_, _, _, _, _, ⟨⟩, _⟩ | ⟨_, _, _, _, ⟨⟩, _⟩
  · rintro ⟨total, htotal, hcommit⟩
    left
    simp only [Stage.resume, Stage.questions, hprice, htotal, hslot, hcommit]

theorem settle_validating_eq_ok_iff (hask : Steady ask answer) {ref : OrderRef}
    {deltas : List Delta} {revision : Revision} (hslot : s.orders.atSlot? ref.slot = some o)
    (hpending : o.status = .pending) (hrevision : o.revise deltas = .ok revision) :
    (s.settle ask fresh now catalog (.validating ref deltas revision.added)).2 = (s', .ok o') ↔
      (∀ id ∈ revision.added, ForSale answer id) ∧
        ∃ total, priceBy answer revision.items = .ok total ∧
          Stage.commit s ref revision total o = (s', .ok o') := by
  have hheld : Stage.ofHeld ref deltas revision.added o = .ok (.pricing ref revision) :=
    Stage.ofHeld_added hpending hrevision
  rw [settle_eq_ok_iff, hask, ← settle_pricing_eq_ok_iff hask hslot]
  constructor
  · rintro (hresume | ⟨next, hresume, hsettle⟩)
    · rcases Stage.resume_eq_ok hresume with ⟨_, _, _, _, ⟨⟩, _⟩ | ⟨_, _, _, _, ⟨⟩, _⟩
    · rcases Stage.resume_eq_waiting hresume with
        ⟨_, _, _, _, o₁, ⟨⟩, hjudge, hslot₁, hnext⟩ | ⟨_, _, _, _, ⟨⟩, _⟩
      cases hslot.symm.trans hslot₁
      cases hheld.symm.trans hnext
      exact ⟨forSale_of_judge_map hjudge, hsettle⟩
  · rintro ⟨hsale, hsettle⟩
    right
    obtain ⟨judged, hjudge⟩ := judge_eq_ok_of_forSale hsale
    refine ⟨.pricing ref revision, ?_, hsettle⟩
    simp only [Stage.resume, Stage.questions, hjudge, hslot, hheld]

/-- **Which new orders succeed**, and what they are. -/
theorem createOrder_eq_ok_iff (hask : Steady ask answer) {r : OrderRequest} :
    (s.createOrder ask fresh now catalog r).2 = (s', .ok o) ↔
      ∃ owner items total, UserId.parseOwner r.owner = .ok owner ∧
        LineItem.ofInputs r.products = .ok items ∧
        (∀ item ∈ items, ForSale answer item.product) ∧ priceBy answer items = .ok total ∧
        s.insertOrder (.place fresh now owner items total) = (s', .ok o) := by
  unfold createOrder beginCreate
  cases howner : UserId.parseOwner r.owner with
  | error e => exact ⟨fun h => (by cases h), fun ⟨_, _, _, h, _⟩ => (by cases h)⟩
  | ok owner =>
    cases hitems : LineItem.ofInputs r.products with
    | error e => exact ⟨fun h => (by cases h), fun ⟨_, _, _, _, h, _⟩ => (by cases h)⟩
    | ok items =>
      show (s.settle ask fresh now catalog (.creating owner items)).2 = _ ↔ _
      rw [settle_creating_eq_ok_iff hask (LineItem.regular_ofInputs hitems)]
      constructor
      · rintro ⟨hsale, total, htotal, hinsert⟩
        exact ⟨owner, items, total, rfl, rfl, hsale, htotal, hinsert⟩
      · rintro ⟨_, _, total, ⟨⟩, ⟨⟩, hsale, htotal, hinsert⟩
        exact ⟨hsale, total, htotal, hinsert⟩

/-- **Which changes succeed**, and what they make of the order. -/
theorem reviseOrder_eq_ok_iff (hask : Steady ask answer) {id : OrderId} {inputs : List LineInput} :
    (s.reviseOrder ask now catalog id inputs).2 = (s', .ok o') ↔
      ∃ deltas slot o revision total, Delta.ofInputs inputs = .ok deltas ∧
        s.orders.slot? id = some slot ∧ s.orders.atSlot? slot = some o ∧
        o.Permits answer deltas revision ∧ priceBy answer revision.items = .ok total ∧
        o' = o.apply (.itemsReplaced revision.items total) ∧
        s' = { s with orders := s.orders.put slot o' } := by
  unfold reviseOrder beginRevision revisionTarget
  cases hdeltas : Delta.ofInputs inputs with
  | error e => exact ⟨fun h => (by cases h), fun ⟨_, _, _, _, _, h, _⟩ => (by cases h)⟩
  | ok deltas =>
    cases hslot : s.orders.slot? id with
    | none => exact ⟨fun h => (by cases h), fun ⟨_, _, _, _, _, _, h, _⟩ => (by cases h)⟩
    | some slot =>
      obtain ⟨o, hat, -⟩ := OrderBook.exists_of_slot? hslot
      have hbegin : s.beginRevisionAt ⟨id, slot⟩ deltas = Stage.ofOrder ⟨id, slot⟩ deltas o := by
        rw [beginRevisionAt, hat]
      show (s.run ask .nil now catalog (s.beginRevisionAt ⟨id, slot⟩ deltas)).2 = _ ↔ _
      rw [hbegin]
      constructor
      · intro h
        cases hstart : Stage.ofOrder ⟨id, slot⟩ deltas o with
        | error e =>
          rw [hstart] at h
          cases h
        | ok stage =>
          obtain ⟨hpending, revision, hrevision, rfl⟩ := Stage.ofOrder_eq_ok hstart
          rw [hstart] at h
          obtain ⟨hsale, total, htotal, hcommit⟩ :=
            (settle_validating_eq_ok_iff hask hat hpending hrevision).1 h
          obtain ⟨-, hpositive, ho', hs'⟩ := Stage.commit_eq_ok_iff.1 hcommit
          exact ⟨deltas, slot, o, revision, total, rfl, rfl, hat,
            ⟨hpending, hrevision, hsale, hpositive⟩, htotal, ho', hs'⟩
      · rintro ⟨_, _, _, revision, total, ⟨⟩, ⟨⟩, hat', hpermits, htotal, ho', hs'⟩
        cases hat.symm.trans hat'
        rw [Stage.ofOrder_eq_ok_iff.2 ⟨hpermits.pending, revision, hpermits.revised, rfl⟩]
        refine (settle_validating_eq_ok_iff hask hat hpermits.pending hpermits.revised).2
          ⟨hpermits.forSale, total, htotal, ?_⟩
        exact Stage.commit_eq_ok_iff.2 ⟨hpermits.pending, hpermits.positive, ho', hs'⟩

theorem order_eq_ok_iff {id : OrderId} : s.order id = .ok o ↔ s.orders.get? id = some o := by
  unfold order
  cases s.orders.get? id <;> simp

/-- Whether a change succeeds, told of the order that it is about. -/
theorem reviseOrder_iff (hask : Steady ask answer) {id : OrderId} {inputs : List LineInput}
    {p : Order} (ho : s.order id = .ok o) :
    (s.reviseOrder ask now catalog id inputs).2.2 = .ok p ↔
      ∃ deltas r total, Delta.ofInputs inputs = .ok deltas ∧ o.Permits answer deltas r ∧
        priceBy answer r.items = .ok total ∧ p = o.apply (.itemsReplaced r.items total) := by
  obtain ⟨slot, hslot, hat⟩ := Option.bind_eq_some_iff.1 (order_eq_ok_iff.1 ho)
  constructor
  · intro h
    have hresult : (s.reviseOrder ask now catalog id inputs).2 = (_, .ok p) := Prod.ext rfl h
    obtain ⟨deltas, slot', o', r, total, hdeltas, hslot', hat', hpermits, hprice, hp, -⟩ :=
      (reviseOrder_eq_ok_iff hask).1 hresult
    cases hslot.symm.trans hslot'
    cases hat.symm.trans hat'
    exact ⟨deltas, r, total, hdeltas, hpermits, hprice, hp⟩
  · rintro ⟨deltas, r, total, hdeltas, hpermits, hprice, rfl⟩
    exact congrArg Prod.snd ((reviseOrder_eq_ok_iff hask).2
      ⟨deltas, slot, o, r, total, hdeltas, hslot, hat, hpermits, hprice, rfl, rfl⟩)

end Service

end OrderDesk
