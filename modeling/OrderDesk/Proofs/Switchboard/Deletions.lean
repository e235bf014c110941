import OrderDesk.Proofs.Switchboard.Failures
import OrderDesk.Proofs.Switchboard.Notes
import OrderDesk.Proofs.Switchboard.Refusals

/-!
# Deletions that are under way

Deleting a user takes many steps: first the user goes, and only then their orders are looked for one
by one.  In between there are pending orders whose owner is gone.  What keeps order is that the
deletion remembers which orders it has yet to look at (`Call.remaining`), and that these are orders
of the user it is about.  `Tracked` says what holds at every moment:

* a call that has found an order finds it where it found it (`located`);
* what a deletion has yet to look at are orders of its user (`owned`);
* a user whose deletion has begun is gone and never comes back (`gone`);
* a pending order whose owner is gone is one that a deletion of its owner has yet to look at
  (`covered`).

From this follows `no_pending_order_is_orphaned`: where no deletion is under way, the owner of every
pending order is there, and the order is noted with them.
-/

namespace OrderDesk

namespace Call

/-- The order that a call has found and will look at in its next step. -/
def target? : Call → Option OrderRef
  | .looking ref _ => some ref
  | .acting ref _ => some ref
  | .cancelling ref _ _ => some ref
  | .asking _ => none
  | .cascading _ _ => none
  | .ended _ => none

/-- The orders that a deletion has yet to look at. -/
def remaining : Call → List OrderId
  | .cascading rest _ => rest
  | .cancelling ref rest _ => ref.id :: rest
  | .looking _ _ => []
  | .asking _ => []
  | .acting _ _ => []
  | .ended _ => []

/-- Is it a deletion that is under way? -/
def Cascades : Call → Prop
  | .cascading _ _ => True
  | .cancelling _ _ _ => True
  | .looking _ _ => False
  | .asking _ => False
  | .acting _ _ => False
  | .ended _ => False

theorem cascades_of_remaining {c : Call} {id : OrderId} (h : id ∈ c.remaining) : c.Cascades := by
  cases c with
  | cascading | cancelling => trivial
  | looking | asking | acting | ended => cases h

end Call

/-- What the lines of a new order come to with the answers to its questions, if its products can be
bought and priced. -/
def quote (items : List LineItem) (answers : List Answer) : Except OrderError Decimal := do
  let products ← judge (items.map (·.product)) answers
  totalOf products items

/-- Where the owner of a new order is not there, the order is not placed. -/
theorem Call.advance_creating_of_gone {fresh : Uuid} {now : Timestamp} {answers : List Answer}
    {s : Service} {u : UserId} {items : List LineItem} (h : s.users.get? u = none) :
    (Call.asking (.creating (some u) items)).advance fresh now answers s =
      (s, .ended (.order (quote items answers >>= fun _ => .error (.ownerNotFound u)))) := by
  simp only [Call.advance, Stage.resume, quote, Stage.fail, bind, Except.bind]
  cases judge (items.map (·.product)) answers with
  | error e => rfl
  | ok products =>
    dsimp only
    cases totalOf products items with
    | error e => rfl
    | ok total =>
      simp only [Service.insertOrder, Order.place, Accounts.noteOrder?_eq_none h]

/-! ## Single steps -/

theorem Starts.target_located {fresh : Uuid} {now : Timestamp} {s s' : Service} {r : Request}
    {c : Call} (h : Starts fresh now s r s' c) {ref : OrderRef} (hc : c.target? = some ref) :
    ∃ o, s.orders.atSlot? ref.slot = some o ∧ o.id = ref.id := by
  cases h with
  | looking _ hslot =>
    cases hc
    exact OrderBook.exists_of_slot? hslot
  | acting hslot =>
    cases hc
    exact OrderBook.exists_of_slot? hslot
  | creating | createFailed | reviseFailed | actFailed | registered | registerFailed | redeemed
  | redeemFailed | awarded | awardFailed | removed | removeFailed => cases hc

/-- A deletion begins with all that is noted with its user, who is gone from then on. -/
theorem Starts.deletes {fresh : Uuid} {now : Timestamp} {s s' : Service} {u : UserId} {c : Call}
    (h : Starts fresh now s (.deleteUser u) s' c) :
    (∃ ids, s.users.notedOrders? u = some ids ∧ s'.users.notedOrders? u = none ∧
      c = .cascading ids []) ∨ ¬ c.Sure ∧ c.remaining = [] := by
  cases h with
  | removed hnoted =>
    refine Or.inl ⟨_, hnoted, ?_, rfl⟩
    exact (Accounts.notedOrders?_erase ..).trans (if_pos rfl)
  | removeFailed _ =>
    refine Or.inr ⟨fun hsure => ?_, rfl⟩
    cases hsure

/-- Only a deletion takes users away. -/
theorem Starts.live_of_live {fresh : Uuid} {now : Timestamp} {s s' : Service} {r : Request}
    {c : Call} (h : Starts fresh now s r s' c) {u : UserId} (hr : r ≠ .deleteUser u)
    (hlive : s.users.notedOrders? u ≠ none) : s'.users.notedOrders? u ≠ none := by
  cases h with
  | creating | createFailed | looking | reviseFailed | acting | actFailed | registerFailed
  | redeemFailed | awardFailed | removeFailed => exact hlive
  | registered hregister =>
    rw [Accounts.notedOrders?_of_register hregister]
    split
    · simp
    · exact hlive
  | redeemed hredeem =>
    rw [Accounts.notedOrders?_of_execute hredeem]
    exact hlive
  | awarded haward =>
    rw [Accounts.notedOrders?_of_execute haward]
    exact hlive
  | @removed id ids _ =>
    have hne : id ≠ u := fun heq => hr (heq ▸ rfl)
    rw [Accounts.notedOrders?_erase, if_neg hne]
    exact hlive

namespace Advances

variable {fresh : Uuid} {now : Timestamp} {answers : List Answer} {s s' : Service} {c c' : Call}

theorem target_located (h : Advances fresh now answers s c s' c') {ref : OrderRef}
    (hc : c'.target? = some ref) : ∃ o, s.orders.atSlot? ref.slot = some o ∧ o.id = ref.id := by
  cases h with
  | found hslot =>
    cases hc
    exact OrderBook.exists_of_slot? hslot
  | looked | lookFailed | held | confirmed | revised | placed | askFailed | submitted | cancelled
  | actFailed | finished | passedOver | swept | spared => cases hc

theorem live_of_live (h : Advances fresh now answers s c s' c') {u : UserId}
    (hlive : s.users.notedOrders? u ≠ none) : s'.users.notedOrders? u ≠ none := by
  cases h with
  | looked | lookFailed | held | confirmed | askFailed | actFailed | finished | passedOver | found
  | spared | revised | cancelled | swept => exact hlive
  | submitted _ _ _ husers =>
    rcases husers with ⟨-, hsame⟩ | ⟨v, balance, -, haward⟩
    · rw [hsame]
      exact hlive
    · rw [Accounts.notedOrders?_of_execute haward]
      exact hlive
  | placed _ _ _ husers =>
    rw [(notedOrders?_of_placed husers).1]
    simpa using hlive

/-- A deletion never comes to look at more than it has yet to look at. -/
theorem remaining_subset (h : Advances fresh now answers s c s' c') {id : OrderId}
    (hid : id ∈ c'.remaining) : id ∈ c.remaining := by
  cases h with
  | passedOver _ => exact List.mem_cons_of_mem _ hid
  | found _ => exact hid
  | swept _ _ => exact List.mem_cons_of_mem _ hid
  | spared _ => exact List.mem_cons_of_mem _ hid
  | looked | lookFailed | held | confirmed | revised | placed | askFailed | submitted | cancelled
  | actFailed | finished => cases hid

/-- A deletion does not leave behind an order that is still pending. -/
theorem remaining_of_pending (h : Advances fresh now answers s c s' c') (hd : s.orders.Distinct)
    (hlocated : ∀ ref, c.target? = some ref →
      ∃ o, s.orders.atSlot? ref.slot = some o ∧ o.id = ref.id)
    {slot : Nat} {o o' : Order} (hslot : s.orders.atSlot? slot = some o)
    (hslot' : s'.orders.atSlot? slot = some o') (hp : o'.status = .pending)
    (hid : o.id ∈ c.remaining) : o.id ∈ c'.remaining := by
  -- the order in the slot that a deletion looks at is the one it is about
  have hsame : ∀ {ref : OrderRef}, c.target? = some ref → o.id = ref.id → ref.slot = slot := by
    intro ref hc heq
    obtain ⟨p, hp, hpid⟩ := hlocated ref hc
    exact (hd.eq_of_id hslot hp (hpid.trans heq.symm)).1
  cases h with
  | passedOver hnone =>
    rcases List.mem_cons.1 hid with rfl | hrest
    · cases hnone.symm.trans (hd.slot?_eq hslot)
    · exact hrest
  | found _ => exact hid
  | swept hswept _ =>
    rcases List.mem_cons.1 hid with heq | hrest
    · have hslots := hsame rfl heq
      subst hslots
      cases (OrderBook.atSlot?_put_self _ hswept).symm.trans hslot'
      cases hp
    · exact hrest
  | spared hother =>
    rcases List.mem_cons.1 hid with heq | hrest
    · have hslots := hsame rfl heq
      subst hslots
      exact absurd hp (hother o' hslot')
    · exact hrest
  | looked | lookFailed | held | confirmed | revised | placed | askFailed | submitted | cancelled
  | actFailed | finished => cases hid

/-- A deletion that has removed its user had done so before. -/
theorem sure_of_deletes (h : Advances fresh now answers s c s' c') {u : UserId}
    (hserves : Serves s.orders (.deleteUser u) c) : c.Sure := by
  cases hserves with
  | cascading | cancelling => trivial
  | ended => cases h

end Advances

namespace Affects

variable {s s' : Service} {given : Option Uuid} {u : UserId}

/-- Who is gone stays so, unless their identifier is given out again. -/
theorem gone_of_gone (h : Affects s given s') (hgone : s.users.notedOrders? u = none)
    (hu : given ≠ some u) : s'.users.notedOrders? u = none := by
  cases h with
  | keeps _ hnoted => rw [hnoted, hgone]
  | registers hgiven _ hnoted =>
    rw [hnoted, if_neg, hgone]
    exact fun heq => hu (heq ▸ hgiven)
  | removes _ hnoted =>
    rw [hnoted, hgone, ite_self]
  | places _ _ hnoted _ => rw [hnoted, hgone, Option.map_none]

/-- Who owns an order that was not there before is there. -/
theorem live_of_new (h : Affects s given s') {id : OrderId}
    (hnew : (id, some u) ∉ s.orders.keys) (hk : (id, some u) ∈ s'.orders.keys) :
    s'.users.notedOrders? u ≠ none := by
  cases h with
  | keeps hkeys _ => exact absurd (hkeys ▸ hk) hnew
  | registers _ hkeys _ => exact absurd (hkeys ▸ hk) hnew
  | removes hkeys _ => exact absurd (hkeys ▸ hk) hnew
  | places _ hkeys hnoted hlive =>
    rw [hkeys, List.mem_append, List.mem_singleton] at hk
    rcases hk with hk | hk
    · exact absurd hk hnew
    · cases hk
      rw [hnoted]
      simpa using hlive u rfl

end Affects

/-! ## What holds at every moment -/

namespace Switchboard

/-- What is known of the calls that are about orders which they have found, and of deletions. -/
structure Tracked (b : Switchboard) (known : List Uuid) : Prop where
  located : ∀ id r c ref, b.calls.get? id = some ⟨r, c⟩ → c.target? = some ref →
    ∃ o, b.service.orders.atSlot? ref.slot = some o ∧ o.id = ref.id
  owned : ∀ id u c, b.calls.get? id = some ⟨.deleteUser u, c⟩ →
    ∀ order ∈ c.remaining, order ∈ b.service.orders.idsOf u
  gone : ∀ id u c, b.calls.get? id = some ⟨.deleteUser u, c⟩ → c.Sure →
    b.service.users.notedOrders? u = none ∧ u ∈ known
  covered : ∀ slot o u, b.service.orders.atSlot? slot = some o → o.status = .pending →
    o.owner = some u → b.service.users.notedOrders? u = none →
    ∃ id c, b.calls.get? id = some ⟨.deleteUser u, c⟩ ∧ o.id ∈ c.remaining

/-- What has to be known before an event. -/
structure Orderly (b : Switchboard) (known : List Uuid) : Prop where
  coherent : Coherent b
  indexed : Indexed b.service known
  tracked : Tracked b known

variable {s : Service} {b b' : Switchboard} {known : List Uuid} {e : Event} {es es' : List Event}

namespace Orderly

/-- A call that has found an order finds it where it found it. -/
theorem located_step (hb : Orderly b known) (h : b.step e = some b') (id : CallId) (r : Request)
    (c : Call) (ref : OrderRef) (hc : b'.calls.get? id = some ⟨r, c⟩)
    (href : c.target? = some ref) :
    ∃ o, b'.service.orders.atSlot? ref.slot = some o ∧ o.id = ref.id := by
  have hbefore : ∃ o, b.service.orders.atSlot? ref.slot = some o ∧ o.id = ref.id := by
    rcases call_of_step h hc with hsame | ⟨fresh, now, hstart⟩ | ⟨_, _, _, before, _, hadv⟩
    · exact hb.tracked.located id r c ref hsame href
    · exact hstart.target_located href
    · exact hadv.target_located href
  obtain ⟨o, hslot, ho⟩ := hbefore
  obtain ⟨o', hslot', hcontinues⟩ := continues_of_step h hslot
  exact ⟨o', hslot', hcontinues.id.trans ho⟩

/-- What a deletion has yet to look at are orders of its user. -/
theorem owned_step (hb : Orderly b known) (h : b.step e = some b') (id : CallId) (u : UserId)
    (c : Call) (hc : b'.calls.get? id = some ⟨.deleteUser u, c⟩) :
    ∀ order ∈ c.remaining, order ∈ b'.service.orders.idsOf u := by
  intro order horder
  have hbefore : order ∈ b.service.orders.idsOf u := by
    rcases call_of_step h hc with hsame | ⟨fresh, now, hstart⟩ | ⟨_, _, _, before, hbefore, hadv⟩
    · exact hb.tracked.owned id u c hsame order horder
    · rcases hstart.deletes with ⟨ids, hnoted, -, rfl⟩ | ⟨-, hnil⟩
      · exact hb.indexed.noted u ids hnoted ▸ horder
      · rw [hnil] at horder
        cases horder
    · exact hb.tracked.owned id u before hbefore order (hadv.remaining_subset horder)
  rw [OrderBook.mem_idsOf_iff] at hbefore ⊢
  exact (keys_prefix_of_step h).subset hbefore

/-- A user whose deletion has begun is gone. -/
theorem gone_step (hb : Orderly b known) (h : b.step e = some b')
    (hnew : ∀ id ∈ b.given? e, id ∉ known) (id : CallId) (u : UserId) (c : Call)
    (hc : b'.calls.get? id = some ⟨.deleteUser u, c⟩) (hsure : c.Sure) :
    b'.service.users.notedOrders? u = none ∧ u ∈ known := by
  have hstays : b.service.users.notedOrders? u = none ∧ u ∈ known →
      b'.service.users.notedOrders? u = none ∧ u ∈ known := by
    rintro ⟨hgone, hknown⟩
    exact ⟨(affects_of_step h).gone_of_gone hgone fun hgiven => hnew u hgiven hknown, hknown⟩
  rcases call_of_step h hc with hsame | ⟨fresh, now, hstart⟩ | ⟨_, _, _, before, hbefore, hadv⟩
  · exact hstays (hb.tracked.gone id u c hsame hsure)
  · rcases hstart.deletes with ⟨ids, hnoted, hgone, -⟩ | ⟨hnot, -⟩
    · exact ⟨hgone, hb.indexed.user_known u ids hnoted⟩
    · exact absurd hsure hnot
  · have hbefore_sure := hadv.sure_of_deletes (hb.coherent.serves id _ hbefore)
    exact hstays (hb.tracked.gone id u before hbefore hbefore_sure)

/-- An event in which a user goes away is the beginning of their deletion. -/
theorem deletes_of_step (h : b.step e = some b') {u : UserId}
    (hlive : b.service.users.notedOrders? u ≠ none)
    (hgone : b'.service.users.notedOrders? u = none) :
    ∃ ids, b.service.users.notedOrders? u = some ids ∧
      b'.calls.get? e.call = some ⟨.deleteUser u, .cascading ids []⟩ := by
  cases moves_of_step h with
  | @start id request fresh now s' c _ hstart =>
    by_cases hr : request = .deleteUser u
    · subst hr
      rcases hstart.deletes with ⟨ids, hnoted, -, rfl⟩ | ⟨hnot, -⟩
      · exact ⟨ids, hnoted, Table.get?_insert_self ..⟩
      · -- a deletion that fails takes nobody away
        rcases hstart.sure with hsame | hsure
        · have hsame : s' = b.service := hsame
          subst hsame
          exact absurd hgone hlive
        · exact absurd hsure hnot
    · exact absurd hgone (hstart.live_of_live hr hlive)
  | advance _ _ hadv => exact absurd hgone (hadv.live_of_live hlive)

/-- A pending order whose owner is gone was there before, and was pending, since an order is only
placed for who is there. -/
theorem pending_before (h : b.step e = some b') (hd : b'.service.orders.Distinct) {slot : Nat}
    {o' : Order} {u : UserId} (hslot' : b'.service.orders.atSlot? slot = some o')
    (hp : o'.status = .pending) (howner : o'.owner = some u)
    (hgone : b'.service.users.notedOrders? u = none) :
    ∃ o, b.service.orders.atSlot? slot = some o ∧ o.id = o'.id ∧ o.owner = some u ∧
      o.status = .pending := by
  have hk : (o'.id, some u) ∈ b'.service.orders.keys :=
    howner ▸ OrderBook.mem_keys_of_atSlot? hslot'
  have hbefore : (o'.id, some u) ∈ b.service.orders.keys := by
    by_contra hnew
    exact (affects_of_step h).live_of_new hnew hk hgone
  obtain ⟨slot₀, o, hslot, hid, hown⟩ := OrderBook.exists_of_mem_keys hbefore
  obtain ⟨o₁, hslot₁, hchange⟩ := changes_of_step h hslot
  have hid₁ : o₁.id = o'.id := by
    obtain ⟨o₂, hslot₂, hcontinues⟩ := continues_of_step h hslot
    cases hslot₁.symm.trans hslot₂
    exact hcontinues.id.trans hid
  obtain ⟨rfl, rfl⟩ := hd.eq_of_id hslot' hslot₁ hid₁
  refine ⟨o, hslot, hid, hown, ?_⟩
  rcases hchange with rfl | ⟨hpending, -⟩
  · exact hp
  · exact hpending

/-- A pending order whose owner is gone is one that a deletion of its owner has yet to look at. -/
theorem covered_step (hb : Orderly b known) (h : b.step e = some b')
    (hd : b'.service.orders.Distinct) (slot : Nat) (o' : Order) (u : UserId)
    (hslot' : b'.service.orders.atSlot? slot = some o') (hp : o'.status = .pending)
    (howner : o'.owner = some u) (hgone : b'.service.users.notedOrders? u = none) :
    ∃ id c, b'.calls.get? id = some ⟨.deleteUser u, c⟩ ∧ o'.id ∈ c.remaining := by
  obtain ⟨o, hslot, hid, hown, hpending⟩ := pending_before h hd hslot' hp howner hgone
  by_cases hlive : b.service.users.notedOrders? u = none
  · -- the deletion that has yet to look at the order does not leave it behind
    obtain ⟨id, c, hc, hmem⟩ := hb.tracked.covered slot o u hslot hpending hown hlive
    by_cases hcall : id = e.call
    · subst hcall
      cases moves_of_step h with
      | start hfresh _ => cases hfresh.symm.trans hc
      | @advance id answers fresh now entry s' c' hentry _ hadv =>
        obtain ⟨request, before⟩ := entry
        cases hentry.symm.trans hc
        have hlocated := fun ref => hb.tracked.located id _ c ref hc
        refine ⟨id, c', Table.get?_insert_self .., hid ▸ ?_⟩
        exact hadv.remaining_of_pending hb.indexed.distinct hlocated hslot hslot' hp hmem
    · exact ⟨id, c, (get?_calls_of_step h hcall).trans hc, hid ▸ hmem⟩
  · obtain ⟨ids, hnoted, hc⟩ := deletes_of_step h hlive hgone
    refine ⟨e.call, _, hc, ?_⟩
    show o'.id ∈ ids
    rw [hb.indexed.noted u ids hnoted, ← hid, OrderBook.mem_idsOf_iff, ← hown]
    exact OrderBook.mem_keys_of_atSlot? hslot

theorem step (hb : Orderly b known) (h : b.step e = some b')
    (hnew : ∀ id ∈ b.given? e, id ∉ known) : Orderly b' (known ++ (b.given? e).toList) := by
  have hindexed : Indexed b'.service (known ++ (b.given? e).toList) :=
    hb.indexed.of_affects (affects_of_step h) hnew
  refine ⟨coherent_step hb.coherent h, hindexed, ?_, ?_, ?_, ?_⟩
  · exact hb.located_step h
  · exact hb.owned_step h
  · intro id u c hc hsure
    obtain ⟨hgone, hknown⟩ := hb.gone_step h hnew id u c hc hsure
    exact ⟨hgone, List.mem_append_left _ hknown⟩
  · exact hb.covered_step h hindexed.distinct

end Orderly

/-! ## Every run -/

/-- A service that may be started with is orderly. -/
theorem orderly_start (hs : s = .empty ∨ ∃ now, Demo.load now .empty = .ok s) :
    Orderly (ofService s) s.ids where
  coherent := coherent_ofService s
  indexed := indexed_start hs
  tracked := by
    have hnone : ∀ id e, (ofService s).calls.get? id ≠ some e := by
      intro id e hc
      cases hc
    refine ⟨?_, ?_, ?_, ?_⟩
    · exact fun id r c ref hc => absurd hc (hnone id _)
    · exact fun id u c hc => absurd hc (hnone id _)
    · exact fun id u c hc => absurd hc (hnone id _)
    · intro slot o u hslot _ howner hgone
      rcases hs with rfl | ⟨now, hload⟩
      · cases hslot
      · have hk : (o.id, o.owner) ∈ s.orders.keys := OrderBook.mem_keys_of_atSlot? hslot
        exact absurd hgone (Demo.owner_there hload hk howner)

theorem orderly_run (hs : s = .empty ∨ ∃ now, Demo.load now .empty = .ok s)
    (h : (ofService s).run es = some b) (hids : NeverRepeats s es) :
    Orderly b (s.ids ++ (ofService s).given es) :=
  run_preserves_known (P := Orderly) (fun _ _ _ _ hb h hnew => hb.step h hnew) hids
    (orderly_start hs) h

/-! ## A rehearsal with a user who leaves -/

namespace Rehearsal

def purchase (quantity : Signed64) : OrderRequest :=
  ⟨some "00000000-0000-0000-0000-000000000009", [line quantity]⟩

/-- A user who has bought something wants more of it and to buy it once again, and is deleted while
the answers for both are under way. -/
def leaving : List Event :=
  buying ++
    [.start (call 4) (.revise (order 2) [line one]) .nil midnight,
      .advance (call 4) [] .nil midnight,
      .start (call 8) (.create (purchase one)) .nil midnight] ++
    deleting (user 9) 3

/-- The most expensive tea of all. -/
def dearTea : Product :=
  { tea with price := (Decimal.ofInt? 79228162514264337593543950335).getD .zero }

/-- A user registers, wants to buy something, and is deleted while the answer is under way. -/
def vanishing : List Event :=
  [.start (call 6) (.register john) (user 9) midnight,
    .start (call 7) (.create (purchase two)) .nil midnight] ++
    deleting (user 9) 1

def wish : LineInput := ⟨"00000000-0000-0000-0000-000000000008", one⟩

/-- A user who has bought something wants something else as well, and is deleted while the answer is
under way. -/
def wishing : List Event :=
  buying ++
    [.start (call 4) (.revise (order 2) [wish]) .nil midnight,
      .advance (call 4) [] .nil midnight] ++
    deleting (user 9) 3

end Rehearsal

/-! ## Owners -/

/-- **No pending order is orphaned**, in every state that is reached from nothing or from the demo
data while identifiers are never given out twice.

* Where no deletion of its owner is under way, a listed order that is pending and has an owner has
  one who is there, and with whom it is noted.
* When a new order is to be placed whose owner a deletion has removed meanwhile, nothing is placed,
  and the call fails: with what is wrong with the products or their prices, if anything is, and
  otherwise because the owner is not found.
* When the answers come for a change of an order that has been cancelled meanwhile, nothing is
  changed, and the call fails: with what is wrong with the products that it would add, if anything
  is, and otherwise because the order is not pending. -/
theorem no_pending_order_is_orphaned (hs : s = .empty ∨ ∃ now, Demo.load now .empty = .ok s)
    (h : (ofService s).run es = some b) (hids : NeverRepeats s es) :
    (∀ o ∈ b.service.orders.list, o.status = .pending → ∀ u, o.owner = some u →
      (∀ id c, b.calls.get? id = some ⟨.deleteUser u, c⟩ → ¬ c.Cascades) →
      ∃ account, b.service.users.get? u = some account ∧ o.id ∈ account.orders) ∧
    (∀ id r u items deletion c answers fresh now b',
      b.calls.get? id = some ⟨.create r, .asking (.creating (some u) items)⟩ →
      b.calls.get? deletion = some ⟨.deleteUser u, c⟩ → c.Sure →
      b.step (.advance id answers fresh now) = some b' →
      b'.service = b.service ∧ b'.calls.get? id = some ⟨.create r,
        .ended (.order (quote items answers >>= fun _ => .error (.ownerNotFound u)))⟩) ∧
    ∀ id order inputs ref deltas candidates answers fresh now b',
      b.calls.get? id =
        some ⟨.revise order inputs, .asking (.validating ref deltas candidates)⟩ →
      ∀ o ∈ b.service.orders.list, o.id = order → o.status ≠ .pending →
      b.step (.advance id answers fresh now) = some b' →
      b'.service = b.service ∧ b'.calls.get? id = some ⟨.revise order inputs,
        .ended (.order (judge candidates answers >>= fun _ =>
          .error (.notPending order o.status)))⟩ := by
  have hb : Orderly b _ := orderly_run hs h hids
  have hlist : b.service.orders.list = b.service.orders.orders := hb.indexed.distinct.list_eq
  refine ⟨?_, ?_, ?_⟩
  · intro o ho hp u howner hnone
    obtain ⟨slot, hslot⟩ := OrderBook.exists_atSlot? (hlist ▸ ho)
    cases hnoted : b.service.users.notedOrders? u with
    | none =>
      obtain ⟨id, c, hc, hmem⟩ := hb.tracked.covered slot o u hslot hp howner hnoted
      exact absurd (Call.cascades_of_remaining hmem) (hnone id c hc)
    | some ids =>
      obtain ⟨account, haccount, rfl⟩ := Accounts.notedOrders?_eq_some_iff.1 hnoted
      refine ⟨account, haccount, ?_⟩
      rw [hb.indexed.noted u _ hnoted, OrderBook.mem_idsOf_iff, ← howner]
      exact OrderBook.mem_keys_of_atSlot? hslot
  · intro id r u items deletion c answers fresh now b' hc hdeletion hsure hstep
    have hgone : b.service.users.notedOrders? u = none :=
      (hb.tracked.gone deletion u c hdeletion hsure).1
    obtain ⟨entry, hentry, -, rfl⟩ := step_advance_eq_some_iff.1 hstep
    cases hentry.symm.trans hc
    rw [Call.advance_creating_of_gone (Accounts.notedOrders?_eq_none_iff.1 hgone)]
    exact ⟨rfl, Table.get?_insert_self ..⟩
  · intro id order inputs ref deltas candidates answers fresh now b' hc o ho hid hp hstep
    obtain ⟨slot, hslot⟩ := OrderBook.exists_atSlot? (hlist ▸ ho)
    obtain ⟨entry, hentry, -, rfl⟩ := step_advance_eq_some_iff.1 hstep
    cases hentry.symm.trans hc
    cases hb.coherent.serves id _ hc with
    | validating _ hslot' hid' =>
      obtain ⟨rfl, rfl⟩ := hb.indexed.distinct.eq_of_id hslot hslot' (hid'.trans hid.symm)
      rw [Call.advance_validating_of_not_pending hslot' hp, hid]
      exact ⟨rfl, Table.get?_insert_self ..⟩

open Rehearsal in
theorem no_pending_order_is_orphaned_when_leaving :
    ∃ b₀ b b₁ b₂, (ofService .empty).run buying = some b₀ ∧ NeverRepeats .empty buying ∧
      (∃ account, b₀.service.users.get? (user 9) = some account ∧ order 2 ∈ account.orders) ∧
      (ofService .empty).run leaving = some b ∧ NeverRepeats .empty leaving ∧
      b.step (.advance (call 8) [.ok tea] (order 3) midnight) = some b₁ ∧
      b₁.service = b.service ∧ b₁.calls.get? (call 8) =
        some ⟨.create (purchase one), .ended (.order (.error (.ownerNotFound (user 9))))⟩ ∧
      b.step (.advance (call 4) [] .nil midnight) = some b₂ ∧
      b₂.service = b.service ∧ b₂.calls.get? (call 4) = some ⟨.revise (order 2) [line one],
        .ended (.order (.error (.notPending (order 2) .cancelled)))⟩ := by
  -- before the user is deleted
  have hrun₀ : ((ofService .empty).run buying).map (fun b =>
      (b.service.orders.list.map fun o => (o.id, o.status, o.owner),
        b.calls.values.map fun e => e.call.result?.isSome)) =
        some ([(order 2, .pending, some (user 9))], [true, true]) := by decide
  have hids₀ : NeverRepeats .empty buying := by decide
  obtain ⟨b₀, hb₀, hviews⟩ := Option.map_eq_some_iff.1 hrun₀
  rw [Prod.mk.injEq, List.map_eq_singleton_iff] at hviews
  obtain ⟨⟨o, horders, ho⟩, hcalls⟩ := hviews
  simp only [Prod.mk.injEq] at ho
  have hnone : ∀ id c, b₀.calls.get? id = some ⟨.deleteUser (user 9), c⟩ → ¬ c.Cascades := by
    intro id c hc hcascades
    have hended : c.result?.isSome ∈ [true, true] :=
      hcalls ▸ List.mem_map_of_mem (Table.mem_values_of_get? hc)
    cases c with
    | cascading | cancelling => simp [Call.result?] at hended
    | looking | asking | acting | ended => exact hcascades
  have hnoted := (no_pending_order_is_orphaned (.inl rfl) hb₀ hids₀).1 o
    (horders ▸ List.mem_singleton_self o) ho.2.1 (user 9) ho.2.2 hnone
  rw [ho.1] at hnoted
  -- while the user is deleted
  have hids : NeverRepeats .empty leaving := by decide
  have hrun : ((ofService .empty).run leaving).map (fun b =>
      (b.service.orders.list.map fun o => (o.id, o.status),
        (b.step (.advance (call 8) [.ok tea] (order 3) midnight)).isSome,
        (b.step (.advance (call 4) [] .nil midnight)).isSome)) =
        some ([(order 2, .cancelled)], true, true) := by decide
  have hcreate : ((ofService .empty).run leaving).bind (·.calls.get? (call 8)) =
      some ⟨.create (purchase one),
        .asking (.creating (some (user 9)) [⟨.ofNat 7, ⟨1, by decide, by decide⟩⟩])⟩ := by rfl
  have hrevise : ((ofService .empty).run leaving).bind (·.calls.get? (call 4)) =
      some ⟨.revise (order 2) [line one],
        .asking (.validating ⟨order 2, 0⟩ [⟨.ofNat 7, one⟩] [])⟩ := by rfl
  have hdelete : ((ofService .empty).run leaving).bind (·.calls.get? (call 9)) =
      some ⟨.deleteUser (user 9), .ended (.deleted (.ok [order 2]))⟩ := by rfl
  obtain ⟨b, hb, hviews⟩ := Option.map_eq_some_iff.1 hrun
  rw [hb, Option.bind_some] at hcreate hrevise hdelete
  rw [Prod.mk.injEq, Prod.mk.injEq, List.map_eq_singleton_iff, Option.isSome_iff_exists,
    Option.isSome_iff_exists] at hviews
  obtain ⟨⟨p, hlist, hp⟩, ⟨b₁, hb₁⟩, b₂, hb₂⟩ := hviews
  obtain ⟨hid, hstatus⟩ := Prod.mk.inj hp
  obtain ⟨-, hplaced, hchanged⟩ := no_pending_order_is_orphaned (.inl rfl) hb hids
  obtain ⟨hsame₁, hend₁⟩ := hplaced _ _ _ _ _ _ _ _ _ b₁ hcreate hdelete rfl hb₁
  obtain ⟨hsame₂, hend₂⟩ := hchanged _ _ _ _ _ _ _ _ _ b₂ hrevise p
    (hlist ▸ List.mem_singleton_self p) hid (by simp [hstatus]) hb₂
  rw [hstatus] at hend₂
  exact ⟨b₀, b, b₁, b₂, hb₀, hids₀, hnoted, hb, hids, hb₁, hsame₁, hend₁, hb₂, hsame₂, hend₂⟩

/-- A run and one event more, with what is seen of two calls before and of one of them after it. -/
theorem exists_of_seen {call other : CallId} {before deletion after : Option Entry}
    (h : ((ofService s).run es).bind (fun b => (b.step e).map fun b' =>
      (b.calls.get? call, b.calls.get? other, b'.calls.get? call)) =
        some (before, deletion, after)) :
    ∃ b b', (ofService s).run es = some b ∧ b.step e = some b' ∧ b.calls.get? call = before ∧
      b.calls.get? other = deletion ∧ b'.calls.get? call = after := by
  obtain ⟨b, hb, h⟩ := Option.bind_eq_some_iff.1 h
  obtain ⟨b', hb', h⟩ := Option.map_eq_some_iff.1 h
  simp only [Prod.mk.injEq] at h
  exact ⟨b, b', hb, hb', h⟩

open Rehearsal in
/-- A call that fails after a deletion need not say that the owner is not found or that the order is
not pending.  In the first run the product of a new order can be bought, and the call fails because
the total would be too large; in the second one a change fails because the product that it would add
does not exist. -/
theorem failure_need_not_tell_of_deletion :
    (NeverRepeats .empty vanishing ∧
      judge [.ofNat 7] [.ok dearTea] = .ok [(.ofNat 7, dearTea)] ∧
      ∃ b b', (ofService .empty).run vanishing = some b ∧
        b.step (.advance (call 7) [.ok dearTea] (order 2) midnight) = some b' ∧
        b.calls.get? (call 7) = some ⟨.create (purchase two),
          .asking (.creating (some (user 9)) [⟨.ofNat 7, ⟨2, by decide, by decide⟩⟩])⟩ ∧
        b.calls.get? (call 9) = some ⟨.deleteUser (user 9), .ended (.deleted (.ok []))⟩ ∧
        b'.calls.get? (call 7) = some ⟨.create (purchase two), .ended (.order (.error
          (.catalogUnavailable ("price of product " ++ (Uuid.ofNat 7).text ++
            " overflows the order total"))))⟩) ∧
    NeverRepeats .empty wishing ∧
      ∃ b b', (ofService .empty).run wishing = some b ∧
        b.step (.advance (call 4) [.error (.notFound (.ofNat 8))] .nil midnight) = some b' ∧
        b.calls.get? (call 4) = some ⟨.revise (order 2) [wish],
          .asking (.validating ⟨order 2, 0⟩ [⟨.ofNat 8, one⟩] [.ofNat 8])⟩ ∧
        b.calls.get? (call 9) =
          some ⟨.deleteUser (user 9), .ended (.deleted (.ok [order 2]))⟩ ∧
        b'.calls.get? (call 4) = some ⟨.revise (order 2) [wish],
          .ended (.order (.error (.invalidProducts [.ofNat 8])))⟩ :=
  ⟨⟨by decide, by rfl, exists_of_seen (by rfl)⟩, by decide, exists_of_seen (by rfl)⟩

end Switchboard

end OrderDesk
