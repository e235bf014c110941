import OrderDesk.Proofs.Switchboard.Deletions

/-!
# The life of an order

An order is placed, and from then on it stands in its place in the list with the same identifier,
owner and date.  It begins as pending.  Its status changes once at most: when it is submitted, when
it is cancelled, or when its owner is deleted (`Turns`).  Submitting fixes the points that it earns,
according to the total that it has then (`Order.Accrues`), and nothing about it changes any more
afterwards.

* `turns_of_step` — the ways in which an event changes the status of an order.
* `accrues_run` — points are accrued by submitting only.
* `orders_live_by_the_rules` — all of this for the list of orders, and what becomes of requests for
  an order that is not pending.
-/

namespace OrderDesk

/-! ## Points that are accrued -/

/-- An order that has been submitted has accrued the points for its total, and one that is pending
or cancelled none; there are no others. -/
def Order.Accrues (o : Order) : Prop :=
  (o.status = .pending ∨ o.status = .cancelled) ∧ o.accrued = .zero ∨
    o.status = .processing ∧ o.accrued = loyaltyPoints o.total

namespace Order.Accrues

theorem place (id : OrderId) (now : Timestamp) (owner : Option UserId) (items : List LineItem)
    (total : Decimal) : (Order.place id now owner items total).Accrues :=
  Or.inl ⟨Or.inl rfl, rfl⟩

theorem accrued_of_pending {o : Order} (h : o.Accrues) (hp : o.status = .pending) :
    o.accrued = .zero := by
  rcases h with ⟨-, hzero⟩ | ⟨hprocessing, -⟩
  · exact hzero
  · cases hp.symm.trans hprocessing

end Order.Accrues

theorem Changes.accrues {c c' : Call} {slot : Nat} {o o' : Order} (h : Changes c c' slot o o')
    (hp : o.status = .pending) (ho : o.Accrues) : o'.Accrues := by
  have hzero : o.accrued = .zero := ho.accrued_of_pending hp
  cases h with
  | revised => exact Or.inl ⟨Or.inl hp, hzero⟩
  | submitted => exact Or.inr ⟨rfl, rfl⟩
  | cancelled => exact Or.inl ⟨Or.inr rfl, hzero⟩
  | swept => exact Or.inl ⟨Or.inr rfl, hzero⟩

namespace Switchboard

variable {b b₁ b' : Switchboard} {known : List Uuid} {e : Event} {es es' : List Event}

/-- All orders have accrued what they ought to. -/
def Accrues (b : Switchboard) : Prop :=
  ∀ slot o, b.service.orders.atSlot? slot = some o → o.Accrues

theorem accrues_step (hb : b.Accrues) (h : b.step e = some b') : b'.Accrues := by
  intro slot o' hslot'
  rcases origin_of_step h hslot' with
    ⟨o, hslot, rfl | ⟨hp, r, c, c', -, -, hchanges⟩⟩ | ⟨fresh, now, owner, items, total, rfl⟩
  · exact hb slot o' hslot
  · exact hchanges.accrues hp (hb slot o hslot)
  · exact .place fresh now owner items total

theorem accrues_run (h : (ofService .empty).run es = some b) : b.Accrues :=
  run_preserves (P := Accrues) (fun _ _ _ hb h => accrues_step hb h)
    (fun slot o hslot => by cases hslot) h

/-! ## Changes of status -/

/-- The ways in which the status of a pending order changes in an event: it is submitted or
cancelled, in the last step of a call that asked for it, or it is cancelled in a step of the
deletion of its owner. -/
inductive Turns (e : Event) (b' : Switchboard) (o o' : Order) : Prop
  | submitted : o'.status = .processing →
      b'.calls.get? e.call = some ⟨.act o.id .submit, .ended (.order (.ok o'))⟩ → Turns e b' o o'
  | cancelled : o'.status = .cancelled →
      b'.calls.get? e.call = some ⟨.act o.id .cancel, .ended (.order (.ok o'))⟩ → Turns e b' o o'
  | swept {u : UserId} {rest done : List OrderId} : o'.status = .cancelled → o.owner = some u →
      b'.calls.get? e.call = some ⟨.deleteUser u, .cascading rest (done ++ [o.id])⟩ →
      Turns e b' o o'

/-- A call that has found an order names it. -/
theorem Orderly.id_eq (hb : Orderly b known) {id : CallId} {r : Request} {c : Call} {ref : OrderRef}
    (hc : b.calls.get? id = some ⟨r, c⟩) (href : c.target? = some ref) {o : Order}
    (hslot : b.service.orders.atSlot? ref.slot = some o) : o.id = ref.id := by
  obtain ⟨p, hp, hid⟩ := hb.tracked.located id r c ref hc href
  cases hslot.symm.trans hp
  exact hid

/-- The order that a deletion has found is one of its user. -/
theorem Orderly.owner_eq (hb : Orderly b known) {id : CallId} {u : UserId} {ref : OrderRef}
    {rest done : List OrderId}
    (hc : b.calls.get? id = some ⟨.deleteUser u, .cancelling ref rest done⟩)
    {o : Order} (hslot : b.service.orders.atSlot? ref.slot = some o) : o.owner = some u := by
  have hid : o.id = ref.id := hb.id_eq hc rfl hslot
  have hmem : ref.id ∈ b.service.orders.idsOf u :=
    hb.tracked.owned id u _ hc ref.id (List.mem_cons_self ..)
  obtain ⟨slot, p, hp, hpid, hpowner⟩ :=
    OrderBook.exists_of_mem_keys (OrderBook.mem_idsOf_iff.1 hmem)
  obtain ⟨-, rfl⟩ := hb.indexed.distinct.eq_of_id hp hslot (hid.trans hpid.symm)
  exact hpowner

theorem turns_of_step (hb : Orderly b known) (h : b.step e = some b') {slot : Nat} {o o' : Order}
    (hslot : b.service.orders.atSlot? slot = some o)
    (hslot' : b'.service.orders.atSlot? slot = some o') :
    o'.status = o.status ∨ o.status = .pending ∧ Turns e b' o o' := by
  obtain ⟨o₁, hslot₁, hchange⟩ := changes_of_step h hslot
  cases hslot'.symm.trans hslot₁
  rcases hchange with rfl | ⟨hp, r, c, c', hc, hc', hchanges⟩
  · exact Or.inl rfl
  · have hserves : Serves b.service.orders r c := hb.coherent.serves e.call _ hc
    cases hchanges with
    | revised => exact Or.inl rfl
    | submitted hfrom href hto =>
      subst hfrom href hto
      have hid := hb.id_eq hc rfl hslot
      cases hserves with
      | acting => exact Or.inr ⟨hp, .submitted rfl (hid ▸ hc')⟩
    | cancelled hfrom href hto =>
      subst hfrom href hto
      have hid := hb.id_eq hc rfl hslot
      cases hserves with
      | acting => exact Or.inr ⟨hp, .cancelled rfl (hid ▸ hc')⟩
    | swept hfrom href hto =>
      subst hfrom href hto
      have hid := hb.id_eq hc rfl hslot
      cases hserves with
      | cancelling => exact Or.inr ⟨hp, .swept rfl (hb.owner_eq hc hslot) (hid ▸ hc')⟩

/-! ## Every run -/

namespace Rehearsal

/-- The order of the user is submitted. -/
def submitting : List Event :=
  [.start (call 10) (.act (order 2) .submit) .nil midnight,
    .advance (call 10) [] .nil midnight]

/-- Somebody wants to cancel it. -/
def regretting : Event := .start (call 11) (.act (order 2) .cancel) .nil midnight

end Rehearsal

/-- **Orders live by the rules**, in every run that begins with nothing and gives no identifier out
twice.  Whatever has happened before and whatever happens later:

* An order that is listed before an event stays in its place in the list, as the same order
  (`Order.Continues`), and if the event changes its status, the order was pending and is submitted
  or cancelled now, or cancelled by the deletion of its owner (`Turns`).
* Every order is pending or cancelled, and has accrued no points, or is in processing, and has
  accrued the points for its total.
* A request for an order that is not pending is refused with identifier and status of the order: at
  once, with nothing else happening meanwhile; and otherwise, once the event that begins its call
  has happened, the call has been refused at every later moment or is refused if it goes on, which
  it can. -/
theorem orders_live_by_the_rules (h : (ofService .empty).run es = some b)
    (hstep : b.step e = some b₁) (h' : b₁.run es' = some b')
    (hids : NeverRepeats .empty (es ++ e :: es')) :
    (∀ (i : Nat) (o : Order), b.service.orders.list[i]? = some o →
      ∃ o₁ o', b₁.service.orders.list[i]? = some o₁ ∧ b'.service.orders.list[i]? = some o' ∧
        (o₁.status = o.status ∨ o.status = .pending ∧ Turns e b₁ o o₁) ∧ o.Continues o₁ ∧
        o₁.Continues o') ∧
    (∀ o ∈ b'.service.orders.list, o.Accrues) ∧
    ∀ o ∈ b.service.orders.list, o.status ≠ .pending → ∀ r : Request, r.Targets o.id →
      (∀ (κ : Type) (ask : κ → List ProductId → κ × List Answer) (fresh : Uuid) (now : Timestamp)
        (catalog : κ), b.service.perform ask fresh now catalog r =
          (b.service, .order (.error (.notPending o.id o.status)))) ∧
      ∀ id fresh now, e = .start id r fresh now →
        b'.calls.get? id = some ⟨r, .ended (.order (.error (.notPending o.id o.status)))⟩ ∨
        ∀ fresh now, ∃ b'', b'.step (.advance id [] fresh now) = some b'' ∧
          b''.service = b'.service ∧
          b''.calls.get? id = some ⟨r, .ended (.order (.error (.notPending o.id o.status)))⟩ := by
  have hrun₁ : (ofService .empty).run (es ++ [e]) = some b₁ := by
    rw [run_append, h, Option.bind_some, run, hstep]
    rfl
  have hrun' : (ofService .empty).run (es ++ e :: es') = some b' := by
    rw [run_append, h, Option.bind_some, run, hstep, Option.bind_some, h']
  have hsplit : NeverRepeats .empty ((es ++ [e]) ++ es') := by
    rwa [List.append_assoc, List.singleton_append]
  have hb : Orderly b _ := orderly_run (.inl rfl) h (hids.left h)
  have hb₁ : Orderly b₁ _ := orderly_run (.inl rfl) hrun₁ (hsplit.left hrun₁)
  have hb' : Orderly b' _ := orderly_run (.inl rfl) hrun' hids
  rw [hb.indexed.distinct.list_eq, hb₁.indexed.distinct.list_eq, hb'.indexed.distinct.list_eq]
  refine ⟨?_, ?_, ?_⟩
  · intro slot o hslot
    obtain ⟨o₁, hslot₁, hcontinues₁⟩ := continues_of_step hstep hslot
    obtain ⟨o', hslot', hcontinues'⟩ := continues_of_run h' hslot₁
    exact ⟨o₁, o', hslot₁, hslot', turns_of_step hb hstep hslot hslot₁, hcontinues₁, hcontinues'⟩
  · intro o ho
    obtain ⟨slot, hslot⟩ := OrderBook.exists_atSlot? ho
    exact accrues_run hrun' slot o hslot
  · intro o ho hp r hr
    obtain ⟨slot, hslot⟩ := OrderBook.exists_atSlot? ho
    have hd : b.service.orders.Distinct := hb.indexed.distinct
    refine ⟨fun κ ask fresh now catalog => ?_, ?_⟩
    · exact Service.perform_of_not_pending ask fresh now catalog hd hslot hp hr
    · rintro id fresh now rfl
      obtain ⟨hslot', c, hc, hlooks | rfl⟩ := refused_of_run hd hslot hp hr hstep h'
      · exact Or.inr (exists_refusal hb'.coherent (keyed_run hrun') hslot' hp hc hlooks)
      · exact Or.inl hc

open Rehearsal in
theorem orders_live_by_the_rules_when_submitted :
    ∃ b b₁ b' o, (ofService .empty).run (buying ++ submitting) = some b ∧
      b.step regretting = some b₁ ∧
      b₁.run [.advance (call 11) [] .nil midnight] = some b' ∧
      NeverRepeats .empty
        (buying ++ submitting ++ regretting :: [.advance (call 11) [] .nil midnight]) ∧
      b.service.orders.list = [o] ∧ o.id = order 2 ∧ o.status = .processing ∧
      b'.service.orders.list[0]? = some o ∧
      b'.calls.get? (call 11) = some ⟨.act (order 2) .cancel,
        .ended (.order (.error (.notPending (order 2) .processing)))⟩ := by
  have hids : NeverRepeats .empty
      (buying ++ submitting ++ regretting :: [.advance (call 11) [] .nil midnight]) := by decide
  have hrun : ((ofService .empty).run (buying ++ submitting)).map (fun b =>
      (b.service.orders.list.map fun o => (o.id, o.status),
        (b.step regretting).bind fun b => (b.run [.advance (call 11) [] .nil midnight]).map
          fun b => (b.step (.advance (call 11) [] .nil midnight)).isSome)) =
        some ([(order 2, .processing)], some false) := by decide
  obtain ⟨b, hb, hviews⟩ := Option.map_eq_some_iff.1 hrun
  obtain ⟨hlist, hrest⟩ := Prod.mk.inj hviews
  obtain ⟨o, hlist, ho⟩ := List.map_eq_singleton_iff.1 hlist
  obtain ⟨hid, hstatus⟩ := Prod.mk.inj ho
  obtain ⟨b₁, hb₁, hrest⟩ := Option.bind_eq_some_iff.1 hrest
  obtain ⟨b', hb', hover⟩ := Option.map_eq_some_iff.1 hrest
  obtain ⟨hstays, -, hrefused⟩ := orders_live_by_the_rules hb hb₁ hb' hids
  have hmem : o ∈ b.service.orders.list := hlist ▸ List.mem_singleton_self o
  have hp : o.status ≠ .pending := by simp [hstatus]
  have hr : Request.Targets o.id (.act (order 2) .cancel) := hid ▸ .act
  obtain ⟨o₁, o', hslot₁, hslot', -, hcontinues₁, hcontinues'⟩ := hstays 0 o (by rw [hlist]; rfl)
  have hsame₁ : o₁ = o := hcontinues₁.frozen hp
  subst hsame₁
  have hsame' : o' = o₁ := hcontinues'.frozen hp
  subst hsame'
  refine ⟨b, b₁, b', o', hb, hb₁, hb', hids, hlist, hid, hstatus, hslot', ?_⟩
  rw [← hid, ← hstatus]
  rcases (hrefused o' hmem hp _ hr).2 (call 11) .nil midnight rfl with hend | hgoes
  · rwa [← hid] at hend
  · obtain ⟨b'', hb'', -⟩ := hgoes .nil midnight
    rw [hb''] at hover
    cases hover

end Switchboard

end OrderDesk
