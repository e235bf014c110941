import OrderDesk.Proofs.Store.Postings
import OrderDesk.Proofs.Switchboard.Lives

/-!
# Loyalty points

The balance of a user and the orders that earn points are kept in different stores.  The *ledger* of
a user (`Switchboard.ledger`) is read off a run from outside: for every event, the orders of the
user that are pending before it and in processing after it, and the award or the redemption for the
user that succeeds in it.  Balances and ledgers agree, since a step of a call either moves no
balance and submits nothing, or submits one order and credits its owner with what the order accrues
(`Advances.submits`).

* `ledger_posts` — the balance of a user at the end of a run is what the ledger makes of the balance
  at its beginning.
* `processed_of_run` — the ledger names every order that is submitted just once.
* `points_are_conserved` — both for a run that begins with nothing, what follows for sums, and who
  is credited with what when the status of an order is to be changed.
-/

namespace OrderDesk

/-! ## One step -/

/-- The posting on the balance of a user when a call begins and comes to this at once: points that
are awarded to the user, or that the user redeems. -/
def Request.posting? (u : UserId) : Request → Call → Option Posting
  | .award v points, .ended (.points (.ok _)) => if v = u then some (.awarded points) else none
  | .redeem v points, .ended (.points (.ok _)) => if v = u then some (.redeemed points) else none
  | _, _ => none

theorem Request.order?_posting (u : UserId) (r : Request) (c : Call) :
    (r.posting? u c).toList.filterMap Posting.order? = [] := by
  unfold posting?
  split
  · split
    · rfl
    · rfl
  · split
    · rfl
    · rfl
  · rfl

/-- The first step of a call moves the balance of a user as its posting says, unless it takes the
user away. -/
theorem Starts.posts {fresh : Uuid} {now : Timestamp} {s s' : Service} {r : Request} {c : Call}
    (h : Starts fresh now s r s' c) {u : UserId}
    (hnew : ∀ r', r = .register r' → s.users.get? fresh = none)
    (hstays : s.users.get? u ≠ none → s'.users.get? u ≠ none) :
    (r.posting? u c).toList.foldlM Posting.post? (s.users.balance u) =
      some (s'.users.balance u) := by
  cases h with
  | creating | createFailed | looking | reviseFailed | acting | actFailed | registerFailed
  | redeemFailed | awardFailed | removeFailed => rfl
  | registered hregister =>
    show some _ = some _
    rw [Accounts.balance_of_register hregister]
    split
    · next heq =>
      subst heq
      rw [Accounts.balance_of_none (hnew _ rfl)]
    · rfl
  | @redeemed id points rest users hredeem =>
    rw [Request.posting?]
    by_cases heq : id = u
    · subst heq
      have hrest := Accounts.balance_of_redeem hredeem
      rw [if_pos rfl, Option.toList_some, List.foldlM_cons, Posting.post?,
        Bounded.ofInt?_eq_some_iff.2 hrest]
      rfl
    · rw [if_neg heq, Accounts.balance_of_execute hredeem, if_neg heq]
      rfl
  | @awarded id points total users haward =>
    rw [Request.posting?, Accounts.balance_of_award haward]
    by_cases heq : id = u
    · rw [if_pos heq, if_pos heq]
      rfl
    · rw [if_neg heq, if_neg heq]
      rfl
  | @removed id ids hnoted =>
    show some _ = some _
    have hne : id ≠ u := by
      rintro rfl
      obtain ⟨account, haccount, -⟩ := Accounts.notedOrders?_eq_some_iff.1 hnoted
      refine hstays (by simp [haccount]) ?_
      exact (Table.get?_erase ..).trans (if_pos rfl)
    exact congrArg some (Accounts.balance_erase s.users hne).symm

namespace Advances

variable {fresh : Uuid} {now : Timestamp} {answers : List Answer} {s s' : Service} {c c' : Call}

/-- A further step of a call submits no order of a user and leaves the balance of the user alone, or
it submits one and credits the user with what the order accrues. -/
theorem submits (h : Advances fresh now answers s c s' c') (u : UserId) :
    (OrderBook.submissions u s.orders s'.orders = [] ∧ s'.users.balance u = s.users.balance u) ∨
      ∃ o, OrderBook.submissions u s.orders s'.orders = [o] ∧
        s'.users.balance u = (s.users.balance u).addSaturating o.accrued := by
  cases h with
  | looked | lookFailed | held | confirmed | askFailed | actFailed | finished | passedOver | found
  | spared => exact Or.inl ⟨OrderBook.submissions_self u s.orders, rfl⟩
  | placed _ _ horders husers =>
    refine Or.inl ⟨horders ▸ OrderBook.submissions_insert u _ _, ?_⟩
    rcases husers with ⟨-, hsame⟩ | ⟨v, -, hnote⟩
    · rw [hsame]
    · exact Accounts.balance_of_noteOrder? hnote u
  | revised _ hslot hp =>
    refine Or.inl ⟨(OrderBook.submissions_put hslot hp).trans (if_neg ?_), rfl⟩
    rintro ⟨hprocessing, -⟩
    cases hp.symm.trans hprocessing
  | cancelled hslot hp =>
    refine Or.inl ⟨(OrderBook.submissions_put hslot hp).trans (if_neg ?_), rfl⟩
    rintro ⟨hprocessing, -⟩
    cases hprocessing
  | swept hslot hp =>
    refine Or.inl ⟨(OrderBook.submissions_put hslot hp).trans (if_neg ?_), rfl⟩
    rintro ⟨hprocessing, -⟩
    cases hprocessing
  | @submitted ref o s' hslot hp horders husers =>
    rw [horders, OrderBook.submissions_put hslot hp]
    rcases husers with ⟨hnone, hsame⟩ | ⟨v, total, hv, haward⟩
    · refine Or.inl ⟨if_neg ?_, by rw [hsame]⟩
      rintro ⟨-, howner⟩
      cases hnone.symm.trans howner
    · rw [Accounts.balance_of_award haward]
      by_cases heq : v = u
      · subst heq
        exact Or.inr ⟨_, if_pos ⟨rfl, hv⟩, if_pos rfl⟩
      · refine Or.inl ⟨if_neg ?_, if_neg heq⟩
        rintro ⟨-, howner⟩
        exact heq (Option.some.inj (hv.symm.trans howner))

/-- What is in processing after a step was so before it, or is submitted in it. -/
theorem processed (h : Advances fresh now answers s c s' c') (u : UserId) :
    (s'.orders.processed u).Perm
      (s.orders.processed u ++ OrderBook.submissions u s.orders s'.orders) := by
  cases h with
  | looked | lookFailed | held | confirmed | askFailed | actFailed | finished | passedOver | found
  | spared =>
    rw [OrderBook.submissions_self, List.append_nil]
  | placed _ _ horders _ =>
    rw [horders, OrderBook.submissions_insert, List.append_nil, OrderBook.processed_insert (by rfl)]
  | revised _ hslot hp => exact OrderBook.processed_put hslot hp
  | submitted hslot hp horders _ => exact horders ▸ OrderBook.processed_put hslot hp
  | cancelled hslot hp => exact OrderBook.processed_put hslot hp
  | swept hslot hp => exact OrderBook.processed_put hslot hp

end Advances

/-! ## Ledgers -/

namespace Switchboard

/-- The postings on the balance of a user in an event that leads from one state to another: an order
of the user that was pending and is in processing now, and points that the event awards to the user
or that the user redeems in it. -/
def postings (u : UserId) (b b' : Switchboard) (e : Event) : List Posting :=
  (OrderBook.submissions u b.service.orders b'.service.orders).map .earned ++
    match e with
    | .start id request _ _ =>
      ((b'.calls.get? id).bind fun entry => request.posting? u entry.call).toList
    | .advance _ _ _ _ => []

/-- The postings on the balance of a user in a run, in their order. -/
def ledger (u : UserId) (b : Switchboard) : List Event → List Posting
  | [] => []
  | e :: es =>
    match b.step e with
    | none => []
    | some b' => b.postings u b' e ++ b'.ledger u es

variable {b b' : Switchboard} {known : List Uuid} {e : Event} {es : List Event} {u : UserId}

theorem ledger_cons (h : b.step e = some b') :
    b.ledger u (e :: es) = b.postings u b' e ++ b'.ledger u es := by
  rw [ledger, h]

theorem postings_post (h : b.step e = some b')
    (hnew : ∀ id ∈ b.given? e, b.service.users.get? id = none)
    (hstays : b.service.users.get? u ≠ none → b'.service.users.get? u ≠ none) :
    (b.postings u b' e).foldlM Posting.post? (b.service.users.balance u) =
      some (b'.service.users.balance u) := by
  cases moves_of_step h with
  | @start id request fresh now s' c _ hstart =>
    have hfresh : ∀ r', request = .register r' → b.service.users.get? fresh = none := by
      rintro r' rfl
      exact hnew fresh rfl
    have hposts := hstart.posts hfresh hstays
    have hsubmissions : OrderBook.submissions u b.service.orders s'.orders = [] :=
      hstart.orders_eq ▸ OrderBook.submissions_self u _
    rw [postings, hsubmissions, Table.get?_insert_self]
    exact hposts
  | @advance id answers fresh now entry s' c _ _ hadv =>
    rw [postings, List.append_nil]
    rcases hadv.submits u with ⟨hnothing, hsame⟩ | ⟨o, hone, hcredit⟩
    · rw [hnothing, hsame]
      rfl
    · rw [hone, hcredit]
      rfl

/-- A user who is gone does not come back. -/
theorem gone_of_run (hids : (known ++ b.given es).Nodup) (h : b.run es = some b')
    (hgone : b.service.users.get? u = none) (hu : u ∈ known) : b'.service.users.get? u = none := by
  have hend := run_preserves_known
    (P := fun b known => b.service.users.notedOrders? u = none ∧ u ∈ known) ?_ hids
    ⟨Accounts.notedOrders?_eq_none_iff.2 hgone, hu⟩ h
  · exact Accounts.notedOrders?_eq_none_iff.1 hend.1
  · rintro b known e b' ⟨hgone, hu⟩ hstep hnew
    refine ⟨?_, List.mem_append_left _ hu⟩
    exact (affects_of_step hstep).gone_of_gone hgone fun hgiven => hnew u hgiven hu

/-- The ledger leads from the balance at the beginning of a run to that at its end, for a user who
is there at the end. -/
theorem ledger_posts (hb : Indexed b.service known) (hids : (known ++ b.given es).Nodup)
    (h : b.run es = some b') (hlive : b'.service.users.get? u ≠ none) :
    (b.ledger u es).foldlM Posting.post? (b.service.users.balance u) =
      some (b'.service.users.balance u) := by
  induction es generalizing b known with
  | nil =>
    cases h
    rfl
  | cons e es ih =>
    obtain ⟨b₁, hstep, hrun⟩ := run_cons_eq_some_iff.1 h
    rw [given_cons hstep, ← List.append_assoc] at hids
    have hnew : ∀ id ∈ b.given? e, id ∉ known := not_mem_of_nodup hids
    have hknown : ∀ id, b.service.users.get? id ≠ none → id ∈ known := by
      intro id hid
      obtain ⟨account, haccount⟩ := Option.ne_none_iff_exists'.1 hid
      exact hb.user_known id _ (Accounts.notedOrders?_eq_some_iff.2 ⟨account, haccount, rfl⟩)
    have hposts := postings_post (u := u) hstep
      (fun id hid => by_contra fun hthere => hnew id hid (hknown id hthere))
      fun hthere hgone =>
        hlive (gone_of_run hids hrun hgone (List.mem_append_left _ (hknown u hthere)))
    rw [ledger_cons hstep, List.foldlM_append, hposts]
    exact ih (hb.of_affects (affects_of_step hstep) hnew) hids hrun

/-- The orders in a list of postings of an event are those that are submitted in it. -/
theorem order?_postings (u : UserId) (b b' : Switchboard) (e : Event) :
    (b.postings u b' e).filterMap Posting.order? =
      OrderBook.submissions u b.service.orders b'.service.orders := by
  have hearned : ∀ orders : List Order,
      (orders.map Posting.earned).filterMap Posting.order? = orders := by
    intro orders
    rw [List.filterMap_map]
    exact List.filterMap_some
  cases e with
  | advance id answers fresh now => rw [postings, List.append_nil, hearned]
  | start id request fresh now =>
    rw [postings, List.filterMap_append, hearned]
    cases b'.calls.get? id with
    | none => exact List.append_nil _
    | some entry => rw [Option.bind_some, Request.order?_posting, List.append_nil]

theorem processed_of_step (h : b.step e = some b') :
    (b'.service.orders.processed u).Perm (b.service.orders.processed u ++
      OrderBook.submissions u b.service.orders b'.service.orders) := by
  cases moves_of_step h with
  | start _ hstart => rw [hstart.orders_eq, OrderBook.submissions_self, List.append_nil]
  | advance _ _ hadv => exact hadv.processed u

/-- The orders of a user that are in processing at the end of a run were so at its beginning, or are
named in the ledger, each of them once. -/
theorem processed_of_run (h : b.run es = some b') :
    (b'.service.orders.processed u).Perm
      (b.service.orders.processed u ++ (b.ledger u es).filterMap Posting.order?) := by
  induction es generalizing b with
  | nil =>
    cases h
    rw [ledger, List.filterMap_nil, List.append_nil]
  | cons e es ih =>
    obtain ⟨b₁, hstep, hrun⟩ := run_cons_eq_some_iff.1 h
    rw [ledger_cons hstep, List.filterMap_append, order?_postings, ← List.append_assoc]
    exact (ih hrun).trans ((processed_of_step hstep).append_right _)

/-! ## Changes of status -/

/-- A call that is to change the status of an order moves the balance of a user only if it submits
an order of this user. -/
theorem user?_of_act (hb : Coherent b) (h : b.step e = some b') {order : OrderId}
    {action : OrderAction} {c : Call} (hc : b'.calls.get? e.call = some ⟨.act order action, c⟩)
    (hother : ∀ o, action = .submit → c = .ended (.order (.ok o)) → o.owner ≠ some u) :
    b'.service.users.user? u = b.service.users.user? u := by
  cases moves_of_step h with
  | start _ hstart =>
    cases (Table.get?_insert_self ..).symm.trans hc
    cases hstart with
    | acting | actFailed => rfl
  | @advance id answers fresh now entry s' c' hentry _ hadv =>
    obtain ⟨request, before⟩ := entry
    cases (Table.get?_insert_self ..).symm.trans hc
    cases hb.serves id _ hentry with
    | ended => cases hadv
    | acting =>
      cases hadv with
      | cancelled | actFailed => rfl
      | submitted _ _ _ husers =>
        rcases husers with ⟨-, hsame⟩ | ⟨v, total, hv, haward⟩
        · exact congrArg (Accounts.user? · u) hsame
        · have hne : v ≠ u := by
            rintro rfl
            exact hother _ rfl rfl hv
          exact Accounts.user?_of_execute haward hne

/-! ## Every run -/

namespace Rehearsal

def teapot : Product := { tea with price := .ofHundredths 2500 }

/-- A user buys a teapot, which earns two points, is awarded five more and redeems four. -/
def earning : List Event :=
  [.start (call 6) (.register john) (user 9) midnight,
    .start (call 7) (.create (purchase one)) .nil midnight,
    .advance (call 7) [.ok teapot] (order 2) midnight] ++
    submitting ++
    [.start (call 12) (.award (user 9) ⟨5, by decide, by decide⟩) .nil midnight,
      .start (call 13) (.redeem (user 9) ⟨4, by decide, by decide⟩) .nil midnight]

end Rehearsal

/-- **Points are conserved**, in every run that begins with nothing and gives no identifier out
twice, for every user who is there at its end.

* The balance is what the ledger of the user makes of nothing.
* The orders in the ledger are the listed orders of the user that are in processing, each of them
  once.
* The user can redeem just what is at least one and at most the balance.
* As long as no credit stops at the largest balance, the balance and all that was redeemed are
  together what these orders have accrued and what was awarded.
* A call that is to change the status of an order leaves the balance alone, whatever becomes of it,
  unless it submits an order of this user. -/
theorem points_are_conserved (h : (ofService .empty).run es = some b)
    (hids : NeverRepeats .empty es) {user : User} (huser : b.service.users.user? u = some user) :
    ((ofService .empty).ledger u es).foldlM Posting.post? .zero = some user.points ∧
    (((ofService .empty).ledger u es).filterMap Posting.order?).Perm
      (b.service.orders.list.filter fun o => o.owner = some u ∧ o.status = .processing) ∧
    (∀ now points, (∃ balance, (b.service.redeem u now points).2 = .ok balance) ↔
      1 ≤ points.val ∧ points.val ≤ user.points.val) ∧
    (Posting.InFull .zero ((ofService .empty).ledger u es) →
      user.points.val + (((ofService .empty).ledger u es).map Posting.debit).sum =
        ((b.service.orders.list.filter fun o =>
          o.owner = some u ∧ o.status = .processing).map (·.accrued.val)).sum +
        (((ofService .empty).ledger u es).map Posting.award).sum) ∧
    ∀ e b' order action c, b.step e = some b' →
      b'.calls.get? e.call = some ⟨.act order action, c⟩ →
      (∀ o, action = .submit → c = .ended (.order (.ok o)) → o.owner ≠ some u) →
      b'.service.users.user? u = some user := by
  obtain ⟨account, haccount, rfl⟩ := Option.map_eq_some_iff.1 huser
  have hb : Indexed b.service _ := indexed_run hids (indexed_start (.inl rfl)) h
  have hposts : ((ofService .empty).ledger u es).foldlM Posting.post? .zero =
      some account.user.points := by
    have hlive : b.service.users.get? u ≠ none := by simp [haccount]
    rw [← Accounts.balance_of_get? haccount]
    exact ledger_posts (b := ofService .empty) (indexed_start (.inl rfl)) hids h hlive
  have hprocessed : (((ofService .empty).ledger u es).filterMap Posting.order?).Perm
      (b.service.orders.list.filter fun o => o.owner = some u ∧ o.status = .processing) := by
    rw [hb.distinct.list_eq]
    exact (processed_of_run h).symm
  refine ⟨hposts, hprocessed, ?_, ?_, ?_⟩
  · intro now points
    rw [← Accounts.exists_redeem_iff haccount now points, Service.redeem]
    cases hredeem : b.service.users.redeem u now points with
    | error e => simp
    | ok r => simp
  · intro hfull
    have hsum := Posting.val_add_debits hposts hfull
    rw [Posting.sum_credit, (hprocessed.map (·.accrued.val)).sum_eq] at hsum
    rw [hsum]
    exact Int.zero_add _
  · intro e b' order action c hstep hc hother
    rw [user?_of_act (coherent_run h) hstep hc hother, huser]

open Rehearsal in
theorem points_are_conserved_when_redeemed :
    ∃ b b' john, (ofService .empty).run earning = some b ∧ NeverRepeats .empty earning ∧
      b.service.users.user? (user 9) = some john ∧ john.points.val = 3 ∧
      Posting.InFull .zero ((ofService .empty).ledger (user 9) earning) ∧
      john.points.val + (((ofService .empty).ledger (user 9) earning).map Posting.debit).sum =
        ((b.service.orders.list.filter fun o =>
          o.owner = some (user 9) ∧ o.status = .processing).map (·.accrued.val)).sum +
        (((ofService .empty).ledger (user 9) earning).map Posting.award).sum ∧
      b.step regretting = some b' ∧ b'.service.users.user? (user 9) = some john := by
  have hids : NeverRepeats .empty earning := by decide
  have hrun : ((ofService .empty).run earning).bind (fun b =>
      (b.service.users.user? (user 9)).map fun john =>
        (john.points.val, (b.step regretting).isSome)) = some (3, true) := by decide
  have hfull : Posting.InFull .zero ((ofService .empty).ledger (user 9) earning) := by decide
  obtain ⟨b, hb, hviews⟩ := Option.bind_eq_some_iff.1 hrun
  obtain ⟨john, hjohn, hviews⟩ := Option.map_eq_some_iff.1 hviews
  obtain ⟨hpoints, hstep⟩ := Prod.mk.inj hviews
  obtain ⟨b', hb'⟩ := Option.isSome_iff_exists.1 hstep
  obtain ⟨-, -, -, hsum, hact⟩ := points_are_conserved hb hids hjohn
  refine ⟨b, b', john, hb, hids, hjohn, hpoints, hfull, hsum hfull, hb', ?_⟩
  obtain ⟨-, rfl⟩ := step_start_eq_some_iff.1 hb'
  exact hact regretting _ (order 2) .cancel _ hb' (Table.get?_insert_self ..)
    fun o hsubmit => by cases hsubmit

end Switchboard

end OrderDesk
