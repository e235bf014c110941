import OrderDesk.Demo
import OrderDesk.Proofs.Store.Accounts
import OrderDesk.Proofs.Store.Keys
import OrderDesk.Proofs.Switchboard.Identifiers

/-!
# What is noted with users

The orders of a user are kept twice: every order names its owner, and with every user the orders
placed for them are noted.  Nothing ever compares the two.  They agree because an event does one of
four things (`Affects`): it leaves all orders with their owners and leaves all notes, a user
registers, a user is removed, or an order is placed, for nobody or for a user with whom it is noted.

* `affects_of_step` — every event affects the service in one of these ways.
* `Indexed.of_affects`, `indexed_run` — what is noted with users are the orders of theirs in the
  book, in their order.
* `keys_prefix_of_run` — orders are only added.
* `notes_agree_with_list` — what can be seen of this from outside.
-/

namespace OrderDesk

/-! ## What an event does to owners and notes -/

/-- The ways in which an event can affect which orders there are, whose they are and what is noted
with users; `given` is the identifier that the event gives out. -/
inductive Affects (s : Service) (given : Option Uuid) (s' : Service) : Prop
  | keeps : s'.orders.keys = s.orders.keys →
      (∀ u, s'.users.notedOrders? u = s.users.notedOrders? u) → Affects s given s'
  | registers {id : UserId} : given = some id → s'.orders.keys = s.orders.keys →
      (∀ u, s'.users.notedOrders? u = if id = u then some [] else s.users.notedOrders? u) →
      Affects s given s'
  | removes {id : UserId} : s'.orders.keys = s.orders.keys →
      (∀ u, s'.users.notedOrders? u = if id = u then none else s.users.notedOrders? u) →
      Affects s given s'
  | places {id : OrderId} {owner : Option UserId} : given = some id →
      s'.orders.keys = s.orders.keys ++ [(id, owner)] →
      (∀ u, s'.users.notedOrders? u =
        (s.users.notedOrders? u).map fun ids => if owner = some u then ids ++ [id] else ids) →
      (∀ u, owner = some u → s.users.notedOrders? u ≠ none) → Affects s given s'

theorem Affects.refl (s : Service) (given : Option Uuid) : Affects s given s :=
  .keeps rfl fun _ => rfl

theorem Starts.affects {fresh : Uuid} {now : Timestamp} {s s' : Service} {r : Request} {c : Call}
    (h : Starts fresh now s r s' c) (b : Switchboard) (id : CallId) :
    Affects s (b.given? (.start id r fresh now)) s' := by
  cases h with
  | creating | createFailed | looking | reviseFailed | acting | actFailed | registerFailed
  | redeemFailed | awardFailed | removeFailed => exact .refl ..
  | registered hregister => exact .registers rfl rfl (Accounts.notedOrders?_of_register hregister)
  | redeemed hredeem => exact .keeps rfl (Accounts.notedOrders?_of_execute hredeem)
  | awarded haward => exact .keeps rfl (Accounts.notedOrders?_of_execute haward)
  | removed _ => exact .removes rfl (Accounts.notedOrders?_erase _ _)

/-- Noting an order with its owner, if it has one, adds it to what is noted with this user. -/
theorem notedOrders?_of_placed {users users' : Accounts} {owner : Option UserId} {id : OrderId}
    (h : owner = none ∧ users' = users ∨
      ∃ u, owner = some u ∧ users.noteOrder? u id = some users') :
    (∀ u, users'.notedOrders? u =
      (users.notedOrders? u).map fun ids => if owner = some u then ids ++ [id] else ids) ∧
    ∀ u, owner = some u → users.notedOrders? u ≠ none := by
  rcases h with ⟨rfl, rfl⟩ | ⟨v, rfl, hnote⟩
  · exact ⟨fun u => by simp, fun u hu => by cases hu⟩
  · constructor
    · intro u
      rw [Accounts.notedOrders?_of_noteOrder? hnote]
      simp only [Option.some.injEq]
    · intro u hu hnone
      cases hu
      rw [Accounts.notedOrders?_eq_none_iff] at hnone
      cases (Accounts.noteOrder?_eq_none hnone).symm.trans hnote

theorem Advances.affects {fresh : Uuid} {now : Timestamp} {answers : List Answer} {s s' : Service}
    {c c' : Call} (h : Advances fresh now answers s c s' c') {given : Option Uuid}
    (hgiven : ∀ owner items, c = .asking (.creating owner items) → given = some fresh) :
    Affects s given s' := by
  cases h with
  | looked | lookFailed | held | confirmed | askFailed | actFailed | finished | passedOver | found
  | spared => exact .refl ..
  | revised _ hslot _ => exact .keeps (OrderBook.keys_put hslot rfl rfl) fun _ => rfl
  | cancelled hslot _ => exact .keeps (OrderBook.keys_put hslot rfl rfl) fun _ => rfl
  | swept hslot _ => exact .keeps (OrderBook.keys_put hslot rfl rfl) fun _ => rfl
  | submitted hslot _ horders husers =>
    refine .keeps (horders ▸ OrderBook.keys_put hslot rfl rfl) fun u => ?_
    rcases husers with ⟨-, hsame⟩ | ⟨v, balance, -, haward⟩
    · rw [hsame]
    · exact Accounts.notedOrders?_of_execute haward u
  | placed _ _ horders husers =>
    obtain ⟨hnoted, hlive⟩ := notedOrders?_of_placed husers
    exact .places (hgiven _ _ rfl) (horders ▸ OrderBook.keys_insert ..) hnoted hlive

theorem Switchboard.affects_of_step {b b' : Switchboard} {e : Switchboard.Event}
    (h : b.step e = some b') : Affects b.service (b.given? e) b'.service := by
  cases moves_of_step h with
  | start _ hstart => exact hstart.affects b _
  | @advance id answers fresh now entry s' c hentry _ hadv =>
    obtain ⟨request, before⟩ := entry
    refine hadv.affects fun owner items hbefore => ?_
    have hbefore : before = .asking (.creating owner items) := hbefore
    subst hbefore
    simp only [given?, hentry]

/-! ## Notes that agree with the book -/

/-- No identifier stands twice in the book, what is noted with users are their orders, and all these
identifiers are known. -/
structure Indexed (s : Service) (known : List Uuid) : Prop where
  distinct : s.orders.Distinct
  order_known : ∀ k ∈ s.orders.keys, k.1 ∈ known
  owner_known : ∀ k ∈ s.orders.keys, ∀ u, k.2 = some u → u ∈ known
  user_known : ∀ u ids, s.users.notedOrders? u = some ids → u ∈ known
  noted : ∀ u ids, s.users.notedOrders? u = some ids → ids = s.orders.idsOf u

namespace OrderBook

theorem idsOf_of_keys_eq {b b' : OrderBook} (h : b'.keys = b.keys) (u : UserId) :
    b'.idsOf u = b.idsOf u := by
  rw [idsOf, h]
  rfl

theorem idsOf_of_keys_append {b b' : OrderBook} {id : OrderId} {owner : Option UserId}
    (h : b'.keys = b.keys ++ [(id, owner)]) (u : UserId) :
    b'.idsOf u = if owner = some u then b.idsOf u ++ [id] else b.idsOf u := by
  rw [idsOf, h, List.filter_append, List.map_append]
  by_cases howner : owner = some u
  · simp [howner, idsOf]
  · simp [howner, idsOf]

end OrderBook

namespace Indexed

variable {s s' : Service} {known : List Uuid}

/-- Where all orders stay with their owners, the notes may change only with those of users that are
known, and to what they ought to be. -/
theorem of_keys_eq (h : Indexed s known) (new : List Uuid) (hkeys : s'.orders.keys = s.orders.keys)
    (hnotes : ∀ u ids, s'.users.notedOrders? u = some ids →
      u ∈ known ++ new ∧ ids = s.orders.idsOf u) : Indexed s' (known ++ new) where
  distinct := by
    unfold OrderBook.Distinct
    rw [hkeys]
    exact h.distinct
  order_known := fun k hk => List.mem_append_left _ (h.order_known k (hkeys ▸ hk))
  owner_known := fun k hk u hu => List.mem_append_left _ (h.owner_known k (hkeys ▸ hk) u hu)
  user_known := fun u ids hids => (hnotes u ids hids).1
  noted := fun u ids hids => by
    rw [OrderBook.idsOf_of_keys_eq hkeys]
    exact (hnotes u ids hids).2

/-- Notes and book agree after an event if they do so before it. -/
theorem of_affects (h : Indexed s known) {given : Option Uuid} (ha : Affects s given s')
    (hnew : ∀ id ∈ given, id ∉ known) : Indexed s' (known ++ given.toList) := by
  cases ha with
  | keeps hkeys hnoted =>
    refine h.of_keys_eq _ hkeys fun u ids hids => ?_
    rw [hnoted] at hids
    exact ⟨List.mem_append_left _ (h.user_known u ids hids), h.noted u ids hids⟩
  | @registers id hgiven hkeys hnoted =>
    refine h.of_keys_eq _ hkeys fun u ids hids => ?_
    rw [hnoted] at hids
    split at hids
    · next heq =>
      subst heq
      cases hids
      refine ⟨List.mem_append_right _ (by simp [hgiven]), ?_⟩
      -- nobody can have placed an order for a user who is only now given an identifier
      rw [eq_comm, List.eq_nil_iff_forall_not_mem]
      intro order horder
      exact hnew id hgiven (h.owner_known _ (OrderBook.mem_idsOf_iff.1 horder) id rfl)
    · exact ⟨List.mem_append_left _ (h.user_known u ids hids), h.noted u ids hids⟩
  | removes hkeys hnoted =>
    refine h.of_keys_eq _ hkeys fun u ids hids => ?_
    rw [hnoted] at hids
    split at hids
    · cases hids
    · exact ⟨List.mem_append_left _ (h.user_known u ids hids), h.noted u ids hids⟩
  | @places id owner hgiven hkeys hnoted hlive =>
    have hknown : ∀ u ids, s.users.notedOrders? u = some ids → u ∈ known ++ given.toList :=
      fun u ids hids => List.mem_append_left _ (h.user_known u ids hids)
    refine ⟨?_, ?_, ?_, ?_, ?_⟩
    · unfold OrderBook.Distinct
      rw [hkeys, List.map_append, List.map_cons, List.map_nil, ← List.concat_eq_append]
      refine List.Nodup.concat (fun hmem => ?_) h.distinct
      obtain ⟨k, hk, hid⟩ := List.mem_map.1 hmem
      have hid : k.1 = id := hid
      exact hnew id hgiven (hid ▸ h.order_known k hk)
    · intro k hk
      rw [hkeys, List.mem_append, List.mem_singleton] at hk
      rcases hk with hk | rfl
      · exact List.mem_append_left _ (h.order_known k hk)
      · exact List.mem_append_right _ (by simp [hgiven])
    · intro k hk u hu
      rw [hkeys, List.mem_append, List.mem_singleton] at hk
      rcases hk with hk | rfl
      · exact List.mem_append_left _ (h.owner_known k hk u hu)
      · obtain ⟨ids, hids⟩ := Option.ne_none_iff_exists'.1 (hlive u hu)
        exact hknown u ids hids
    · intro u ids hids
      rw [hnoted, Option.map_eq_some_iff] at hids
      obtain ⟨before, hbefore, -⟩ := hids
      exact hknown u before hbefore
    · intro u ids hids
      rw [hnoted, Option.map_eq_some_iff] at hids
      obtain ⟨before, hbefore, rfl⟩ := hids
      rw [OrderBook.idsOf_of_keys_append hkeys, h.noted u before hbefore]

/-- The beginning of everything. -/
theorem empty : Indexed .empty Service.empty.ids where
  distinct := List.nodup_nil
  order_known := fun k hk => by cases hk
  owner_known := fun k hk => by cases hk
  user_known := fun u ids hids => by cases hids
  noted := fun u ids hids => by cases hids

/-- A user who is noted in a list of users with their notes. -/
theorem mem_notes {u : UserId} {ids : List OrderId} (h : s.users.notedOrders? u = some ids) :
    (u, ids) ∈ s.users.entries.map fun e => (e.1, e.2.orders) := by
  obtain ⟨account, haccount, rfl⟩ := Accounts.notedOrders?_eq_some_iff.1 h
  exact List.mem_map.2 ⟨_, Table.mem_entries_of_get? haccount, rfl⟩

end Indexed

/-! ## Demo data -/

namespace Demo

/-- The demo orders with their owners. -/
def keys : List (OrderId × Option UserId) :=
  [(orderId 0, some (userId 0)), (orderId 1, some (userId 0)), (orderId 2, some (userId 1))]

/-- What is noted with the demo users. -/
def notes : List (UserId × List OrderId) :=
  [(userId 0, [orderId 0, orderId 1]), (userId 1, [orderId 2]), (userId 2, [])]

theorem views_load (now : Timestamp) :
    (load now .empty).map (fun s =>
        (s.orders.keys, s.users.entries.map fun e => (e.1, e.2.orders))) = .ok (keys, notes) :=
  rfl

theorem views_of_load {now : Timestamp} {s : Service} (h : load now .empty = .ok s) :
    s.orders.keys = keys ∧ (s.users.entries.map fun e => (e.1, e.2.orders)) = notes := by
  have hviews := views_load now
  rw [h, Except.map, Except.ok.injEq, Prod.mk.injEq] at hviews
  exact hviews

theorem map_fst_entries {now : Timestamp} {s : Service} (h : load now .empty = .ok s) :
    s.users.entries.map (·.1) = notes.map (·.1) := by
  rw [← (views_of_load h).2, List.map_map]
  rfl

/-- The owners of the demo orders are demo users. -/
theorem owner_mem_notes : ∀ k ∈ keys, ∀ u ∈ k.2, u ∈ notes.map (·.1) := by
  decide

theorem owner_there {now : Timestamp} {s : Service} (h : load now .empty = .ok s)
    {k : OrderId × Option UserId} (hk : k ∈ s.orders.keys) {u : UserId} (hu : k.2 = some u) :
    s.users.notedOrders? u ≠ none := by
  have hmem : u ∈ s.users.entries.map (·.1) := by
    rw [map_fst_entries h]
    exact owner_mem_notes k ((views_of_load h).1 ▸ hk) u hu
  obtain ⟨account, haccount⟩ := Table.exists_get?_of_mem hmem
  intro hnone
  cases haccount.symm.trans (Accounts.notedOrders?_eq_none_iff.1 hnone)

theorem indexed_load {now : Timestamp} {s : Service} (h : load now .empty = .ok s) :
    Indexed s s.ids := by
  obtain ⟨hkeys, hnotes⟩ := views_of_load h
  have hids : s.ids = keys.map (·.1) ++ notes.map (·.1) := by
    rw [Service.ids, map_fst_entries h, ← OrderBook.map_fst_keys, hkeys]
  rw [hids]
  constructor
  · unfold OrderBook.Distinct
    rw [hkeys]
    decide
  · intro k hk
    exact List.mem_append_left _ (List.mem_map_of_mem (hkeys ▸ hk))
  · intro k hk u hu
    exact List.mem_append_right _ (owner_mem_notes k (hkeys ▸ hk) u hu)
  · intro u ids hu
    exact List.mem_append_right _ (List.mem_map_of_mem (hnotes ▸ Indexed.mem_notes hu))
  · intro u ids hu
    have hmem : (u, ids) ∈ notes := hnotes ▸ Indexed.mem_notes hu
    rw [OrderBook.idsOf, hkeys]
    have hall : ∀ e ∈ notes, e.2 = (keys.filter (·.2 = some e.1)).map (·.1) := by
      decide
    exact hall (u, ids) hmem

end Demo

/-! ## Every run -/

namespace Switchboard

variable {s : Service} {b b' : Switchboard} {e : Event} {es es' : List Event}

/-- A service that may be started with. -/
theorem indexed_start (hs : s = .empty ∨ ∃ now, Demo.load now .empty = .ok s) :
    Indexed s s.ids := by
  rcases hs with rfl | ⟨now, hload⟩
  · exact Indexed.empty
  · exact Demo.indexed_load hload

theorem indexed_run {known : List Uuid} (hids : (known ++ b.given es).Nodup)
    (hb : Indexed b.service known) (h : b.run es = some b') :
    Indexed b'.service (known ++ b.given es) :=
  run_preserves_known (P := fun b known => Indexed b.service known)
    (fun _ _ _ _ hb h hnew => hb.of_affects (affects_of_step h) hnew) hids hb h

/-- Orders are only added, and keep their owners. -/
theorem keys_prefix_of_step (h : b.step e = some b') :
    b.service.orders.keys <+: b'.service.orders.keys := by
  cases affects_of_step h with
  | keeps hkeys _ => exact hkeys ▸ List.prefix_refl _
  | registers _ hkeys _ => exact hkeys ▸ List.prefix_refl _
  | removes hkeys _ => exact hkeys ▸ List.prefix_refl _
  | places _ hkeys _ _ =>
    rw [hkeys]
    exact List.prefix_append ..

theorem keys_prefix_of_run (h : b.run es = some b') :
    b.service.orders.keys <+: b'.service.orders.keys :=
  run_preserves (P := fun c => b.service.orders.keys <+: c.service.orders.keys)
    (fun _ _ _ hc h => hc.trans (keys_prefix_of_step h)) (List.prefix_refl _) h

/-- **Notes agree with the list of orders**, in every state that is reached from nothing or from the
demo data.  What is noted with a user are the listed orders of theirs, in the order of the list; and
asking for the orders of a user, or for the user with their orders, gives just these.  For who is
not a user both fail.  Nothing ever leaves the list, whatever becomes of the owner, the number of
orders is the length of the list, and no identifier stands in it twice. -/
theorem notes_agree_with_list (hs : s = .empty ∨ ∃ now, Demo.load now .empty = .ok s)
    (h : (ofService s).run es = some b) (h' : b.run es' = some b')
    (hids : NeverRepeats s (es ++ es')) :
    (∀ u user, b'.service.users.user? u = some user →
      b'.service.users.notedOrders? u =
        some ((b'.service.orders.list.filter (·.owner = some u)).map (·.id)) ∧
      b'.service.ordersOf u = .ok (b'.service.orders.list.filter (·.owner = some u)) ∧
      b'.service.overview u = .ok ⟨user, b'.service.orders.list.filter (·.owner = some u)⟩) ∧
    (∀ u, b'.service.users.user? u = none →
      b'.service.ordersOf u = .error (.ownerNotFound u) ∧
      b'.service.overview u = .error (.notFound u)) ∧
    (∀ u, (b.service.orders.list.filter (·.owner = some u)).map (·.id) <+:
      (b'.service.orders.list.filter (·.owner = some u)).map (·.id)) ∧
    b'.service.orders.list.length = b'.service.orders.size ∧
    (b'.service.orders.list.map (·.id)).Nodup := by
  have hrun : (ofService s).run (es ++ es') = some b' := by
    rw [run_append, h, Option.bind_some, h']
  have hb : Indexed b.service _ := indexed_run (hids.left h) (indexed_start hs) h
  have hb' : Indexed b'.service _ := indexed_run hids (indexed_start hs) hrun
  refine ⟨?_, ?_, ?_, ?_, ?_⟩
  · intro u user huser
    obtain ⟨account, haccount, rfl⟩ := Option.map_eq_some_iff.1 huser
    have hnoted : account.orders = b'.service.orders.idsOf u :=
      hb'.noted u _ (Accounts.notedOrders?_eq_some_iff.2 ⟨account, haccount, rfl⟩)
    refine ⟨?_, ?_, ?_⟩
    · rw [Accounts.notedOrders?, haccount, Option.map_some, hnoted, OrderBook.idsOf_eq,
        hb'.distinct.list_eq]
    · rw [Service.ordersOf, Accounts.notedOrders?, haccount, Option.map_some, hnoted]
      exact congrArg _ (hb'.distinct.getAll_idsOf u)
    · rw [Service.overview, haccount]
      dsimp only
      rw [hnoted, hb'.distinct.getAll_idsOf u]
  · intro u huser
    have hnone : b'.service.users.get? u = none := Option.map_eq_none_iff.1 huser
    constructor
    · rw [Service.ordersOf, Accounts.notedOrders?_eq_none_iff.2 hnone]
    · rw [Service.overview, hnone]
  · intro u
    rw [hb.distinct.list_eq, hb'.distinct.list_eq, ← OrderBook.idsOf_eq, ← OrderBook.idsOf_eq]
    exact ((keys_prefix_of_run h').filter _).map _
  · rw [hb'.distinct.list_eq]
    rfl
  · rw [hb'.distinct.list_eq]
    exact hb'.distinct.orders_nodup

open Rehearsal in
theorem notes_agree_with_list_when_deleted :
    ∃ s b b' user, Demo.load midnight .empty = .ok s ∧ (ofService s).run ordering = some b ∧
      b.run (deleting (Demo.userId 0) 5) = some b' ∧
      NeverRepeats s (ordering ++ deleting (Demo.userId 0) 5) ∧
      b'.service.users.user? (Demo.userId 1) = some user ∧
      b'.service.overview (Demo.userId 1) =
        .ok ⟨user, b'.service.orders.list.filter (·.owner = some (Demo.userId 1))⟩ ∧
      b'.service.users.user? (Demo.userId 0) = none ∧
      b'.service.ordersOf (Demo.userId 0) = .error (.ownerNotFound (Demo.userId 0)) := by
  obtain ⟨s, hs⟩ := Demo.exists_load midnight
  have hrun : ((Demo.load midnight .empty).toOption.bind fun s =>
      ((ofService s).run ordering).bind fun b =>
        (b.run (deleting (Demo.userId 0) 5)).map fun b' =>
          (decide (NeverRepeats s (ordering ++ deleting (Demo.userId 0) 5)),
            (b'.service.users.user? (Demo.userId 0)).isNone,
            (b'.service.users.user? (Demo.userId 1)).isSome)) = some (true, true, true) := by
    decide
  rw [hs, Except.toOption, Option.bind_some] at hrun
  obtain ⟨b, hb, hrun⟩ := Option.bind_eq_some_iff.1 hrun
  obtain ⟨b', hb', hrun⟩ := Option.map_eq_some_iff.1 hrun
  rw [Prod.mk.injEq, Prod.mk.injEq, decide_eq_true_iff, Option.isNone_iff_eq_none,
    Option.isSome_iff_exists] at hrun
  obtain ⟨hids, hgone, user, huser⟩ := hrun
  have hagree := notes_agree_with_list (.inr ⟨midnight, hs⟩) hb hb' hids
  exact ⟨s, b, b', user, hs, hb, hb', hids, huser, (hagree.1 _ user huser).2.2, hgone,
    (hagree.2.1 _ hgone).1⟩

end Switchboard

end OrderDesk
