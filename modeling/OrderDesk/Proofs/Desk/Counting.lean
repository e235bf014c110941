import OrderDesk.Api.Supplier
import OrderDesk.Proofs.Desk.Serving
import OrderDesk.Proofs.Service.Perform
import OrderDesk.Proofs.Store.Statuses

/-!
# What is counted about orders

A desk counts the orders that it creates and the changes of their status apart from the book that it
keeps them in, and each kind of request does so in its own way.  All of them agree with the book:

* `turn_serve` — every request places one order and counts it, or turns some pending orders to
  another status and counts each of them under this status; a request that fails does neither.
* `counts_agree_with_orders` — after any sequence of requests the counts are what has come into the
  book, and what has become of the orders in it, since the desk was opened.
-/

namespace OrderDesk

/-! ## Labels of a series -/

namespace Series

/-- Every combination of labels of a series has a property, and stands there once. -/
structure Labelled {α : Type} (s : Series α) (p : List String → Prop) : Prop where
  known : ∀ labels ∈ s.labels, p labels
  once : s.labels.Nodup

namespace Labelled

variable {α : Type} {s : Series α} {p : List String → Prop}

theorem empty : (Series.empty : Series α).Labelled p :=
  ⟨fun _ h => absurd h List.not_mem_nil, List.nodup_nil⟩

theorem update (h : s.Labelled p) {labels : List String} (hp : p labels) (start : α) (f : α → α) :
    (s.update labels start f).Labelled p := by
  have hlabels := labels_update s labels start f
  split at hlabels
  · exact ⟨hlabels ▸ h.known, hlabels ▸ h.once⟩
  · next hnew =>
    refine ⟨fun other hother => ?_, ?_⟩
    · rcases List.mem_append.1 (hlabels ▸ hother) with hold | hlast
      · exact h.known other hold
      · exact List.mem_singleton.1 hlast ▸ hp
    · rw [hlabels, ← List.concat_eq_append]
      exact h.once.concat hnew

end Labelled

end Series

/-! ## Changes of status that are counted -/

namespace Metrics

/-- The number of changes to a status that have been counted. -/
def transitionsTo (m : Metrics) (status : OrderStatus) : Nat :=
  (m.transitions.get? [status.label]).getD 0

/-- Counts changes of status one after the other. -/
def recordAll (m : Metrics) (statuses : List OrderStatus) : Metrics :=
  statuses.foldl (fun m status => m.recordTransition status.label) m

variable {m : Metrics}

theorem transitionsTo_recordTransition (m : Metrics) (status other : OrderStatus) :
    (m.recordTransition status.label).transitionsTo other =
      m.transitionsTo other + if status = other then 1 else 0 := by
  unfold transitionsTo recordTransition
  rw [Series.get?_update]
  by_cases h : status = other
  · subst h
    rw [if_pos rfl, if_pos rfl]
    rfl
  · have hlabel : ¬ [status.label] = [other.label] := fun heq => by
      have hsame := congrArg OrderStatus.ofLabel? (List.singleton_inj.1 heq)
      rw [OrderStatus.ofLabel?_label, OrderStatus.ofLabel?_label] at hsame
      exact h (Option.some.inj hsame)
    rw [if_neg hlabel, if_neg h, Nat.add_zero]

theorem transitionsTo_recordAll (m : Metrics) (statuses : List OrderStatus) (status : OrderStatus) :
    (m.recordAll statuses).transitionsTo status =
      m.transitionsTo status + statuses.count status := by
  induction statuses generalizing m with
  | nil => rfl
  | cons first rest ih =>
    rw [recordAll, List.foldl_cons, ← recordAll, ih, transitionsTo_recordTransition,
      List.count_cons]
    simp only [beq_iff_eq]
    omega

theorem ordersCreated_recordAll (m : Metrics) (statuses : List OrderStatus) :
    (m.recordAll statuses).ordersCreated = m.ordersCreated := by
  induction statuses generalizing m with
  | nil => rfl
  | cons first rest ih => exact ih _

/-- Every status that changes are counted under is one of the given, and stands there once. -/
structure LabelledBy (m : Metrics) (statuses : List OrderStatus) : Prop where
  known : ∀ labels ∈ m.transitions.labels, ∃ status ∈ statuses, labels = [status.label]
  once : m.transitions.labels.Nodup

theorem LabelledBy.recordTransition {statuses : List OrderStatus} (h : m.LabelledBy statuses)
    {status : OrderStatus} (hstatus : status ∈ statuses) :
    (m.recordTransition status.label).LabelledBy statuses := by
  have hseries : m.transitions.Labelled fun labels =>
      ∃ status ∈ statuses, labels = [status.label] := ⟨h.known, h.once⟩
  have hnext := hseries.update ⟨status, hstatus, rfl⟩ 0 (· + 1)
  exact ⟨hnext.known, hnext.once⟩

theorem LabelledBy.recordAll {known : List OrderStatus} (h : m.LabelledBy known)
    {statuses : List OrderStatus} (hstatuses : ∀ status ∈ statuses, status ∈ known) :
    (m.recordAll statuses).LabelledBy known := by
  induction statuses generalizing m with
  | nil => exact h
  | cons first rest ih =>
    exact ih (h.recordTransition (hstatuses first (List.mem_cons_self ..)))
      fun status hstatus => hstatuses status (List.mem_cons_of_mem _ hstatus)

end Metrics

namespace Desk

variable {κ : Type} {d d' first : Desk κ} {fresh : Uuid}

/-! ## One request -/

/-- The statuses that an order can be turned to. -/
def turns : List OrderStatus := [.processing, .cancelled]

/-- What a request does to the orders and to what is counted about them. -/
inductive Turn (fresh : Uuid) (d d' : Desk κ) : Prop
  /-- A new order is placed, and counted. -/
  | placed {o : Order} : o.id = fresh → o.status = .pending →
      d'.service.orders = d.service.orders.insert o →
      d'.metrics.ordersCreated = d.metrics.ordersCreated + 1 →
      d'.metrics.transitions = d.metrics.transitions → Turn fresh d d'
  /-- Some orders are turned to another status, and counted under it. -/
  | turned {statuses : List OrderStatus} : (∀ status ∈ statuses, status ∈ turns) →
      d.service.orders.Turned statuses d'.service.orders →
      d'.metrics.ordersCreated = d.metrics.ordersCreated →
      d'.metrics.transitions = (d.metrics.recordAll statuses).transitions → Turn fresh d d'

namespace Turn

/-- Whatever leaves the orders and what is counted about them alone. -/
theorem none (horders : d'.service.orders = d.service.orders)
    (hcreated : d'.metrics.ordersCreated = d.metrics.ordersCreated)
    (htransitions : d'.metrics.transitions = d.metrics.transitions) : Turn fresh d d' := by
  have hturned : d.service.orders.Turned [] d'.service.orders := horders ▸ .refl _
  exact .turned (fun _ h => absurd h List.not_mem_nil) hturned hcreated htransitions

end Turn

theorem turn_createOrder (supplier : Supplier κ) (fresh : Uuid) (now : Timestamp) (d : Desk κ)
    (caller : Bearer) (r : OrderRequest) :
    Turn fresh d (d.createOrder supplier fresh now caller r).1 := by
  rw [createOrder]
  rcases hcreate : d.service.createOrder (supplier.ask (some caller.header)) fresh now d.asking r
    with ⟨asked, s', result⟩
  cases result with
  | ok o =>
    obtain ⟨owner, items, total, rfl, horders⟩ :=
      Service.createOrder_eq_ok (congrArg (·.2.2) hcreate)
    rw [hcreate] at horders
    exact .placed rfl rfl horders rfl rfl
  | error e =>
    have hsame : s' = d.service := by
      have herror := Service.run_eq_error (congrArg (·.2.2) hcreate)
      exact (congrArg (·.2.1) hcreate).symm.trans herror
    subst hsame
    exact .none rfl rfl rfl

theorem turn_reviseOrder (supplier : Supplier κ) (now : Timestamp) (d : Desk κ) (caller : Bearer)
    (id : OrderId) (lines : List LineInput) :
    Turn fresh d (d.reviseOrder supplier now caller id lines).1 := by
  rw [reviseOrder]
  rcases hrevise : d.service.reviseOrder (supplier.ask (some caller.header)) now d.asking id lines
    with ⟨asked, s', result⟩
  have hservice := congrArg (·.2.1) hrevise
  have hresult := congrArg (·.2.2) hrevise
  cases result with
  | ok o' =>
    obtain ⟨slot, o, items, total, hslot, hpending, rfl, horders⟩ :=
      Service.reviseOrder_eq_ok hresult
    have hturned := OrderBook.Turned.put hslot hpending (.itemsReplaced items total)
    rw [if_pos (show (o.apply (.itemsReplaced items total)).status = .pending from hpending),
      ← horders, hservice] at hturned
    exact .turned (fun _ h => absurd h List.not_mem_nil) hturned rfl rfl
  | error e =>
    have hsame : s' = d.service := hservice.symm.trans (Service.run_eq_error hresult)
    subst hsame
    exact .none rfl rfl rfl

theorem turn_actOnOrder (now : Timestamp) (d : Desk κ) (id : OrderId) (action : OrderAction) :
    Turn fresh d (d.actOnOrder now id action).1 := by
  rw [actOnOrder]
  rcases hact : d.service.act id action now with ⟨s', result⟩
  cases result with
  | ok o' =>
    obtain ⟨slot, o, event, hslot, hpending, hevent, rfl, horders⟩ := Service.act_eq_ok hact
    have hturned := OrderBook.Turned.put hslot hpending event
    have hstatus : (o.apply event).status ∈ turns := by
      rcases hevent with rfl | rfl
      · exact List.mem_cons_self ..
      · exact List.mem_cons_of_mem _ (List.mem_cons_self ..)
    have hmoved : (o.apply event).status ≠ .pending := by
      intro hstill
      rw [hstill] at hstatus
      exact absurd hstatus (by decide)
    rw [if_neg hmoved, ← horders] at hturned
    refine .turned (fun status h => ?_) hturned rfl rfl
    rwa [List.mem_singleton.1 h]
  | error e =>
    have hsame : s' = d.service := Service.act_eq_error hact
    subst hsame
    exact .none rfl rfl rfl

theorem turn_deleteUser (d : Desk κ) (id : UserId) : Turn fresh d (d.deleteUser id).1 := by
  rw [deleteUser, Service.deleteUser, Service.removeUser]
  cases d.service.users.notedOrders? id with
  | none => exact .none rfl rfl rfl
  | some ids =>
    -- The desk counts one change for each order that is named, whichever it is.
    have hcounted : ((d.service.orders.cancelAmong ids).2.foldl
        (fun m _ => m.recordTransition OrderStatus.cancelled.label) d.metrics) =
          d.metrics.recordAll ((d.service.orders.cancelAmong ids).2.map fun _ => .cancelled) := by
      rw [Metrics.recordAll, List.foldl_map]
    refine .turned (fun status h => ?_) (d.service.orders.turned_cancelAmong ids) ?_ ?_
    · obtain ⟨-, -, rfl⟩ := List.mem_map.1 h
      exact List.mem_cons_of_mem _ (List.mem_cons_self ..)
    · exact (congrArg Metrics.ordersCreated hcounted).trans (Metrics.ordersCreated_recordAll ..)
    · exact congrArg Metrics.transitions hcounted

theorem turn_carryOut (supplier : Supplier κ) (fresh : Uuid) (now : Timestamp) (d : Desk κ)
    (call : ApiCall) : Turn fresh d (d.carryOut supplier fresh now call).1 := by
  cases call with
  | health | showOrder | showUser | showPoints | listProducts | showProduct =>
    exact .none rfl rfl rfl
  | listOrders owner =>
    cases owner with
    | none | some => exact .none rfl rfl rfl
  | createOrder caller r => exact d.turn_createOrder supplier fresh now caller r
  | reviseOrder caller id lines => exact d.turn_reviseOrder supplier now caller id lines
  | actOnOrder id action => exact d.turn_actOnOrder now id action
  | createUser r =>
    have hregister : (d.service.register fresh now r).1.orders = d.service.orders := by
      rw [Service.register]
      split <;> rfl
    exact .none hregister rfl rfl
  | deleteUser id => exact d.turn_deleteUser id
  | redeemPoints id points =>
    have hredeem : (d.service.redeem id now points).1.orders = d.service.orders := by
      rw [Service.redeem]
      split <;> rfl
    exact .none hredeem rfl rfl

/-- Every request that is answered, whatever the answer is. -/
theorem turn_serve (d : Desk κ) (a : Arrival κ) : Turn a.fresh d (d.serveArrival a).1 := by
  unfold serveArrival serve answer
  cases ApiCall.ofRequest a.request with
  | error response => exact .none rfl rfl rfl
  | ok call =>
    cases d.turn_carryOut a.supplier a.fresh a.now call with
    | placed hid hpending horders hcreated htransitions =>
      exact .placed hid hpending horders hcreated htransitions
    | turned hstatuses hturned hcreated htransitions =>
      exact .turned hstatuses hturned hcreated htransitions

/-! ## Any sequence of requests -/

/-- What has been counted is what has become of a book with the orders `first`. -/
structure Agrees (first : OrderBook) (d : Desk κ) : Prop where
  size : d.service.orders.size = first.size + d.metrics.ordersCreated
  tally : ∀ status, status ≠ .pending →
    d.service.orders.tally status = first.tally status + d.metrics.transitionsTo status
  labels : d.metrics.LabelledBy turns

namespace Agrees

/-- A desk at which nothing has been counted. -/
theorem start (s : Service) (catalog : κ) (products : Assortment) :
    Agrees s.orders ⟨s, catalog, products, .empty⟩ where
  size := rfl
  tally _ _ := rfl
  labels := ⟨fun _ h => absurd h List.not_mem_nil, List.nodup_nil⟩

theorem turn {book : OrderBook} (h : Agrees book d) (hturn : Turn fresh d d') : Agrees book d' := by
  cases hturn with
  | @placed o _ hpending horders hcreated htransitions =>
    refine ⟨?_, fun status hstatus => ?_, ?_⟩
    · have hsize : (d.service.orders.insert o).size = d.service.orders.size + 1 :=
        List.length_append
      rw [horders, hsize, h.size, hcreated, Nat.add_assoc]
    · have hnot : ¬ o.status = status := fun heq => hstatus (heq.symm.trans hpending)
      rw [horders, OrderBook.tally_insert, if_neg hnot, h.tally status hstatus,
        Metrics.transitionsTo, Metrics.transitionsTo, htransitions]
      rfl
    · exact ⟨htransitions ▸ h.labels.known, htransitions ▸ h.labels.once⟩
  | @turned statuses hstatuses hturned hcreated htransitions =>
    refine ⟨?_, fun status hstatus => ?_, ?_⟩
    · rw [hturned.size, h.size, hcreated]
    · rw [hturned.tally status hstatus, h.tally status hstatus, Nat.add_assoc,
        ← Metrics.transitionsTo_recordAll, Metrics.transitionsTo, Metrics.transitionsTo,
        htransitions]
    · have hlabels := h.labels.recordAll hstatuses
      exact ⟨htransitions ▸ hlabels.known, htransitions ▸ hlabels.once⟩

end Agrees

/-- The identifiers of the orders: those that there were, and some of those that were given out. -/
theorem ids_serveAll (d : Desk κ) (as : List (Arrival κ)) :
    List.Sublist ((d.serveAll as).1.service.orders.orders.map (·.id))
      (d.service.orders.orders.map (·.id) ++ as.map (·.fresh)) := by
  induction as generalizing d with
  | nil => exact List.sublist_append_left ..
  | cons a as ih =>
    have hone : List.Sublist ((d.serveArrival a).1.service.orders.orders.map (·.id))
        (d.service.orders.orders.map (·.id) ++ [a.fresh]) := by
      cases d.turn_serve a with
      | placed hid _ horders _ _ =>
        rw [horders, OrderBook.insert, List.map_append, List.map_singleton, hid]
      | turned _ hturned _ _ =>
        rw [hturned.ids]
        exact List.sublist_append_left ..
    rw [List.map_cons, List.append_cons]
    exact (ih _).trans (hone.append_right _)

/-- A desk opens with an empty book or with the demo data, and with nothing counted. -/
theorem start_eq_ok {catalog : κ} {products : Assortment} {seed : Bool} {now : Timestamp}
    (h : start catalog products seed now = .ok first) :
    ∃ s, first = ⟨s, catalog, products, .empty⟩ ∧ (seed = false → s = .empty) := by
  cases seed with
  | false =>
    cases h
    exact ⟨.empty, rfl, fun _ => rfl⟩
  | true =>
    rw [start, if_pos rfl, Fallible.bind_eq_ok_iff] at h
    obtain ⟨s, -, h⟩ := h
    rw [Fallible.pure_eq_ok_iff] at h
    exact ⟨s, h.symm, nofun⟩

namespace Rehearsal

/-- A request that comes to a desk with the built-in catalog, and the number of an identifier that
may be given out. -/
def arrival (r : ApiRequest) (fresh : Nat) : Arrival Assortment :=
  ⟨r, .builtIn, .ofNat fresh, midnight, 1⟩

/-- A demo order is submitted, its owner orders something else and is deleted. -/
def day : List (Arrival Assortment) :=
  [arrival (request "POST" "/orders/650e8400-e29b-41d4-a716-446655440000/submit"
      "\x7b\"action\": \"SUBMIT\"\x7d") 1,
    arrival (request "POST" "/orders"
      ("\x7b\"userId\": \"750e8400-e29b-41d4-a716-446655440000\"," ++
        "\"products\": [\x7b\"productId\": \"550e8400-e29b-41d4-a716-446655440003\"," ++
        "\"quantity\": 1\x7d]\x7d")) 2,
    arrival (request "DELETE" "/user/750e8400-e29b-41d4-a716-446655440000" "") 3]

end Rehearsal

/-- **What is counted about orders agrees with the orders**, after any sequence of requests,
successful or not.  The number of orders that were created is the number of those that have come
into the book since the desk was opened, and for each of the two statuses that an order can be
turned to, the number of changes is the number of orders that have been turned to it.  There is no
label but those of these two statuses, and neither stands twice.

A desk that opens without demo data begins with no orders, so its counts are just the numbers of
orders.  Where no identifier is given out twice, the orders in the book are those that are
listed. -/
theorem counts_agree_with_orders {catalog : κ} {products : Assortment} {seed : Bool}
    {now : Timestamp} {as : List (Arrival κ)} {answers : List (Arrival κ × ApiResponse)}
    (hstart : start catalog products seed now = .ok first)
    (h : first.serveAll as = (d, answers)) :
    d.service.orders.size = first.service.orders.size + d.metrics.ordersCreated ∧
    d.service.orders.tally .processing = first.service.orders.tally .processing +
      (d.metrics.transitions.get? ["PROCESSING"]).getD 0 ∧
    d.service.orders.tally .cancelled = first.service.orders.tally .cancelled +
      (d.metrics.transitions.get? ["CANCELLED"]).getD 0 ∧
    (∀ labels ∈ d.metrics.transitions.labels, labels = ["PROCESSING"] ∨ labels = ["CANCELLED"]) ∧
    d.metrics.transitions.labels.Nodup ∧
    (seed = false → d.service.orders.size = d.metrics.ordersCreated ∧
      d.service.orders.tally .processing =
        (d.metrics.transitions.get? ["PROCESSING"]).getD 0 ∧
      d.service.orders.tally .cancelled = (d.metrics.transitions.get? ["CANCELLED"]).getD 0) ∧
    ((first.service.orders.orders.map (·.id) ++ as.map (·.fresh)).Nodup →
      d.service.orders.list = d.service.orders.orders) := by
  obtain ⟨s, rfl, hempty⟩ := start_eq_ok hstart
  have hd : Agrees s.orders d := by
    have hend := serveAll_preserves (P := Agrees s.orders) (fun d a hd => hd.turn (d.turn_serve a))
      (.start s catalog products) as
    rwa [h] at hend
  refine ⟨hd.size, hd.tally .processing nofun, hd.tally .cancelled nofun, fun labels hmem => ?_,
    hd.labels.once, fun hseed => ?_, fun hids => ?_⟩
  · obtain ⟨status, hstatus, rfl⟩ := hd.labels.known labels hmem
    rcases List.mem_pair.1 hstatus with rfl | rfl
    · exact Or.inl rfl
    · exact Or.inr rfl
  · cases hempty hseed
    exact ⟨hd.size.trans (Nat.zero_add _), (hd.tally .processing nofun).trans (Nat.zero_add _),
      (hd.tally .cancelled nofun).trans (Nat.zero_add _)⟩
  · have hsub := ids_serveAll ⟨s, catalog, products, .empty⟩ as
    rw [h] at hsub
    refine OrderBook.Distinct.list_eq ?_
    rw [OrderBook.Distinct, OrderBook.map_fst_keys]
    exact hids.sublist hsub

open Rehearsal in
theorem counts_agree_with_orders_over_a_day :
    ∃ first d answers, start Assortment.builtIn .builtIn true midnight = .ok first ∧
      first.serveAll day = (d, answers) ∧ answers.map (·.2.status) = [200, 201, 204] ∧
      (first.service.orders.orders.map (·.id) ++ day.map (·.fresh)).Nodup ∧
      d.service.orders.size = first.service.orders.size + 1 ∧
      d.service.orders.tally .processing = first.service.orders.tally .processing + 1 ∧
      d.service.orders.tally .cancelled = first.service.orders.tally .cancelled + 1 ∧
      d.service.orders.list = d.service.orders.orders := by
  have hviews : (start Assortment.builtIn .builtIn true midnight).toOption.map (fun first =>
      ((first.serveAll day).2.map (·.2.status),
        [(first.serveAll day).1.metrics.ordersCreated,
          (first.serveAll day).1.metrics.transitionsTo .processing,
          (first.serveAll day).1.metrics.transitionsTo .cancelled],
        decide (first.service.orders.orders.map (·.id) ++ day.map (·.fresh)).Nodup)) =
      some ([200, 201, 204], [1, 1, 1], true) := by
    decide +kernel
  cases hstart : (start Assortment.builtIn .builtIn true midnight) with
  | error e =>
    rw [hstart] at hviews
    cases hviews
  | ok first =>
    rw [hstart] at hviews
    obtain ⟨hanswers, hviews⟩ := Prod.mk.inj (Option.some.inj hviews)
    obtain ⟨hcounts, hids⟩ := Prod.mk.inj hviews
    obtain ⟨hcreated, hcounts⟩ := List.cons.inj hcounts
    obtain ⟨hto, hcounts⟩ := List.cons.inj hcounts
    have hserve : first.serveAll day = ((first.serveAll day).1, (first.serveAll day).2) := rfl
    obtain ⟨hsize, hprocessing, hcancelled, -, -, -, hlist⟩ :=
      counts_agree_with_orders hstart hserve
    rw [hcreated] at hsize
    exact ⟨first, _, _, rfl, hserve, hanswers, of_decide_eq_true hids, hsize,
      hto ▸ hprocessing, List.head_eq_of_cons_eq hcounts ▸ hcancelled,
      hlist (of_decide_eq_true hids)⟩

end Desk

end OrderDesk
