import Mathlib.Algebra.GroupWithZero.Nat
import OrderDesk.Proofs.Desk.Counting
import OrderDesk.Proofs.Text.Digits

/-!
# What is counted about requests

A desk counts each request under its method, the pattern of its route and the status of the answer,
and keeps the time that it took under the method and the pattern.  It does so once the request has
been answered, whatever the answer is, and nothing else that it does touches these counts
(`sameTraffic_answer`).

* `requestsOf_serveArrival`, `timesOf_serveArrival`, `total_serveArrival` — what one request adds.
* `requests_are_counted_once` — after any sequence of requests each count is the number of answers
  that belong to it, so that counts and times are about the same requests.
-/

namespace OrderDesk

/-! ## Sums of counts -/

namespace Series

/-- The sum of the counts whose labels have a property. -/
def total (s : Series Nat) (p : List String → Bool) : Nat :=
  ((s.entries.filter fun e => p e.1).map (·.2)).sum

theorem total_update (s : Series Nat) (labels : List String) (p : List String → Bool) :
    (s.update labels 0 (· + 1)).total p = s.total p + if p labels then 1 else 0 := by
  obtain ⟨entries⟩ := s
  unfold update total
  dsimp only
  induction entries with
  | nil => by_cases hp : p labels <;> simp [updateEntries, hp]
  | cons e rest ih =>
    obtain ⟨l, n⟩ := e
    rw [updateEntries]
    split
    · next hl =>
      subst hl
      by_cases hp : p l
      · simp only [hp, List.filter_cons_of_pos, List.map_cons, List.sum_cons, if_true]
        omega
      · simp [hp]
    · rw [List.filter_cons, List.filter_cons]
      split
      · rw [List.map_cons, List.map_cons, List.sum_cons, List.sum_cons, ih, Nat.add_assoc]
      · exact ih

end Series

theorem Histogram.count_foldl_observe (h : Histogram) (times : List Float) :
    (times.foldl .observe h).count = h.count + times.length := by
  induction times generalizing h with
  | nil => rfl
  | cons t times ih =>
    have hcount : (h.observe t).count = h.count + 1 := rfl
    rw [List.foldl_cons, ih, List.length_cons, hcount]
    omega

/-! ## Patterns -/

/-- What requests can be counted with: the pattern of a route, or the name for all others. -/
def Route.patterns : List String :=
  [unmatched, "/health", "/orders", "/orders/\x7border_id\x7d",
    "/orders/\x7border_id\x7d/submit", "/user", "/user/\x7buser_id\x7d",
    "/user/\x7buser_id\x7d/points", "/products", "/products/\x7bproduct_id\x7d"]

theorem Route.pattern_mem (route : Route) : route.pattern ∈ patterns := by
  cases route <;> simp [pattern, patterns]

theorem ApiRequest.pattern_mem (r : ApiRequest) : r.pattern ∈ Route.patterns := by
  unfold pattern
  split
  · exact Route.pattern_mem _
  · exact List.mem_cons_self ..

namespace Metrics

/-! ## One measurement -/

/-- The number of requests of a method that were counted with a pattern and a status. -/
def requestsOf (m : Metrics) (method path : String) (status : Nat) : Nat :=
  (m.requests.get? [method, path, toString status]).getD 0

/-- The times of the requests of a method that were counted with a pattern. -/
def timesOf (m : Metrics) (method path : String) : Histogram :=
  (m.durations.get? [method, path]).getD .empty

variable (m : Metrics) (method path : String) (status : Nat) (seconds : Float)

theorem requestsOf_recordRequest (method' path' : String) (status' : Nat) :
    (m.recordRequest method path status seconds).requestsOf method' path' status' =
      m.requestsOf method' path' status' +
        if method = method' ∧ path = path' ∧ status = status' then 1 else 0 := by
  have hlabels : [method, path, toString status] = [method', path', toString status'] ↔
      method = method' ∧ path = path' ∧ status = status' := by
    simp only [List.cons.injEq, Numeral.toString_inj, and_true]
  unfold requestsOf recordRequest
  dsimp only
  rw [Series.get?_update]
  split
  · next heq => rw [if_pos (hlabels.1 heq), heq, Option.getD_some]
  · next hne => rw [if_neg (hlabels.not.1 hne), Nat.add_zero]

theorem timesOf_recordRequest (method' path' : String) :
    (m.recordRequest method path status seconds).timesOf method' path' =
      if method = method' ∧ path = path' then (m.timesOf method' path').observe seconds
      else m.timesOf method' path' := by
  have hlabels : [method, path] = [method', path'] ↔ method = method' ∧ path = path' := by
    simp only [List.cons.injEq, and_true]
  unfold timesOf recordRequest
  dsimp only
  rw [Series.get?_update]
  split
  · next heq => rw [if_pos (hlabels.1 heq), heq, Option.getD_some]
  · next hne => rw [if_neg (hlabels.not.1 hne)]

theorem total_recordRequest (p : List String → Bool) :
    (m.recordRequest method path status seconds).requests.total p =
      m.requests.total p + if p [method, path, toString status] then 1 else 0 :=
  Series.total_update ..

/-- A method, a pattern and a status. -/
def RequestLabels (labels : List String) : Prop :=
  ∃ (method : String) (status : Nat), ∃ path ∈ Route.patterns,
    labels = [method, path, toString status]

/-- A method and a pattern. -/
def TimeLabels (labels : List String) : Prop :=
  ∃ method : String, ∃ path ∈ Route.patterns, labels = [method, path]

/-- Requests are counted and timed with the patterns of routes, and with nothing else. -/
structure ByPattern (m : Metrics) : Prop where
  requests : m.requests.Labelled RequestLabels
  durations : m.durations.Labelled TimeLabels

theorem ByPattern.empty : Metrics.empty.ByPattern := ⟨.empty, .empty⟩

variable {m path} in
theorem ByPattern.recordRequest (h : m.ByPattern) (hpath : path ∈ Route.patterns) :
    (m.recordRequest method path status seconds).ByPattern where
  requests := h.requests.update ⟨method, status, path, hpath, rfl⟩ ..
  durations := h.durations.update ⟨method, path, hpath, rfl⟩ ..

end Metrics

namespace Desk

variable {κ : Type}

/-! ## One request -/

/-- What was counted about requests is the same at both desks. -/
def SameTraffic (d d' : Desk κ) : Prop :=
  d'.metrics.requests = d.metrics.requests ∧ d'.metrics.durations = d.metrics.durations

/-- No call changes what was counted about requests. -/
theorem sameTraffic_carryOut (supplier : Supplier κ) (fresh : Uuid) (now : Timestamp) (d : Desk κ)
    (call : ApiCall) : d.SameTraffic (d.carryOut supplier fresh now call).1 := by
  cases call with
  | health | showOrder | showUser | showPoints | listProducts | showProduct | reviseOrder
  | createUser | redeemPoints => exact ⟨rfl, rfl⟩
  | listOrders owner =>
    cases owner with
    | none | some => exact ⟨rfl, rfl⟩
  | createOrder caller r =>
    rw [carryOut, createOrder]
    rcases d.service.createOrder (supplier.ask (some caller.header)) fresh now d.asking r
      with ⟨asked, s', result⟩
    cases result with
    | ok | error => exact ⟨rfl, rfl⟩
  | actOnOrder id action =>
    rw [carryOut, actOnOrder]
    rcases d.service.act id action now with ⟨s', result⟩
    cases result with
    | ok | error => exact ⟨rfl, rfl⟩
  | deleteUser id =>
    rw [carryOut, deleteUser]
    rcases d.service.deleteUser id with ⟨s', result⟩
    cases result with
    | ok cancelled =>
      dsimp only [SameTraffic]
      rw [Metrics.foldl_recordTransition]
      exact ⟨rfl, rfl⟩
    | error => exact ⟨rfl, rfl⟩

theorem sameTraffic_answer (supplier : Supplier κ) (fresh : Uuid) (now : Timestamp) (d : Desk κ)
    (r : ApiRequest) : d.SameTraffic (d.answer supplier fresh now r).1 := by
  unfold answer
  cases ApiCall.ofRequest r with
  | error response => exact ⟨rfl, rfl⟩
  | ok call => exact d.sameTraffic_carryOut supplier fresh now call

/-- A request is counted once it has been answered, with the status of the answer. -/
theorem metrics_serveArrival (d : Desk κ) (a : Arrival κ) :
    ∃ m : Metrics, m.requests = d.metrics.requests ∧ m.durations = d.metrics.durations ∧
      (d.serveArrival a).1.metrics = m.recordRequest a.request.method a.request.pattern
        (d.serveArrival a).2.status a.seconds := by
  obtain ⟨hrequests, hdurations⟩ := d.sameTraffic_answer a.supplier a.fresh a.now a.request
  exact ⟨_, hrequests, hdurations, rfl⟩

theorem requestsOf_serveArrival (d : Desk κ) (a : Arrival κ) (method path : String) (status : Nat) :
    (d.serveArrival a).1.metrics.requestsOf method path status =
      d.metrics.requestsOf method path status +
        if a.request.method = method ∧ a.request.pattern = path ∧
          (d.serveArrival a).2.status = status then 1 else 0 := by
  obtain ⟨m, hrequests, -, hm⟩ := d.metrics_serveArrival a
  rw [hm, Metrics.requestsOf_recordRequest, Metrics.requestsOf, Metrics.requestsOf, hrequests]

theorem timesOf_serveArrival (d : Desk κ) (a : Arrival κ) (method path : String) :
    (d.serveArrival a).1.metrics.timesOf method path =
      if a.request.method = method ∧ a.request.pattern = path then
        (d.metrics.timesOf method path).observe a.seconds
      else d.metrics.timesOf method path := by
  obtain ⟨m, -, hdurations, hm⟩ := d.metrics_serveArrival a
  rw [hm, Metrics.timesOf_recordRequest, Metrics.timesOf, Metrics.timesOf, hdurations]

theorem total_serveArrival (d : Desk κ) (a : Arrival κ) (p : List String → Bool) :
    (d.serveArrival a).1.metrics.requests.total p = d.metrics.requests.total p +
      if p [a.request.method, a.request.pattern, toString (d.serveArrival a).2.status] then 1
      else 0 := by
  obtain ⟨m, hrequests, -, hm⟩ := d.metrics_serveArrival a
  rw [hm, Metrics.total_recordRequest, hrequests]

theorem byPattern_serveArrival {d : Desk κ} (h : d.metrics.ByPattern) (a : Arrival κ) :
    (d.serveArrival a).1.metrics.ByPattern := by
  obtain ⟨m, hrequests, hdurations, hm⟩ := d.metrics_serveArrival a
  have hm' : m.ByPattern := ⟨hrequests ▸ h.requests, hdurations ▸ h.durations⟩
  rw [hm]
  exact hm'.recordRequest _ _ _ a.request.pattern_mem

/-! ## Any sequence of requests -/

/-- The request of an answer was one of a method, and was counted with a pattern. -/
def IsOf (method path : String) (answered : Arrival κ × ApiResponse) : Prop :=
  answered.1.request.method = method ∧ answered.1.request.pattern = path

instance (method path : String) : DecidablePred (IsOf (κ := κ) method path) :=
  fun _ => inferInstanceAs (Decidable (_ ∧ _))

theorem map_fst_serveAll (d : Desk κ) (as : List (Arrival κ)) :
    (d.serveAll as).2.map (·.1) = as := by
  induction as generalizing d with
  | nil => rfl
  | cons a as ih => rw [serveAll_cons, List.map_cons, ih]

theorem requestsOf_serveAll (d : Desk κ) (as : List (Arrival κ)) (method path : String)
    (status : Nat) :
    (d.serveAll as).1.metrics.requestsOf method path status =
      d.metrics.requestsOf method path status + (d.serveAll as).2.countP fun answered =>
        IsOf method path answered ∧ answered.2.status = status := by
  induction as generalizing d with
  | nil => rfl
  | cons a as ih =>
    rw [serveAll_cons, ih, requestsOf_serveArrival, List.countP_cons, Nat.add_assoc,
      Nat.add_comm (List.countP _ _)]
    simp only [decide_eq_true_eq, IsOf, and_assoc]

theorem timesOf_serveAll (d : Desk κ) (as : List (Arrival κ)) (method path : String) :
    (d.serveAll as).1.metrics.timesOf method path =
      (((d.serveAll as).2.filter fun answered => IsOf method path answered).map
        (·.1.seconds)).foldl .observe (d.metrics.timesOf method path) := by
  induction as generalizing d with
  | nil => rfl
  | cons a as ih =>
    rw [serveAll_cons, ih, timesOf_serveArrival, List.filter_cons]
    by_cases hof : IsOf method path (a, (d.serveArrival a).2)
    · rw [if_pos (show _ ∧ _ from hof), if_pos (decide_eq_true hof), List.map_cons, List.foldl_cons]
    · rw [if_neg (show ¬ (_ ∧ _) from hof), if_neg (by rwa [decide_eq_true_eq])]

theorem total_serveAll (d : Desk κ) (as : List (Arrival κ)) (p : List String → Bool) :
    (d.serveAll as).1.metrics.requests.total p =
      d.metrics.requests.total p + (d.serveAll as).2.countP fun answered =>
        p [answered.1.request.method, answered.1.request.pattern, toString answered.2.status] := by
  induction as generalizing d with
  | nil => rfl
  | cons a as ih =>
    rw [serveAll_cons, ih, total_serveArrival, List.countP_cons, Nat.add_assoc,
      Nat.add_comm (List.countP _ _)]

namespace Rehearsal

/-- Requests that are answered in different ways: one that succeeds, one to a path that no route
fits, one with a method that its route does not have, one of a caller who is not known, and two with
a body that cannot be read. -/
def mixed : List (Arrival Assortment) :=
  [arrival (request "GET" "/orders" "") 1,
    arrival (request "GET" "/orders/650e8400-e29b-41d4-a716-446655440000/lines" "") 2,
    arrival (request "PUT" "/orders/650e8400-e29b-41d4-a716-446655440000" "") 3,
    arrival { request "GET" "/orders" "" with headers := [] } 4,
    arrival (request "POST" "/orders" "\x7b") 5,
    arrival (request "POST" "/orders" "[]") 6]

end Rehearsal

/-- **Every request that is answered is counted once**, whatever its method and path are, whoever
sends it, and however it is answered.  After any sequence of requests to a desk that has just been
opened

* every request has one answer, and for each method, pattern and status the count is the number of
  answers with this status to requests of this method that the pattern fits;
* the histogram of a method and a pattern has exactly the times that these answers took;
* counts and times stand under patterns of routes, or under the one name for whatever fits no route,
  and each combination stands once;
* a histogram has as many times as there are requests in the counts of its method and pattern, over
  all statuses, and all counts together are the number of requests;
* one more request of any kind raises one count by one, adds its time to one histogram, and leaves
  all others as they are. -/
theorem requests_are_counted_once {catalog : κ} {products : Assortment} {seed : Bool}
    {now : Timestamp} {first d : Desk κ} {as : List (Arrival κ)}
    {answers : List (Arrival κ × ApiResponse)}
    (hstart : start catalog products seed now = .ok first)
    (h : first.serveAll as = (d, answers)) :
    answers.map (·.1) = as ∧
    (∀ method path status, d.metrics.requestsOf method path status =
      answers.countP fun answered => IsOf method path answered ∧ answered.2.status = status) ∧
    (∀ method path, d.metrics.timesOf method path =
      ((answers.filter fun answered => IsOf method path answered).map (·.1.seconds)).foldl .observe
        .empty) ∧
    d.metrics.ByPattern ∧
    (∀ method path, (d.metrics.timesOf method path).count =
      d.metrics.requests.total fun labels => labels.take 2 = [method, path]) ∧
    d.metrics.requests.total (fun _ => true) = as.length ∧
    ∀ (a : Arrival κ) (method path : String) (status : Nat),
      (d.serveArrival a).1.metrics.requestsOf method path status =
        d.metrics.requestsOf method path status +
          (if a.request.method = method ∧ a.request.pattern = path ∧
            (d.serveArrival a).2.status = status then 1 else 0) ∧
      (d.serveArrival a).1.metrics.timesOf method path =
        if a.request.method = method ∧ a.request.pattern = path then
          (d.metrics.timesOf method path).observe a.seconds
        else d.metrics.timesOf method path := by
  obtain ⟨s, rfl, -⟩ := start_eq_ok hstart
  obtain ⟨rfl, rfl⟩ := Prod.mk.inj h
  have hall := map_fst_serveAll ⟨s, catalog, products, .empty⟩ as
  have htimes := fun method path => timesOf_serveAll ⟨s, catalog, products, .empty⟩ as method path
  refine ⟨hall, fun method path status => ?_, htimes, ?_, fun method path => ?_, ?_,
    fun a method path status =>
      ⟨requestsOf_serveArrival _ a method path status, timesOf_serveArrival _ a method path⟩⟩
  · rw [requestsOf_serveAll]
    exact Nat.zero_add _
  · exact serveAll_preserves (P := fun d => d.metrics.ByPattern)
      (fun _ a hd => byPattern_serveArrival hd a) .empty as
  · have hlabels : ∀ answered : Arrival κ × ApiResponse,
        decide ([answered.1.request.method, answered.1.request.pattern,
          toString answered.2.status].take 2 = [method, path]) =
            decide (IsOf method path answered) := fun answered => decide_eq_decide.2 (by
      simp only [List.take_succ_cons, List.take_zero, List.cons.injEq, and_true, IsOf])
    rw [htimes, Histogram.count_foldl_observe, total_serveAll, List.length_map]
    simp only [hlabels, List.countP_eq_length_filter]
    rfl
  · rw [total_serveAll, List.countP_true, ← List.length_map (·.1), hall]
    exact Nat.zero_add _

open Rehearsal in
theorem requests_are_counted_once_of_mixed :
    ∃ first d answers, start Assortment.builtIn .builtIn true midnight = .ok first ∧
      first.serveAll mixed = (d, answers) ∧
      answers.map (·.2.status) = [200, 404, 405, 401, 400, 400] ∧
      d.metrics.requestsOf "GET" "/orders" 200 = 1 ∧
      d.metrics.requestsOf "GET" "unmatched" 404 = 1 ∧
      d.metrics.requestsOf "PUT" "/orders/\x7border_id\x7d" 405 = 1 ∧
      d.metrics.requestsOf "GET" "/orders" 401 = 1 ∧
      d.metrics.requestsOf "POST" "/orders" 400 = 2 ∧
      d.metrics.requests.total (fun _ => true) = 6 := by
  have hviews : (start Assortment.builtIn .builtIn true midnight).toOption.map (fun first =>
      ((first.serveAll mixed).2.map (·.2.status),
        [("GET", "/orders", 200), ("GET", "unmatched", 404),
          ("PUT", "/orders/\x7border_id\x7d", 405), ("GET", "/orders", 401),
          ("POST", "/orders", 400)].map fun (method, path, status) =>
            (first.serveAll mixed).2.countP fun answered =>
              IsOf method path answered ∧ answered.2.status = status)) =
      some ([200, 404, 405, 401, 400, 400], [1, 1, 1, 1, 2]) := by
    decide +kernel
  cases hstart : (start Assortment.builtIn .builtIn true midnight) with
  | error e =>
    rw [hstart] at hviews
    cases hviews
  | ok first =>
    rw [hstart] at hviews
    obtain ⟨hstatuses, hviews⟩ := Prod.mk.inj (Option.some.inj hviews)
    have hserve : first.serveAll mixed = ((first.serveAll mixed).1, (first.serveAll mixed).2) := rfl
    obtain ⟨-, hcounts, -, -, -, htotal, -⟩ := requests_are_counted_once hstart hserve
    simp only [List.map_cons, List.map_nil, ← hcounts, List.cons.injEq, and_true] at hviews
    obtain ⟨hshown, hlost, hmethod, hstranger, hbody⟩ := hviews
    exact ⟨first, _, _, rfl, hserve, hstatuses, hshown, hlost, hmethod, hstranger, hbody, htotal⟩

end Desk

end OrderDesk
