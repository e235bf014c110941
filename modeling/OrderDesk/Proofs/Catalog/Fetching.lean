import OrderDesk.Catalog.Remote
import OrderDesk.Proofs.Breaker.Probes

/-!
# Products fetched one after the other

A call that fetches a product passes the circuit breaker, sends its request, waits for what comes
back, tells the circuit how that went, and is counted in the metrics.  Every reply is read four
times on the way: as an answer, as an outcome for the circuit, as a label in the metrics, and, by
way of the circuit, as a state of health.

* `Remote.fetch_cases` — what a call can come to: it is turned away, there is no request to send, or
  one request is sent.
* `Remote.Kept.fetchAll` — what has been counted, and where the circuit stands, after any number of
  calls.
* `Remote.fetches_are_accounted` — the four readings agree, call by call and in all.
* `Remote.fetches_need_not_send` — a call that the circuit lets through may have nothing to send.
-/

namespace OrderDesk

/-! ## Questions by outcome -/

namespace CatalogMetrics

/-- How many questions had an outcome. -/
def asked (m : CatalogMetrics) (label : String) : Nat := (m.requests.get? [label]).getD 0

theorem asked_recordRequest (m : CatalogMetrics) (outcome label : String) :
    (m.recordRequest outcome).asked label = m.asked label + if outcome = label then 1 else 0 := by
  rw [asked, asked, recordRequest, Series.get?_update]
  by_cases h : outcome = label <;> simp [h]

end CatalogMetrics

/-- The answer of a product service leaves the identifier out, so the product gets the one that was
asked for. -/
theorem Product.id_of_ofPayload? {id : ProductId} {j : Json} {p : Product}
    (h : ofPayload? id j = some p) : p.id = id := by
  rw [ofPayload?] at h
  obtain ⟨members, -, h⟩ := Option.bind_eq_some_iff.1 h
  split at h
  · simp only [Option.bind_eq_bind, Option.bind_eq_some_iff, Option.pure_def,
      Option.some.injEq] at h
    obtain ⟨_, -, _, -, _, -, _, -, _, -, rfl⟩ := h
    rfl
  · cases h

/-! ## The circuit -/

namespace Breaker

variable {c : BreakerConfig} {b b' : Breaker} {now : Nat}

/-- Only an open circuit turns calls away. -/
theorem opened_of_enter (h : b.enter c now = none) : b.state = .opened := by
  unfold enter at h
  split at h
  · cases h
  · next hstate => exact not_not.1 hstate

/-- A call that is let through finds the circuit open no more. -/
theorem state_ne_of_enter (h : b.enter c now = some b') : b'.state ≠ .opened := by
  unfold enter at h
  split at h
  · next hstate =>
    cases h
    exact hstate
  · split at h <;> cases h
    nofun

/-- A call that comes leaves a closed circuit as it is, and closes none. -/
theorem eq_of_enter (h : b.enter c now = some b')
    (hclosed : b.state = .closed ∨ b'.state = .closed) : b' = b := by
  rcases enter_eq_some h with heq | ⟨hopened, rfl⟩
  · exact heq
  · rcases hclosed with hclosed | hclosed
    · exact absurd (hopened.symm.trans hclosed) nofun
    · cases hclosed

/-- A call that ends well does not open the circuit, and where the circuit is closed afterwards no
failures are counted. -/
theorem succeed_of_not_opened (h : b.state ≠ .opened) :
    (b.succeed c).state ≠ .opened ∧
      ((b.succeed c).state = .closed → (b.succeed c).failures = 0) := by
  unfold succeed
  split
  · next hstate =>
    split
    · exact ⟨nofun, fun _ => rfl⟩
    · exact ⟨hstate ▸ nofun, fun hclosed => by rw [hstate] at hclosed; cases hclosed⟩
  · next hstate => exact ⟨hstate ▸ nofun, fun _ => rfl⟩
  · next hstate => exact absurd hstate h

/-- A failure counts in a circuit that is closed, and opens it when there were enough. -/
theorem fail_of_closed (h : b.state = .closed) :
    (b.fail c now).failures = b.failures + 1 ∧
      ((b.fail c now).state = .opened ↔ c.failuresToOpen ≤ b.failures + 1) ∧
      ((b.fail c now).state = .opened ∨ (b.fail c now).state = .closed) := by
  have hpos : c.failuresToOpen ≤ b.failures + 1 ↔ c.failureThreshold ≤ b.failures + 1 := by
    unfold BreakerConfig.failuresToOpen
    omega
  unfold fail
  simp only [h]
  split
  · next hle => exact ⟨rfl, iff_of_true rfl (hpos.2 hle), Or.inl rfl⟩
  · next hle => exact ⟨rfl, iff_of_false nofun (fun hlt => hle (hpos.1 hlt)), Or.inr rfl⟩

/-- A failure does not close the circuit. -/
theorem closed_of_fail (h : (b.fail c now).state = .closed) : b.state = .closed := by
  unfold fail at h
  dsimp only at h
  split at h
  · next hstate => exact hstate
  · cases h
  · next hstate => exact absurd (hstate.symm.trans h) nofun

end Breaker

namespace Remote

/-! ## Calls -/

/-- A call that fetches a product: what it asks for, when it comes, what comes back for its request,
and when that is there. -/
structure Fetch where
  id : ProductId
  caller : Option String
  came : Nat
  exchange : RemoteRequest → Reply
  ended : Nat

/-- What has become of a call. -/
structure Fetched where
  sent : Option RemoteRequest
  answer : Answer

/-- When a call is over: when its reply is there, or as soon as it comes if it sends nothing. -/
def Fetched.overAt (r : Fetched) (f : Fetch) : Nat :=
  if r.sent.isSome then f.ended else f.came

/-- The request that is under way. -/
def Attempt.request? : Attempt → Option RemoteRequest
  | .sent r => some r
  | .settled _ => none

/-- Fetches a product. -/
def fetch (c : RemoteConfig) (s : State) (f : Fetch) : State × Fetched :=
  let (s, attempt) := start c f.caller f.came s f.id
  let (s, answer) := finish c f.exchange f.ended s f.id attempt
  (s, ⟨attempt.request?, answer⟩)

/-- Fetches products one after the other. -/
def fetchAll (c : RemoteConfig) (s : State) : List Fetch → State × List Fetched
  | [] => (s, [])
  | f :: fs =>
    let (s, r) := fetch c s f
    let (s, log) := fetchAll c s fs
    (s, r :: log)

/-- A closed circuit, and nothing that has been counted. -/
def State.fresh : State := ⟨.closed, .empty⟩

variable {c : RemoteConfig} {s s' : State} {f : Fetch} {r : Fetched} {log : List Fetched}
  {id : ProductId} {now : Nat} {a : Answer} {p : Product}

/-- To ask about one product, with the reply there at once, is to fetch it. -/
theorem lookUp_singleton (c : RemoteConfig) (exchange : RemoteRequest → Reply)
    (caller : Option String) (now : Nat) (s : State) (id : ProductId) :
    lookUp c exchange caller now s [id] =
        ((fetch c s ⟨id, caller, now, exchange, now⟩).1,
          [(fetch c s ⟨id, caller, now, exchange, now⟩).2.answer]) ∧
      requests c caller now s [id] =
        (fetch c s ⟨id, caller, now, exchange, now⟩).2.sent.toList := by
  refine ⟨rfl, ?_⟩
  rw [requests, startAll, fetch]
  dsimp only
  cases (start c caller now s id).2 <;> rfl

/-- A call is turned away, or has no request to send, or sends one request. -/
theorem fetch_cases (h : fetch c s f = (s', r)) :
    (s.breaker.enter c.breaker f.came = none ∧ r = ⟨none, unavailable "circuit breaker open"⟩ ∧
        s' = note s r.answer) ∨
      ∃ b, s.breaker.enter c.breaker f.came = some b ∧
        ((∃ reason, request c f.caller f.id = .error reason ∧ r = ⟨none, unavailable reason⟩ ∧
            s' = conclude c f.came { s with breaker := b } r.answer) ∨
          ∃ q, request c f.caller f.id = .ok q ∧
            r = ⟨some q, interpret q f.id (f.exchange q)⟩ ∧
            s' = conclude c f.ended { s with breaker := b } r.answer) := by
  rw [fetch, start] at h
  cases henter : s.breaker.enter c.breaker f.came with
  | none =>
    rw [henter] at h
    cases h
    exact Or.inl ⟨rfl, rfl, rfl⟩
  | some b =>
    refine Or.inr ⟨b, rfl, ?_⟩
    rw [henter] at h
    cases hrequest : request c f.caller f.id with
    | error reason =>
      simp only [hrequest] at h
      cases h
      exact Or.inl ⟨reason, rfl, rfl, rfl⟩
    | ok q =>
      simp only [hrequest] at h
      cases h
      exact Or.inr ⟨q, rfl, rfl, rfl⟩

/-! ## Answers -/

/-- An answer is a failure for the circuit if the service could not be asked. -/
theorem outcome_eq_failure_iff : outcome a = .failure ↔ ∃ reason, a = unavailable reason := by
  unfold outcome unavailable
  split
  · next reason => exact iff_of_true rfl ⟨reason, rfl⟩
  · next hother => exact iff_of_false nofun fun ⟨reason, h⟩ => hother reason h

theorem product_eq_ok {body : Option String} (h : product id body = .ok p) :
    p.id = id ∧ p.price.isNegative = false := by
  unfold product at h
  split at h
  · cases h
  · next payload hpayload =>
    split at h
    · cases h
    · next hprice =>
      cases h
      obtain ⟨j, -, hpayload⟩ := Option.bind_eq_some_iff.1 hpayload
      exact ⟨Product.id_of_ofPayload? hpayload, by simpa using hprice⟩

theorem interpret_eq_ok {q : RemoteRequest} {reply : Reply} (h : interpret q id reply = .ok p) :
    p.id = id ∧ p.price.isNegative = false := by
  cases reply with
  | noAnswer => cases h
  | noConnection => cases h
  | answered status body =>
    rw [interpret] at h
    split at h
    · cases h
    · split at h
      · exact product_eq_ok h
      · split at h
        · cases h
        · split at h <;> cases h

/-! ## What is kept from call to call -/

/-- The outcomes of calls, the latest first. -/
def outcomes (log : List Fetched) : List Outcome := (log.map fun r => outcome r.answer).reverse

theorem outcomes_concat (log : List Fetched) (r : Fetched) :
    outcomes (log ++ [r]) = outcome r.answer :: outcomes log := by
  simp [outcomes]

/-- The metrics and the circuit tell what became of the calls so far: answers are counted under
their labels, the gauge shows where the circuit stands, and a closed circuit has counted the
failures since the last other answer. -/
structure Kept (s : State) (log : List Fetched) : Prop where
  asked : ∀ label, s.metrics.asked label = log.countP fun r => outcomeLabel r.answer = label
  gauge : s.metrics.circuit = s.breaker.state
  failures : s.breaker.state = .closed → s.breaker.failures = failuresInRow (outcomes log)

theorem kept_fresh : Kept .fresh [] := ⟨fun _ => rfl, rfl, fun _ => rfl⟩

/-- An answer is counted once, under its own label. -/
theorem asked_fetch (h : fetch c s f = (s', r)) (label : String) :
    s'.metrics.asked label =
      s.metrics.asked label + if outcomeLabel r.answer = label then 1 else 0 := by
  rcases fetch_cases h with ⟨-, -, rfl⟩ | ⟨b, -, ⟨reason, -, -, rfl⟩ | ⟨q, -, -, rfl⟩⟩ <;>
    exact s.metrics.asked_recordRequest _ label

theorem gauge_fetch (h : fetch c s f = (s', r)) : s'.metrics.circuit = s'.breaker.state := by
  rcases fetch_cases h with ⟨-, -, rfl⟩ | ⟨b, -, ⟨reason, -, -, rfl⟩ | ⟨q, -, -, rfl⟩⟩ <;> rfl

/-- What a call does to the circuit: nothing if it is turned away, and otherwise it tells how it
ended. -/
theorem breaker_fetch (h : fetch c s f = (s', r)) :
    (s.breaker.enter c.breaker f.came = none ∧ s'.breaker = s.breaker ∧
        r = ⟨none, unavailable "circuit breaker open"⟩) ∨
      ∃ b, s.breaker.enter c.breaker f.came = some b ∧
        s'.breaker = b.record c.breaker (r.overAt f) (outcome r.answer) := by
  rcases fetch_cases h with
    ⟨henter, hr, rfl⟩ | ⟨b, henter, ⟨reason, -, rfl, rfl⟩ | ⟨q, -, rfl, rfl⟩⟩
  · exact Or.inl ⟨henter, rfl, hr⟩
  · exact Or.inr ⟨b, henter, rfl⟩
  · exact Or.inr ⟨b, henter, rfl⟩

/-- A closed circuit goes on to count the failures since the last other answer. -/
theorem failures_fetch (h : fetch c s f = (s', r))
    (hkept : s.breaker.state = .closed → s.breaker.failures = failuresInRow (outcomes log))
    (hclosed : s'.breaker.state = .closed) :
    s'.breaker.failures = failuresInRow (outcomes (log ++ [r])) := by
  rw [outcomes_concat]
  rcases breaker_fetch h with ⟨henter, hsame, -⟩ | ⟨b, henter, hrecord⟩
  · rw [hsame, Breaker.opened_of_enter henter] at hclosed
    cases hclosed
  · rw [hrecord] at hclosed ⊢
    cases houtcome : outcome r.answer with
    | success =>
      rw [houtcome] at hclosed
      exact (Breaker.succeed_of_not_opened (Breaker.state_ne_of_enter henter)).2 hclosed
    | failure =>
      rw [houtcome] at hclosed
      have hbefore := Breaker.closed_of_fail hclosed
      obtain rfl := Breaker.eq_of_enter henter (Or.inr hbefore)
      rw [failuresInRow_failure, ← hkept hbefore]
      exact (Breaker.fail_of_closed hbefore).1

namespace Kept

/-- The step: one call more. -/
theorem fetch (h : Kept s log) (hfetch : fetch c s f = (s', r)) : Kept s' (log ++ [r]) where
  asked label := by
    rw [asked_fetch hfetch, h.asked, List.countP_append, List.countP_singleton]
    simp only [decide_eq_true_eq]
  gauge := gauge_fetch hfetch
  failures := failures_fetch hfetch h.failures

/-- The run: any number of calls more. -/
theorem fetchAll (h : Kept s log) (fs : List Fetch) :
    Kept (fetchAll c s fs).1 (log ++ (fetchAll c s fs).2) := by
  induction fs generalizing s log with
  | nil =>
    rw [Remote.fetchAll, List.append_nil]
    exact h
  | cons f fs ih =>
    have hrest := ih (h.fetch (rfl : Remote.fetch c s f = _))
    rw [List.append_assoc] at hrest
    exact hrest

end Kept

/-! ## Accounts -/

/-- What a call `f` that became `r` leaves behind, after calls that became `log`. -/
structure Accounted (c : RemoteConfig) (f : Fetch) (s s' : State) (log : List Fetched)
    (r : Fetched) : Prop where
  /-- It is counted once, under the label of its own answer. -/
  asked : ∀ label, s'.metrics.asked label =
    s.metrics.asked label + if outcomeLabel r.answer = label then 1 else 0
  /-- In all, each label has as many calls as had such an answer. -/
  total : ∀ label, s'.metrics.asked label =
    (log ++ [r]).countP fun r => outcomeLabel r.answer = label
  /-- The gauge shows where the circuit stands. -/
  gauge : s'.metrics.circuit = s'.breaker.state
  /-- The service counts as degraded unless the circuit is closed. -/
  health : ∀ now, (∃ reason, (health c s'.breaker now).status = .degraded reason) ↔
    s'.breaker.state ≠ .closed
  /-- A call that is turned away sends nothing and tells the circuit nothing. -/
  away : s.breaker.enter c.breaker f.came = none →
    r = ⟨none, unavailable "circuit breaker open"⟩ ∧ s'.breaker = s.breaker
  /-- Every other call sends its one request, if there is one, and tells the circuit once how it
  ended: it is a failure just if the service could not be asked. -/
  through : ∀ b, s.breaker.enter c.breaker f.came = some b →
    r.sent = (request c f.caller f.id).toOption ∧
      (r.sent = none → ∃ reason, r.answer = unavailable reason) ∧
      s'.breaker = b.record c.breaker (r.overAt f) (outcome r.answer) ∧
      (outcome r.answer = .failure ↔ ∃ reason, r.answer = unavailable reason)
  /-- A closed circuit has counted the failures since the last other answer. -/
  failures : s'.breaker.state = .closed →
    s'.breaker.failures = failuresInRow (outcomes (log ++ [r]))
  /-- A closed circuit opens when there were enough of them. -/
  opening : s.breaker.state = .closed → (s'.breaker.state = .opened ↔
    c.breaker.failuresToOpen ≤ failuresInRow (outcomes (log ++ [r])))
  /-- That there is no such product does not open the circuit, and ends a row of failures. -/
  missing : ∀ id, r.answer = .error (.notFound id) →
    s'.breaker.state ≠ .opened ∧ failuresInRow (outcomes (log ++ [r])) = 0
  /-- A product that is returned is the one that was asked for, and its price is not negative. -/
  returned : ∀ p, r.answer = .ok p → p.id = f.id ∧ p.price.isNegative = false

/-- Only a circuit that is not closed counts as degraded. -/
theorem health_degraded_iff (c : RemoteConfig) (b : Breaker) (now : Timestamp) :
    (∃ reason, (Remote.health c b now).status = .degraded reason) ↔ b.state ≠ .closed := by
  unfold Remote.health
  by_cases h : b.state = .closed <;> simp [h]

theorem opening_fetch (h : fetch c s f = (s', r)) (hkept : Kept s log)
    (hclosed : s.breaker.state = .closed) : s'.breaker.state = .opened ↔
      c.breaker.failuresToOpen ≤ failuresInRow (outcomes (log ++ [r])) := by
  rw [outcomes_concat]
  rcases breaker_fetch h with ⟨henter, -, -⟩ | ⟨b, henter, hrecord⟩
  · rw [Breaker.opened_of_enter henter] at hclosed
    cases hclosed
  · obtain rfl := Breaker.eq_of_enter henter (Or.inl hclosed)
    rw [hrecord]
    cases outcome r.answer with
    | success =>
      refine iff_of_false (Breaker.succeed_of_not_opened (Breaker.state_ne_of_enter henter)).1 ?_
      exact Nat.not_le.2 c.breaker.failuresToOpen_pos
    | failure =>
      rw [failuresInRow_failure, ← hkept.failures hclosed]
      exact (Breaker.fail_of_closed hclosed).2.1

/-- A call that the circuit lets through sends its one request, or says that there is none. -/
theorem sent_fetch (h : fetch c s f = (s', r)) {b : Breaker}
    (henter : s.breaker.enter c.breaker f.came = some b) :
    r.sent = (request c f.caller f.id).toOption ∧
      (r.sent = none → ∃ reason, r.answer = unavailable reason) := by
  rcases fetch_cases h with ⟨hnone, -⟩ | ⟨-, -, ⟨reason, hrequest, rfl, -⟩ | ⟨q, hrequest, rfl, -⟩⟩
  · cases henter.symm.trans hnone
  · rw [hrequest]
    exact ⟨rfl, fun _ => ⟨reason, rfl⟩⟩
  · rw [hrequest]
    exact ⟨rfl, nofun⟩

/-- An answer that is no failure does not open the circuit. -/
theorem state_fetch_ne (h : fetch c s f = (s', r)) (hanswer : outcome r.answer = .success) :
    s'.breaker.state ≠ .opened := by
  rcases breaker_fetch h with ⟨-, -, rfl⟩ | ⟨b, henter, hrecord⟩
  · cases hanswer
  · rw [hrecord, hanswer]
    exact (Breaker.succeed_of_not_opened (Breaker.state_ne_of_enter henter)).1

theorem returned_fetch (h : fetch c s f = (s', r)) (hanswer : r.answer = .ok p) :
    p.id = f.id ∧ p.price.isNegative = false := by
  rcases fetch_cases h with ⟨-, rfl, -⟩ | ⟨-, -, ⟨reason, -, rfl, -⟩ | ⟨q, -, rfl, -⟩⟩
  · cases hanswer
  · cases hanswer
  · exact interpret_eq_ok hanswer

/-- **Fetches are accounted for.**  Whatever the product service answers, and whatever the time is,
calls that come one after the other to a closed circuit are accounted for, call by call and in
all. -/
theorem fetches_are_accounted (c : RemoteConfig) (fs : List Fetch) (f : Fetch)
    (hfs : fetchAll c .fresh fs = (s, log)) (hf : fetch c s f = (s', r)) :
    Accounted c f s s' log r := by
  have hkept : Kept s log := by
    have hall := kept_fresh.fetchAll (c := c) fs
    rw [hfs] at hall
    exact hall
  have hnext := hkept.fetch hf
  refine ⟨asked_fetch hf, hnext.asked, hnext.gauge, health_degraded_iff c _, fun henter => ?_,
    fun b henter => ?_, hnext.failures, opening_fetch hf hkept, fun id hmissing => ?_,
    fun p => returned_fetch hf⟩
  · rcases breaker_fetch hf with ⟨-, hsame, hr⟩ | ⟨b, henter', -⟩
    · exact ⟨hr, hsame⟩
    · cases henter.symm.trans henter'
  · obtain ⟨hsent, hnone⟩ := sent_fetch hf henter
    rcases breaker_fetch hf with ⟨henter', -⟩ | ⟨b', henter', hrecord⟩
    · cases henter.symm.trans henter'
    · cases henter.symm.trans henter'
      exact ⟨hsent, hnone, hrecord, outcome_eq_failure_iff⟩
  · have hsuccess : outcome r.answer = .success := by rw [hmissing]; rfl
    refine ⟨state_fetch_ne hf hsuccess, ?_⟩
    rw [outcomes_concat, hsuccess, failuresInRow_success]

/-! A product service behind a circuit that opens after two failures in a row. -/

namespace Rehearsal

def patient : RemoteConfig := ⟨"http://[::1]", none, ⟨2, 100, 1⟩⟩

/-- A call that comes at some time and gets a reply. -/
def call (came : Nat) (reply : Reply) : Fetch := ⟨.ofNat 7, none, came, fun _ => reply, came + 1⟩

end Rehearsal

open Rehearsal in
theorem fetches_are_accounted_when_missing :
    let before := fetchAll patient .fresh [call 0 .noAnswer, call 1 (.answered 404 none)]
    let after := fetch patient before.1 (call 2 .noAnswer)
    Accounted patient (call 2 .noAnswer) before.1 after.1 before.2 after.2 ∧
      after.1.breaker = ⟨.closed, 1, 0, none⟩ ∧ after.1.metrics.asked "unavailable" = 2 ∧
      after.1.metrics.asked "not_found" = 1 := by
  intro before after
  have haccounted := fetches_are_accounted patient
    [call 0 .noAnswer, call 1 (.answered 404 none)] (call 2 .noAnswer) (Prod.eta _).symm
    (Prod.eta _).symm
  exact ⟨haccounted, by decide +kernel⟩

open Rehearsal in
/-- Two calls that a closed circuit lets through and that have no request to send, though the
product service would have answered: the service has no address, or the authorization is no header.
Both count as failures. -/
theorem fetches_need_not_send :
    let nowhere : RemoteConfig := { patient with base := "" }
    let asked := call 0 (.answered 404 none)
    let unsent := fetch nowhere .fresh asked
    let broken := fetch patient .fresh { asked with caller := some "x\ny" }
    State.fresh.breaker.enter patient.breaker 0 = some .closed ∧
      unsent.2.sent = none ∧ unsent.1.breaker.failures = 1 ∧
      broken.2.sent = none ∧ broken.1.breaker.failures = 1 := by
  decide +kernel

end Remote

end OrderDesk
