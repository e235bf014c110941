import OrderDesk.Api.Supplier
import OrderDesk.Proofs.Desk.Serving

/-!
# Requests of strangers

A request that does not say who it comes from, in the form that is asked for, comes from a
*stranger*.  Only the health of the service is told to strangers (`ApiRequest.IsPublic`).  Every
other request of a stranger is refused as it is read (`ofRequest_of_stranger`), before anything in
its query, its body or its identifiers is looked at, and the refusal depends on the request alone.

* `strangers_learn_and_change_nothing` — a stranger gets the same answer from any two desks, and
  leaves each of them as it was; where the path and the method lead somewhere, the answer is that
  the stranger is not known.
* `strangers_leave_no_trace` — in any sequence of requests, the others get the answers that they
  would have got without the strangers, and the desk ends up in the same state.

What a desk counts about the requests themselves is the one thing that strangers do change, and no
answer depends on it (`Desk.SameBooks.carryOut`).
-/

namespace OrderDesk

/-! ## Who is refused -/

/-- Every refusal of a caller says that the caller is not known. -/
theorem Bearer.status_of_parse {header : Option String} {e : ApiError}
    (h : Bearer.parse header = .error e) : e.status = 401 := by
  unfold Bearer.parse at h
  split at h
  · cases h
    rfl
  · split at h
    · cases h
      rfl
    · split at h
      · cases h
        rfl
      · split at h
        · cases h
          rfl
        · split at h
          · cases h
            rfl
          · cases h

/-- Only the path and the method of the health of the service lead to it. -/
theorem Route.endpoint?_eq_health {route : Route} {method : String}
    (h : route.endpoint? method = some .health) : method = "GET" ∧ route = .health := by
  cases route with
  | health =>
    simp only [endpoint?] at h
    split at h
    · next hget => exact ⟨hget, rfl⟩
    · cases h
  | orders | order | user | points =>
    simp only [endpoint?] at h
    split at h
    · cases h
    · split at h <;> cases h
  | submission | users | products | product =>
    simp only [endpoint?] at h
    split at h <;> cases h

namespace ApiRequest

/-- The request asks for the health of the service. -/
def IsPublic (r : ApiRequest) : Prop := r.method = "GET" ∧ r.route? = some .health

instance (r : ApiRequest) : Decidable r.IsPublic := inferInstanceAs (Decidable (_ ∧ _))

/-- What is wrong with how the request says who it comes from. -/
def complaint? (r : ApiRequest) : Option ApiError :=
  match Bearer.parse (r.headerText? "authorization") with
  | .ok _ => none
  | .error e => some e

/-- The request is for callers who are known, and does not come from one. -/
def FromStranger (r : ApiRequest) : Prop := ¬ r.IsPublic ∧ r.complaint?.isSome

instance (r : ApiRequest) : Decidable r.FromStranger := inferInstanceAs (Decidable (_ ∧ _))

/-- The answer to a stranger. -/
def refusal (r : ApiRequest) (e : ApiError) : ApiResponse :=
  match r.route? with
  | none => .empty 404
  | some route =>
    match route.endpoint? r.method with
    | none => .empty route.wrongMethodStatus
    | some _ => .ofError e

theorem complaint?_eq_some_iff {r : ApiRequest} {e : ApiError} :
    r.complaint? = some e ↔ Bearer.parse (r.headerText? "authorization") = .error e := by
  unfold complaint?
  cases Bearer.parse (r.headerText? "authorization") with
  | ok caller => simp
  | error e' => simp

end ApiRequest

/-- A request of a stranger is refused as it is read. -/
theorem ApiCall.ofRequest_of_stranger {r : ApiRequest} {e : ApiError} (hpublic : ¬ r.IsPublic)
    (hcaller : r.complaint? = some e) : ofRequest r = .error (r.refusal e) := by
  have hbearer : r.bearer = .error (.ofError e) := by
    rw [ApiRequest.bearer, ApiRequest.complaint?_eq_some_iff.1 hcaller]
    rfl
  unfold ofRequest ApiRequest.refusal
  cases hroute : r.route? with
  | none => rfl
  | some route =>
    dsimp only
    split
    · next hnone => rw [hnone]
    · next hhealth =>
      obtain ⟨hget, rfl⟩ := Route.endpoint?_eq_health hhealth
      exact absurd ⟨hget, hroute⟩ hpublic
    · next endpoint _ hsome =>
      rw [hsome, hbearer]
      rfl

namespace Desk

variable {κ : Type}

/-! ## Strangers -/

/-- A stranger is refused, and only the request is counted. -/
theorem serve_of_stranger {r : ApiRequest} {e : ApiError} (hpublic : ¬ r.IsPublic)
    (hcaller : r.complaint? = some e) (supplier : Supplier κ) (fresh : Uuid) (now : Timestamp)
    (seconds : Float) (d : Desk κ) :
    d.serve supplier fresh now seconds r = (d.count r (r.refusal e) seconds, r.refusal e) := by
  simp only [serve, answer, ApiCall.ofRequest_of_stranger hpublic hcaller]

namespace Rehearsal

/-- A request in which the caller, the identifier and the body are all wrong. -/
def nosy : ApiRequest := ⟨"PATCH", "/orders/nonsense", [("Authorization", "Bearer short")], "\x7b"⟩

def quiet : Desk Assortment := ⟨.empty, .builtIn, .builtIn, .empty⟩

/-- A desk with an order. -/
def busy : Desk Assortment :=
  { quiet with service := ⟨⟨[.place (.ofNat 1) midnight none [] .zero]⟩, .empty⟩ }

end Rehearsal

/-- **Strangers learn nothing and change nothing.**  A request that is not for everyone and does not
say who it comes from gets the same answer from any two desks, whatever they know and whatever they
get from elsewhere, and changes nothing in them but the count of requests.  If its path and its
method lead somewhere, the answer is what is wrong with the caller, whatever else is wrong with the
request. -/
theorem strangers_learn_and_change_nothing {κ κ' : Type} {r : ApiRequest} {e : ApiError}
    (hpublic : ¬ (r.method = "GET" ∧ r.route? = some .health))
    (hcaller : Bearer.parse (r.headerText? "authorization") = .error e)
    (supplier : Supplier κ) (supplier' : Supplier κ') (fresh fresh' : Uuid) (now now' : Timestamp)
    (seconds seconds' : Float) (d : Desk κ) (d' : Desk κ') :
    (d'.serve supplier' fresh' now' seconds' r).2 = (d.serve supplier fresh now seconds r).2 ∧
      d.SameBooks (d.serve supplier fresh now seconds r).1 ∧
      d'.SameBooks (d'.serve supplier' fresh' now' seconds' r).1 ∧
      ∀ route endpoint, r.route? = some route → route.endpoint? r.method = some endpoint →
        (d.serve supplier fresh now seconds r).2 = .ofError e ∧ e.status = 401 := by
  have hcomplaint : r.complaint? = some e := ApiRequest.complaint?_eq_some_iff.2 hcaller
  rw [serve_of_stranger hpublic hcomplaint, serve_of_stranger hpublic hcomplaint]
  refine ⟨rfl, .count .., .count .., fun route endpoint hroute hendpoint => ⟨?_, ?_⟩⟩
  · dsimp only [ApiRequest.refusal]
    rw [hroute]
    dsimp only
    rw [hendpoint]
  · exact Bearer.status_of_parse hcaller

open Rehearsal in
theorem strangers_learn_and_change_nothing_when_malformed :
    ¬ (nosy.method = "GET" ∧ nosy.route? = some .health) ∧
      Bearer.parse (nosy.headerText? "authorization") = .error Bearer.invalidToken ∧
      (quiet.serve .builtIn .nil midnight 1 nosy).2 = .ofError Bearer.invalidToken ∧
      (busy.serve .builtIn .nil midnight 1 nosy).2 = .ofError Bearer.invalidToken ∧
      busy.SameBooks (busy.serve .builtIn .nil midnight 1 nosy).1 := by
  have hpublic : ¬ (nosy.method = "GET" ∧ nosy.route? = some .health) :=
    fun h => absurd h.1 (by decide)
  have hcomplaint : nosy.complaint? = some Bearer.invalidToken := by
    decide +kernel
  have hcaller : Bearer.parse (nosy.headerText? "authorization") = .error Bearer.invalidToken :=
    ApiRequest.complaint?_eq_some_iff.1 hcomplaint
  have hroute : nosy.route? = some (.order "nonsense") := by
    decide +kernel
  obtain ⟨hsame, -, hbusy, hanswer⟩ := strangers_learn_and_change_nothing hpublic hcaller .builtIn
    .builtIn .nil .nil midnight midnight 1 1 quiet busy
  have hrefused := (hanswer _ (.reviseOrder "nonsense") hroute rfl).1
  exact ⟨hpublic, hcaller, hrefused, hsame.trans hrefused, hbusy⟩

/-- Requests are answered as they would have been without those of strangers. -/
theorem SameBooks.serveAll_without_strangers {d d' : Desk κ} (h : d.SameBooks d')
    (as : List (Arrival κ)) :
    (d'.serveAll (as.filter fun a => ¬ a.request.FromStranger)).1.SameBooks (d.serveAll as).1 ∧
      (d'.serveAll (as.filter fun a => ¬ a.request.FromStranger)).2 =
        (d.serveAll as).2.filter fun p => ¬ p.1.request.FromStranger := by
  induction as generalizing d d' with
  | nil => exact ⟨h.symm, rfl⟩
  | cons a as ih =>
    rw [serveAll_cons]
    by_cases hstranger : a.request.FromStranger
    · obtain ⟨e, he⟩ := Option.isSome_iff_exists.1 hstranger.2
      have hserve : d.SameBooks (d.serveArrival a).1 := by
        rw [serveArrival, serve_of_stranger hstranger.1 he]
        exact .count ..
      rw [List.filter_cons_of_neg (by simpa using hstranger),
        List.filter_cons_of_neg (by simpa using hstranger)]
      exact ih (hserve.symm.trans h)
    · obtain ⟨hbooks, hresponse⟩ := h.serve a
      obtain ⟨hrest, hanswers⟩ := ih hbooks
      rw [List.filter_cons_of_pos (by simpa using hstranger), serveAll_cons,
        List.filter_cons_of_pos (by simpa using hstranger)]
      exact ⟨hrest, by rw [hresponse, hanswers]⟩

/-- **Strangers leave no trace** in what becomes of a desk and in the answers that others get. -/
theorem strangers_leave_no_trace (d : Desk κ) (as : List (Arrival κ)) :
    (d.serveAll (as.filter fun a => ¬ a.request.FromStranger)).1.SameBooks (d.serveAll as).1 ∧
      (d.serveAll (as.filter fun a => ¬ a.request.FromStranger)).2 =
        (d.serveAll as).2.filter fun p => ¬ p.1.request.FromStranger :=
  SameBooks.serveAll_without_strangers (.refl d) as

end Desk

end OrderDesk
