import OrderDesk.Proofs.Service.Perform
import OrderDesk.Proofs.Switchboard.Steps

/-!
# A call that fails leaves no trace

No call writes first and fails later: a call changes the service only in a step from which on it
cannot fail any more (`Call.Sure`).  In the steps of a call that fails, therefore, nothing happens
to the service; and since a call that is not there holds no order, all other calls can go on without
it just as they did with it (`run_without`).

* `Starts.sure`, `Advances.sure` — a step that changes the service makes its call sure.
* `sure_of_run` — a call that is sure stays so.
* `failed_call_leaves_no_trace` — whatever the calls that fail were, and whatever happened while
  they were under way, the service is what it would be without them.
-/

namespace OrderDesk

/-! ## Calls that cannot fail any more -/

/-- A call that has ended well, or a deletion that has removed its user. -/
def Call.Sure : Call → Prop
  | .cascading _ _ => True
  | .cancelling _ _ _ => True
  | .ended result => result.isFailure = false
  | .looking _ _ => False
  | .asking _ => False
  | .acting _ _ => False

theorem Starts.sure {fresh : Uuid} {now : Timestamp} {s s' : Service} {r : Request} {c : Call}
    (h : Starts fresh now s r s' c) : s' = s ∨ c.Sure := by
  cases h with
  | registered | redeemed | awarded => exact Or.inr rfl
  | removed => exact Or.inr trivial
  | creating | createFailed | looking | reviseFailed | acting | actFailed | registerFailed
  | redeemFailed | awardFailed | removeFailed => exact Or.inl rfl

namespace Advances

variable {fresh : Uuid} {now : Timestamp} {answers : List Answer} {s s' : Service} {c c' : Call}

theorem sure (h : Advances fresh now answers s c s' c') : s' = s ∨ c'.Sure := by
  cases h with
  | revised | placed | submitted | cancelled => exact Or.inr rfl
  | swept => exact Or.inr trivial
  | looked | lookFailed | held | confirmed | askFailed | actFailed | finished | passedOver | found
  | spared => exact Or.inl rfl

theorem sure_of_sure (h : Advances fresh now answers s c s' c') (hc : c.Sure) : c'.Sure := by
  cases h with
  | finished => rfl
  | passedOver | found | swept | spared => trivial
  | looked | lookFailed | held | confirmed | revised | placed | askFailed | submitted | cancelled
  | actFailed => exact hc.elim

end Advances

namespace Switchboard

variable {b b' : Switchboard} {e : Event} {es : List Event} {t : CallId}

/-- The call has begun and cannot fail any more. -/
def Sure (b : Switchboard) (t : CallId) : Prop :=
  ∃ entry, b.calls.get? t = some entry ∧ entry.call.Sure

theorem sure_of_step (h : b.step e = some b') (hb : b.Sure t) : b'.Sure t := by
  obtain ⟨entry, hentry, hsure⟩ := hb
  by_cases ht : t = e.call
  · subst ht
    cases moves_of_step h with
    | start hnew _ => exact absurd (hnew.symm.trans hentry) (by simp)
    | advance hentry' _ hadv =>
      cases hentry'.symm.trans hentry
      exact ⟨_, Table.get?_insert_self .., hadv.sure_of_sure hsure⟩
  · exact ⟨entry, (get?_calls_of_step h ht).trans hentry, hsure⟩

/-- A call that is sure stays so. -/
theorem sure_of_run (h : b.run es = some b') (hb : b.Sure t) : b'.Sure t :=
  run_preserves (P := fun b => b.Sure t) (fun _ _ _ hb h => sure_of_step h hb) hb h

/-- A step that changes the service makes its call sure. -/
theorem service_eq_of_step (h : b.step e = some b') (hnot : ¬ b'.Sure e.call) :
    b'.service = b.service := by
  cases moves_of_step h with
  | start hnew hstart =>
    exact hstart.sure.resolve_right fun hsure => hnot ⟨_, Table.get?_insert_self .., hsure⟩
  | advance _ _ hadv =>
    exact hadv.sure.resolve_right fun hsure => hnot ⟨_, Table.get?_insert_self .., hsure⟩

/-! ## Leaving a call out -/

/-- The same service with one call less. -/
def without (b : Switchboard) (t : CallId) : Switchboard := ⟨b.service, b.calls.erase t⟩

theorem Free.without {slot : Nat} (h : b.Free slot) : (b.without t).Free slot :=
  fun entry hentry => h entry (Table.mem_values_of_erase hentry)

theorem Ready.without {c : Call} {answers : List Answer} (h : b.Ready c answers) :
    (b.without t).Ready c answers :=
  ⟨h.1, h.2.1, fun slot hslot => (h.2.2 slot hslot).without⟩

theorem get?_without {id : CallId} (h : id ≠ t) :
    (b.without t).calls.get? id = b.calls.get? id :=
  (Table.get?_erase ..).trans (if_neg h.symm)

/-- Other calls do not notice that a call is left out. -/
theorem step_without (h : b.step e = some b') (ht : e.call ≠ t) :
    (b.without t).step e = some (b'.without t) := by
  cases e with
  | start id request fresh now =>
    have hid : id ≠ t := ht
    obtain ⟨hnew, rfl⟩ := step_start_eq_some_iff.1 h
    refine step_start_eq_some_iff.2 ⟨(get?_without hid).trans hnew, ?_⟩
    rw [without, Table.erase_insert_of_ne _ _ hid]
    rfl
  | advance id answers fresh now =>
    have hid : id ≠ t := ht
    obtain ⟨entry, hentry, hready, rfl⟩ := step_advance_eq_some_iff.1 h
    refine step_advance_eq_some_iff.2 ⟨entry, (get?_without hid).trans hentry, hready.without, ?_⟩
    rw [without, Table.erase_insert_of_ne _ _ hid]
    rfl

/-- A step of the call that is left out is no step, unless it makes the call sure. -/
theorem without_of_step (h : b.step e = some b') (hnot : ¬ b'.Sure e.call) :
    b'.without e.call = b.without e.call := by
  have hservice : b'.service = b.service := service_eq_of_step h hnot
  have hcalls : b'.calls.erase e.call = b.calls.erase e.call := by
    cases moves_of_step h with
    | start _ _ => exact Table.erase_insert_self ..
    | advance _ _ _ => exact Table.erase_insert_self ..
  rw [without, without, hservice, hcalls]

/-- A run in which a call does not become sure is a run of the other calls. -/
theorem run_without (h : b.run es = some b') (hnot : ¬ b'.Sure t) :
    (b.without t).run (es.filter fun e => e.call ≠ t) = some (b'.without t) := by
  induction es generalizing b with
  | nil =>
    cases h
    rfl
  | cons e es ih =>
    obtain ⟨b₁, hstep, hrun⟩ := run_cons_eq_some_iff.1 h
    by_cases ht : e.call = t
    · subst ht
      have hnot₁ : ¬ b₁.Sure e.call := fun hsure => hnot (sure_of_run hrun hsure)
      rw [List.filter_cons_of_neg (by simp), ← without_of_step hstep hnot₁]
      exact ih hrun
    · rw [List.filter_cons_of_pos (by simpa using ht), run, step_without hstep ht]
      exact ih hrun

/-- A call whose result is a failure has not become sure. -/
theorem not_sure_of_failure {request : Request} {result : CallResult}
    (hend : b.calls.get? t = some ⟨request, .ended result⟩) (hfail : result.isFailure) :
    ¬ b.Sure t := by
  rintro ⟨entry, hentry, hsure⟩
  cases hend.symm.trans hentry
  have hresult : result.isFailure = false := hsure
  rw [hfail] at hresult
  cases hresult

/-- **A call that fails leaves no trace.**  An operation that fails with nothing else happening
meanwhile leaves the service as it was.  A call that fails in a run, whatever others do meanwhile
and whatever the catalog answers, changes the service in none of its steps, and without the call the
same run leads to the same service and to the same state of all other calls. -/
theorem failed_call_leaves_no_trace :
    (∀ (κ : Type) (ask : κ → List ProductId → κ × List Answer) (fresh : Uuid) (now : Timestamp)
      (catalog : κ) (s : Service) (r : Request),
      (s.perform ask fresh now catalog r).2.isFailure →
        (s.perform ask fresh now catalog r).1 = s) ∧
    ∀ (b b' : Switchboard) (es : List Event) (t : CallId) (request : Request)
      (result : CallResult), b.run es = some b' → b.calls.get? t = none →
      b'.calls.get? t = some ⟨request, .ended result⟩ → result.isFailure →
      (∃ b'', b.run (es.filter fun e => e.call ≠ t) = some b'' ∧ b''.service = b'.service ∧
        ∀ id, id ≠ t → b''.calls.get? id = b'.calls.get? id) ∧
      ∀ (es₁ es₂ : List Event) (e : Event) (b₁ b₂ : Switchboard), es = es₁ ++ e :: es₂ →
        e.call = t → b.run es₁ = some b₁ → b₁.step e = some b₂ → b₂.service = b₁.service := by
  refine ⟨fun κ ask fresh now catalog s r h => Service.perform_failure h, ?_⟩
  intro b b' es t request result h hnew hend hfail
  have hnot : ¬ b'.Sure t := not_sure_of_failure hend hfail
  constructor
  · have hrun := run_without h hnot
    have hsame : b.without t = b := by
      rw [without, Table.erase_of_get?_eq_none hnew]
    rw [hsame] at hrun
    exact ⟨b'.without t, hrun, rfl, fun id hid => get?_without hid⟩
  · rintro es₁ es₂ e b₁ b₂ rfl rfl hrun₁ hstep
    rw [run_append, hrun₁, Option.bind_some, run, hstep, Option.bind_some] at h
    exact service_eq_of_step hstep fun hsure => hnot (sure_of_run h hsure)

open Rehearsal in
theorem failed_call_leaves_no_trace_when_cancelled :
    ∃ b b' b'', (ofService .empty).run ordering = some b ∧ b.run cancelling = some b' ∧
      (∃ entry result, b'.calls.get? (call 4) = some entry ∧ entry.call = .ended result ∧
        result.isFailure) ∧
      b.run (cancelling.filter fun e => e.call ≠ call 4) = some b'' ∧
      b''.service = b'.service ∧
      (Service.empty.perform (fun (_ : Unit) ids => ((), ids.map fun _ => .timedOut)) .nil midnight
        () (.redeem (.ofNat 8) one)).1 = .empty := by
  have hrun : ((ofService .empty).run ordering).isSome := by decide
  obtain ⟨b, hb⟩ := Option.isSome_iff_exists.1 hrun
  have hnew : ((ofService .empty).run ordering).map (fun b => b.calls.contains (call 4)) =
      some false := by decide
  have hfail : ((ofService .empty).run (ordering ++ cancelling)).bind (fun b =>
      (b.calls.get? (call 4)).bind fun entry => entry.call.result?.map (·.isFailure)) =
        some true := by decide
  rw [hb, Option.map_some, Option.some.injEq, Table.contains, Option.isSome_eq_false_iff,
    Option.isNone_iff_eq_none] at hnew
  rw [run_append, hb, Option.bind_some, Option.bind_eq_some_iff] at hfail
  obtain ⟨b', hb', hfail⟩ := hfail
  obtain ⟨⟨request, c⟩, hentry, hfail⟩ := Option.bind_eq_some_iff.1 hfail
  obtain ⟨result, hresult, hfailure⟩ := Option.map_eq_some_iff.1 hfail
  rw [Call.result?_eq_some_iff] at hresult
  subst hresult
  obtain ⟨⟨b'', hb'', hservice, -⟩, -⟩ :=
    failed_call_leaves_no_trace.2 b b' cancelling (call 4) request result hb' hnew hentry
      hfailure
  exact ⟨b, b', b'', hb, hb', ⟨_, result, hentry, rfl, hfailure⟩, hb'', hservice,
    failed_call_leaves_no_trace.1 Unit _ .nil midnight () .empty _ rfl⟩

end Switchboard

end OrderDesk
