import OrderDesk.Proofs.Breaker.Probes

/-!
# How far a breaker counts

A breaker counts failures and successful probes, and compares each count with a threshold.  The
count of probes is always below its threshold, and so is the count of failures in a closed circuit
(`Breaker.Bounded`).  But failures are counted in every state, also by probes that fail, and nothing
but a success that finds the circuit closed, or closes it, takes the count back to zero.

* `counters_and_their_bounds` — what each counter holds after any calls: the count of failures is
  the number of calls that have failed since it was zero in a closed circuit.
* `trafficAfter_failingCalls` — with every configuration, calls that fail one after the other take
  this count as far as one likes, so no fixed width is enough for it
  (`failures_can_outgrow_thirty_two_bits`).
* `run_wrappingGate` — with counters that wrap around at thirty-two bits all calls are answered the
  same, since a count that is compared with a threshold has not wrapped around.
-/

namespace OrderDesk

namespace Breaker

variable {c : BreakerConfig} {now : Nat} {b b' : Breaker}

/-! ## One call -/

/-- The counts that are compared with a threshold are below it. -/
structure Bounded (c : BreakerConfig) (b : Breaker) : Prop where
  successes : b.successes < c.successesToClose
  failures : b.state = .closed → b.failures < c.failuresToOpen

namespace Bounded

theorem start (c : BreakerConfig) : closed.Bounded c :=
  ⟨c.successesToClose_pos, fun _ => c.failuresToOpen_pos⟩

/-- Only the count of successes is compared in a circuit that is not closed. -/
theorem of_ne_closed (h : b.successes < c.successesToClose) (hstate : b.state ≠ .closed) :
    b.Bounded c :=
  ⟨h, fun hclosed => absurd hclosed hstate⟩

theorem enter (h : b.Bounded c) (henter : b.enter c now = some b') : b'.Bounded c := by
  rcases enter_eq_some henter with rfl | ⟨-, rfl⟩
  · exact h
  · exact of_ne_closed c.successesToClose_pos CircuitState.noConfusion

theorem succeed (h : b.Bounded c) : (b.succeed c).Bounded c := by
  obtain ⟨state, failures, successes, openedAt⟩ := b
  cases state with
  | closed => exact ⟨h.successes, fun _ => c.failuresToOpen_pos⟩
  | opened => exact h
  | halfOpen =>
    rw [Breaker.succeed]
    dsimp only
    split
    · exact .start c
    · next hfew =>
      have hlt := Nat.lt_of_lt_of_le (Nat.not_le.1 hfew) (Nat.le_max_right 1 c.successThreshold)
      exact of_ne_closed hlt CircuitState.noConfusion

theorem fail (h : b.Bounded c) : (b.fail c now).Bounded c := by
  obtain ⟨state, failures, successes, openedAt⟩ := b
  cases state with
  | closed =>
    rw [Breaker.fail]
    dsimp only
    split
    · exact of_ne_closed h.successes CircuitState.noConfusion
    · next hfew =>
      exact ⟨h.successes, fun _ => Nat.lt_of_lt_of_le (Nat.not_le.1 hfew) (Nat.le_max_right ..)⟩
  | opened => exact of_ne_closed h.successes CircuitState.noConfusion
  | halfOpen => exact of_ne_closed c.successesToClose_pos CircuitState.noConfusion

theorem record (h : b.Bounded c) (outcome : Outcome) : (b.record c now outcome).Bounded c := by
  cases outcome with
  | success => exact h.succeed
  | failure => exact h.fail

end Bounded

theorem failures_enter (henter : b.enter c now = some b') : b'.failures = b.failures := by
  rcases enter_eq_some henter with rfl | ⟨-, rfl⟩
  · rfl
  · rfl

/-- A failure counts in every state. -/
@[simp] theorem failures_fail (c : BreakerConfig) (now : Nat) (b : Breaker) :
    (b.fail c now).failures = b.failures + 1 := by
  obtain ⟨state, failures, successes, openedAt⟩ := b
  cases state with
  | closed =>
    rw [fail]
    dsimp only
    split
    · rfl
    · rfl
  | opened => rfl
  | halfOpen => rfl

/-- A success leaves the count of failures alone, or takes it to zero in a closed circuit. -/
theorem failures_succeed (c : BreakerConfig) (b : Breaker) :
    (b.succeed c).failures = b.failures ∨
      (b.succeed c).state = .closed ∧ (b.succeed c).failures = 0 := by
  obtain ⟨state, failures, successes, openedAt⟩ := b
  cases state with
  | closed => exact Or.inr ⟨rfl, rfl⟩
  | opened => exact Or.inl rfl
  | halfOpen =>
    rw [succeed]
    dsimp only
    split
    · exact Or.inr ⟨rfl, rfl⟩
    · exact Or.inl rfl

/-- A call that comes now is let through. -/
def Ready (c : BreakerConfig) (now : Nat) (b : Breaker) : Prop :=
  b.state = .opened → ∃ since, b.openedAt = some since ∧ since + c.cooldown ≤ now

theorem ready_of_ne_opened (h : b.state ≠ .opened) : b.Ready c now :=
  fun hopened => absurd hopened h

theorem Ready.enter (h : b.Ready c now) :
    ∃ b', b.enter c now = some b' ∧ b'.state ≠ .opened := by
  unfold Breaker.enter
  by_cases hopened : b.state = .opened
  · obtain ⟨since, hsince, hle⟩ := h hopened
    have hcool : b.cooledDown c now = true := by
      rw [cooledDown, hsince]
      exact decide_eq_true (by omega)
    rw [if_neg (not_not.2 hopened), if_pos hcool]
    exact ⟨_, rfl, CircuitState.noConfusion⟩
  · rw [if_pos hopened]
    exact ⟨b, rfl, hopened⟩

/-- When a call fails that was let through just now, the next one is let through after another
cooldown. -/
theorem ready_fail (h : b.state ≠ .opened) : (b.fail c now).Ready c (now + c.cooldown) := by
  obtain ⟨state, failures, successes, openedAt⟩ := b
  cases state with
  | closed =>
    rw [fail]
    dsimp only
    split
    · exact fun _ => ⟨now, rfl, Nat.le_refl _⟩
    · exact ready_of_ne_opened CircuitState.noConfusion
  | opened => exact absurd rfl h
  | halfOpen => exact fun _ => ⟨now, rfl, Nat.le_refl _⟩

end Breaker

namespace Gate

variable {c : BreakerConfig} {es : List Event} {e : Event} {t t' : Traffic Breaker}

/-! ## Any calls -/

/-- Does a call fail? -/
def Event.fails : Event → Bool
  | .ends _ .failure _ => true
  | _ => false

theorem bounded_step (h : t.gate.Bounded c) (hstep : (Breaker.gate c).step t e = some t') :
    t'.gate.Bounded c := by
  cases e with
  | comes call now =>
    rcases step_comes hstep with ⟨b', henter, rfl⟩ | ⟨-, rfl⟩
    · exact h.enter henter
    · exact h
  | ends call outcome now =>
    obtain ⟨-, rfl⟩ := step_ends hstep
    exact h.record outcome

/-- An event adds to the count of failures just if it is one, unless it takes the count to zero. -/
theorem failures_step (hstep : (Breaker.gate c).step t e = some t') :
    t'.gate.failures = t.gate.failures + [e].countP Event.fails ∨
      t'.gate.state = .closed ∧ t'.gate.failures = 0 := by
  cases e with
  | comes call now =>
    rcases step_comes hstep with ⟨b', henter, rfl⟩ | ⟨-, rfl⟩
    · exact Or.inl (Breaker.failures_enter henter)
    · exact Or.inl rfl
  | ends call outcome now =>
    obtain ⟨-, rfl⟩ := step_ends hstep
    cases outcome with
    | success => exact t.gate.failures_succeed c
    | failure => exact Or.inl (t.gate.failures_fail c now)

theorem bounded_of_trafficAfter (h : trafficAfter c es = some t) : t.gate.Bounded c := by
  induction es using List.reverseRecOn generalizing t with
  | nil =>
    cases h
    exact .start c
  | append_singleton es e ih =>
    obtain ⟨u, hu, hstep⟩ := run_concat_eq_some_iff.1 h
    exact bounded_step (ih hu) hstep

theorem failures_of_trafficAfter (h : trafficAfter c es = some t) :
    ∃ before period u, es = before ++ period ∧ trafficAfter c before = some u ∧
      u.gate.state = .closed ∧ u.gate.failures = 0 ∧
      t.gate.failures = period.countP Event.fails := by
  induction es using List.reverseRecOn generalizing t with
  | nil =>
    cases h
    exact ⟨[], [], _, rfl, rfl, rfl, rfl, rfl⟩
  | append_singleton es e ih =>
    obtain ⟨u, hu, hstep⟩ := run_concat_eq_some_iff.1 h
    rcases failures_step hstep with hcount | ⟨hclosed, hzero⟩
    · obtain ⟨before, period, first, rfl, hfirst, hclosed, hzero, hfailures⟩ := ih hu
      refine ⟨before, period ++ [e], first, List.append_assoc .., hfirst, hclosed, hzero, ?_⟩
      rw [hcount, hfailures, List.countP_append]
    · exact ⟨es ++ [e], [], t, (List.append_nil _).symm, h, hclosed, hzero, hzero⟩

/-- **What the counters of a breaker hold**, however calls come and end.  The count of successful
probes never reaches the number that closes the circuit, and in a closed circuit the count of
failures never reaches the number that opens it.  In every state the count of failures is the number
of calls that have failed since it was zero in a closed circuit, so it grows with every call that
fails until a success finds the circuit closed or closes it. -/
theorem counters_and_their_bounds (h : trafficAfter c es = some t) :
    t.gate.successes < c.successesToClose ∧
    (t.gate.state = .closed → t.gate.failures < c.failuresToOpen) ∧
    ∃ before period u, es = before ++ period ∧ trafficAfter c before = some u ∧
      u.gate.state = .closed ∧ u.gate.failures = 0 ∧
      t.gate.failures = period.countP Event.fails := by
  have hbounded := bounded_of_trafficAfter h
  exact ⟨hbounded.successes, hbounded.failures, failures_of_trafficAfter h⟩

open Rehearsal in
theorem counters_and_their_bounds_after_failure :
    ∃ t, trafficAfter (brittle 2) (breaking ++ [probing, .ends 3 .failure 3]) = some t ∧
      t.gate.failures = 2 ∧ t.gate.successes < 2 ∧
      ∃ before period u, breaking ++ [probing, .ends 3 .failure 3] = before ++ period ∧
        trafficAfter (brittle 2) before = some u ∧ u.gate.state = .closed ∧
        u.gate.failures = 0 ∧ period.countP Event.fails = 2 := by
  have hrun : (trafficAfter (brittle 2) (breaking ++ [probing, .ends 3 .failure 3])).map
      (·.gate.failures) = some 2 := by decide
  obtain ⟨t, ht, htwo⟩ := Option.map_eq_some_iff.1 hrun
  obtain ⟨hsuccesses, -, before, period, u, hsplit, hu, hclosed, hzero, hfailures⟩ :=
    counters_and_their_bounds ht
  exact ⟨t, ht, htwo, hsuccesses, before, period, u, hsplit, hu, hclosed, hzero,
    hfailures.symm.trans htwo⟩

/-! ## Failures without end -/

/-- Calls that come one after the other, a cooldown apart, and fail at once. -/
def failingCalls (c : BreakerConfig) : Nat → List Event
  | 0 => []
  | n + 1 =>
    failingCalls c n ++ [.comes n (n * c.cooldown), .ends n .failure (n * c.cooldown)]

theorem time_le_of_mem_failingCalls {n : Nat} (he : e ∈ failingCalls c n) :
    e.time ≤ n * c.cooldown := by
  induction n with
  | zero => exact absurd he List.not_mem_nil
  | succ n ih =>
    have hlater : n * c.cooldown ≤ (n + 1) * c.cooldown := Nat.mul_le_mul_right _ (Nat.le_succ n)
    rcases List.mem_append.1 he with hold | hnew
    · exact Nat.le_trans (ih hold) hlater
    · rcases List.mem_pair.1 hnew with rfl | rfl
      · exact hlater
      · exact hlater

theorem timely_failingCalls (c : BreakerConfig) (n : Nat) : Timely (failingCalls c n) := by
  induction n with
  | zero => exact .nil
  | succ n ih =>
    rw [failingCalls, Timely, List.map_append, List.pairwise_append]
    refine ⟨ih, List.pairwise_pair.2 (Nat.le_refl _), fun time htime time' htime' => ?_⟩
    obtain ⟨e, he, rfl⟩ := List.mem_map.1 htime
    rcases List.mem_pair.1 htime' with rfl | rfl
    · exact time_le_of_mem_failingCalls he
    · exact time_le_of_mem_failingCalls he

/-- All of these calls are let through, and all of them count. -/
theorem trafficAfter_failingCalls (c : BreakerConfig) (n : Nat) :
    ∃ t, trafficAfter c (failingCalls c n) = some t ∧ t.underWay = [] ∧ t.gate.failures = n ∧
      t.gate.Ready c (n * c.cooldown) := by
  induction n with
  | zero => exact ⟨_, rfl, rfl, rfl, Breaker.ready_of_ne_opened CircuitState.noConfusion⟩
  | succ n ih =>
    obtain ⟨t, ht, hnone, hfailures, hready⟩ := ih
    obtain ⟨b', henter, hstate⟩ := hready.enter
    have hcomes : (Breaker.gate c).step t (.comes n (n * c.cooldown)) =
        some ⟨b', [n], (n, .through) :: t.answers⟩ := by
      rw [step, hnone, if_neg List.not_mem_nil]
      dsimp only [Breaker.gate]
      rw [henter]
    have hends : (Breaker.gate c).step ⟨b', [n], (n, .through) :: t.answers⟩
        (.ends n .failure (n * c.cooldown)) =
          some ⟨b'.fail c (n * c.cooldown), [], (n, .through) :: t.answers⟩ := by
      rw [step, if_pos (List.mem_singleton_self n), List.erase_cons_head]
      rfl
    refine ⟨⟨b'.fail c (n * c.cooldown), [], (n, .through) :: t.answers⟩, ?_, rfl, ?_, ?_⟩
    · rw [failingCalls, trafficAfter, run_append, ← trafficAfter, ht, Option.bind_some, run, hcomes,
        Option.bind_some, run, hends, Option.bind_some, run]
    · rw [Breaker.failures_fail, Breaker.failures_enter henter, hfailures]
    · rw [Nat.succ_mul]
      exact Breaker.ready_fail hstate

open Rehearsal in
/-- A breaker with thresholds that fit into thirty-two bits counts more failures than fit: the
circuit opens at the first failure, and each probe after that fails. -/
theorem failures_can_outgrow_thirty_two_bits :
    ¬ ∀ (c : BreakerConfig) (es : List Event) (t : Traffic Breaker),
      c.failureThreshold ≤ 4294967295 → c.successThreshold ≤ 4294967295 → Timely es →
      trafficAfter c es = some t →
        t.gate.failures ≤ 4294967295 ∧ t.gate.successes ≤ 4294967295 := by
  intro hclaim
  obtain ⟨t, ht, -, hfailures, -⟩ := trafficAfter_failingCalls (brittle 1) 4294967296
  have hfew := hclaim (brittle 1) _ t (by decide) (by decide) (timely_failingCalls _ _) ht
  omega

end Gate

/-! ## Counters that wrap around -/

namespace Breaker

variable {c : BreakerConfig} {now : Nat} {b : Breaker}

/-- The number at which a counter of thirty-two bits is back at zero. -/
def width : Nat := 4294967296

/-- The breaker whose counters hold the last thirty-two bits of the counts. -/
def wrap (b : Breaker) : Breaker :=
  { b with failures := b.failures % width, successes := b.successes % width }

/-- A call ended well, for counters that wrap around. -/
def succeedWrapping (c : BreakerConfig) (b : Breaker) : Breaker :=
  match b.state with
  | .halfOpen =>
    let successes := (b.successes + 1) % width
    if c.successThreshold ≤ successes then closed else { b with successes }
  | .closed => { b with failures := 0 }
  | .opened => b

/-- A call failed, for counters that wrap around. -/
def failWrapping (c : BreakerConfig) (now : Nat) (b : Breaker) : Breaker :=
  let b := { b with failures := (b.failures + 1) % width }
  match b.state with
  | .closed =>
    if c.failureThreshold ≤ b.failures then { b with state := .opened, openedAt := some now } else b
  | .halfOpen => { b with state := .opened, successes := 0, openedAt := some now }
  | .opened => b

/-- Records how a call ended, with counters that wrap around. -/
def recordWrapping (c : BreakerConfig) (now : Nat) (b : Breaker) : Outcome → Breaker
  | .success => b.succeedWrapping c
  | .failure => b.failWrapping c now

/-- A circuit breaker with counters that wrap around as a gate. -/
def wrappingGate (c : BreakerConfig) : Gate Breaker where
  enter now b := b.enter c now
  record now outcome b := b.recordWrapping c now outcome

theorem enter_wrap (c : BreakerConfig) (now : Nat) (b : Breaker) :
    b.wrap.enter c now = (b.enter c now).map wrap := by
  have hstate : b.wrap.state = b.state := rfl
  have hcool : b.wrap.cooledDown c now = b.cooledDown c now := rfl
  rw [enter, enter, hstate, hcool]
  split
  · rfl
  · split
    · rfl
    · rfl

namespace Bounded

/-- A success is counted below its threshold, so the count does not wrap around. -/
theorem succeedWrapping_wrap (h : b.Bounded c) (hsuccesses : c.successThreshold < width) :
    b.wrap.succeedWrapping c = (b.succeed c).wrap := by
  obtain ⟨state, failures, successes, openedAt⟩ := b
  cases state with
  | closed => rfl
  | opened => rfl
  | halfOpen =>
    have hbound : successes < max 1 c.successThreshold := h.successes
    have hcount : (successes % width + 1) % width = successes + 1 := by
      unfold width at hsuccesses ⊢
      omega
    simp only [succeedWrapping, Breaker.succeed, wrap, hcount]
    split
    · rfl
    · have hkept : (successes + 1) % width = successes + 1 := by
        unfold width at hsuccesses ⊢
        omega
      rw [hkept]

/-- A failure in a closed circuit is counted below its threshold, and elsewhere the count is not
compared with anything. -/
theorem failWrapping_wrap (h : b.Bounded c) (hfailures : c.failureThreshold < width) :
    b.wrap.failWrapping c now = (b.fail c now).wrap := by
  obtain ⟨state, failures, successes, openedAt⟩ := b
  have hcount : (failures % width + 1) % width = (failures + 1) % width := by
    unfold width
    omega
  cases state with
  | closed =>
    have hbound : failures < max 1 c.failureThreshold := h.failures rfl
    have hkept : (failures + 1) % width = failures + 1 := by
      unfold width at hfailures ⊢
      omega
    simp only [failWrapping, Breaker.fail, wrap, hcount, hkept]
    split
    · simp only [hkept]
    · simp only [hkept]
  | opened => simp only [failWrapping, Breaker.fail, wrap, hcount]
  | halfOpen =>
    simp only [failWrapping, Breaker.fail, wrap, hcount]
    rfl

theorem recordWrapping_wrap (h : b.Bounded c) (hfailures : c.failureThreshold < width)
    (hsuccesses : c.successThreshold < width) (outcome : Outcome) :
    b.wrap.recordWrapping c now outcome = (b.record c now outcome).wrap := by
  cases outcome with
  | success => exact h.succeedWrapping_wrap hsuccesses
  | failure => exact h.failWrapping_wrap hfailures

end Bounded

end Breaker

namespace Gate

variable {c : BreakerConfig} {t : Traffic Breaker}

/-- The traffic at a breaker whose counters hold the last thirty-two bits of the counts. -/
def Traffic.wrap (t : Traffic Breaker) : Traffic Breaker := { t with gate := t.gate.wrap }

theorem step_wrappingGate (h : t.gate.Bounded c) (hfailures : c.failureThreshold < Breaker.width)
    (hsuccesses : c.successThreshold < Breaker.width) (e : Event) :
    (Breaker.wrappingGate c).step t.wrap e = ((Breaker.gate c).step t e).map Traffic.wrap := by
  cases e with
  | comes call now =>
    have henter : (Breaker.wrappingGate c).enter now t.wrap.gate =
        ((Breaker.gate c).enter now t.gate).map Breaker.wrap := Breaker.enter_wrap c now t.gate
    by_cases hcall : call ∈ t.underWay
    · have hcall' : call ∈ t.wrap.underWay := hcall
      rw [step, if_pos hcall', step, if_pos hcall]
      rfl
    · have hcall' : call ∉ t.wrap.underWay := hcall
      rw [step, if_neg hcall', step, if_neg hcall, henter]
      cases (Breaker.gate c).enter now t.gate with
      | none => rfl
      | some b => rfl
  | ends call outcome now =>
    have hrecord : (Breaker.wrappingGate c).record now outcome t.wrap.gate =
        ((Breaker.gate c).record now outcome t.gate).wrap :=
      h.recordWrapping_wrap hfailures hsuccesses outcome
    by_cases hcall : call ∈ t.underWay
    · have hcall' : call ∈ t.wrap.underWay := hcall
      rw [step, if_pos hcall', step, if_pos hcall, hrecord]
      rfl
    · have hcall' : call ∉ t.wrap.underWay := hcall
      rw [step, if_neg hcall', step, if_neg hcall]
      rfl

/-- **Counters that wrap around make no difference**, if the thresholds fit into thirty-two bits:
the same calls are let through and turned away, the circuit stands in the same state, and what the
counters hold are the last thirty-two bits of the counts. -/
theorem run_wrappingGate (hfailures : c.failureThreshold < Breaker.width)
    (hsuccesses : c.successThreshold < Breaker.width) (es : List Event) :
    (Breaker.wrappingGate c).run (.start .closed) es = (trafficAfter c es).map Traffic.wrap := by
  induction es using List.reverseRecOn with
  | nil => rfl
  | append_singleton es e ih =>
    have hsplit : trafficAfter c (es ++ [e]) =
        (trafficAfter c es).bind fun t => (Breaker.gate c).run t [e] := run_append ..
    rw [run_append, ih, hsplit]
    cases ht : trafficAfter c es with
    | none => rfl
    | some t =>
      have hstep := step_wrappingGate (bounded_of_trafficAfter ht) hfailures hsuccesses e
      simp only [Option.map_some, Option.bind_some, run, Option.bind_fun_some, hstep]

end Gate

end OrderDesk
