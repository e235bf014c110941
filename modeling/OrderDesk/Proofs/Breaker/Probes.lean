import Mathlib.Data.List.Induction
import Mathlib.Data.List.Perm.Basic
import OrderDesk.Proofs.Breaker.Phases

/-!
# Probes and stragglers

A call that comes while a circuit is half open, or makes it half open, is a *probe*: it is there to
find out whether the circuit can be closed.  A call that was let through before that may still be
under way, and end while the circuit is half open.  It is a *straggler*, and tells how things were
long ago.

A breaker does not tell the two apart, because an outcome counts against the state that it finds.
`Tally` tells them apart, by the events since the circuit became half open (`HalfOpenSince`).

* `Recovery.step` — what an event adds to the tally in a half-open circuit.
* `probes_and_stragglers_close` — when a circuit closes, the probes and the stragglers that ended
  well are together as many as it takes; so probes alone have closed it just if there were no
  stragglers.
* `stragglers_alone_can_close` — a circuit closes although no probe has ended.
-/

namespace OrderDesk

/-! ## Ways to become half open -/

namespace Breaker

variable {c : BreakerConfig} {now : Nat} {b b' : Breaker}

/-- A call that is let through leaves the breaker as it is, or makes an open one half open. -/
theorem enter_eq_some (h : b.enter c now = some b') :
    b' = b ∨ b.state = .opened ∧ b' = { b with state := .halfOpen, successes := 0 } := by
  unfold enter at h
  by_cases hopened : b.state = .opened
  · rw [if_neg (not_not.2 hopened)] at h
    split at h
    · cases h
      exact Or.inr ⟨hopened, rfl⟩
    · cases h
  · rw [if_pos hopened] at h
    cases h
    exact Or.inl rfl

/-- No outcome makes a circuit half open. -/
theorem record_ne_halfOpen (h : b.state ≠ .halfOpen) (outcome : Outcome) :
    (b.record c now outcome).state ≠ .halfOpen := by
  obtain ⟨state, failures, successes, openedAt⟩ := b
  cases outcome with
  | success =>
    cases state with
    | closed => exact h
    | opened => exact h
    | halfOpen => exact absurd rfl h
  | failure =>
    cases state with
    | closed =>
      rw [record, fail]
      dsimp only
      split
      · exact CircuitState.noConfusion
      · exact h
    | opened => exact h
    | halfOpen => exact absurd rfl h

end Breaker

namespace Gate

/-! ## The calls of a period -/

/-- What became of calls during events that let every call through. -/
structure Tally where
  /-- The calls that have come meanwhile and are under way. -/
  probing : List Nat
  /-- How many of the calls that have come meanwhile have ended well. -/
  probes : Nat
  /-- How many of the calls that had come before have ended well. -/
  stragglers : Nat
deriving DecidableEq

namespace Tally

/-- Nothing has happened. -/
def empty : Tally := ⟨[], 0, 0⟩

/-- Notes one event. -/
def note (s : Tally) : Event → Tally
  | .comes call _ => { s with probing := call :: s.probing }
  | .ends call outcome _ =>
    let well := [outcome].count .success
    if call ∈ s.probing then
      { s with probing := s.probing.erase call, probes := s.probes + well }
    else { s with stragglers := s.stragglers + well }

/-- What became of calls during events. -/
def ofEvents (es : List Event) : Tally := es.foldl note empty

theorem ofEvents_concat (es : List Event) (e : Event) :
    ofEvents (es ++ [e]) = (ofEvents es).note e := by
  rw [ofEvents, List.foldl_append]
  rfl

/-- The tally accounts for the calls under way, of which `held` had come before: the others have
come meanwhile, and stragglers are no longer under way. -/
def Accounts (s : Tally) (held : Nat) (underWay : List Nat) : Prop :=
  ∃ late : List Nat, underWay.Perm (s.probing ++ late) ∧ late.length + s.stragglers ≤ held

variable {s : Tally} {held : Nat} {underWay : List Nat}

theorem accounts_empty (underWay : List Nat) : empty.Accounts underWay.length underWay :=
  ⟨underWay, .refl _, Nat.le_refl _⟩

theorem Accounts.stragglers_le (h : s.Accounts held underWay) : s.stragglers ≤ held := by
  obtain ⟨late, -, hle⟩ := h
  omega

theorem Accounts.comes (h : s.Accounts held underWay) (call now : Nat) :
    (s.note (.comes call now)).Accounts held (call :: underWay) := by
  obtain ⟨late, hperm, hle⟩ := h
  exact ⟨late, hperm.cons call, hle⟩

/-- A call that ends is a probe, or it had come before and is a straggler if it has ended well. -/
theorem Accounts.ends (h : s.Accounts held underWay) {call : Nat} (hcall : call ∈ underWay)
    (outcome : Outcome) (now : Nat) :
    (s.note (.ends call outcome now)).Accounts held (underWay.erase call) := by
  obtain ⟨late, hperm, hle⟩ := h
  have herase := hperm.erase call
  have hwell : [outcome].count .success ≤ 1 := List.count_le_length
  unfold note
  dsimp only
  by_cases hprobing : call ∈ s.probing
  · rw [if_pos hprobing]
    rw [List.erase_append_left _ hprobing] at herase
    exact ⟨late, herase, hle⟩
  · rw [if_neg hprobing]
    have hlate : call ∈ late := (List.mem_append.1 (hperm.mem_iff.1 hcall)).resolve_left hprobing
    rw [List.erase_append_right _ hprobing] at herase
    refine ⟨late.erase call, herase, ?_⟩
    have hpos : 0 < late.length := List.length_pos_of_mem hlate
    have hlength : (late.erase call).length = late.length - 1 := List.length_erase_of_mem hlate
    dsimp only
    omega

/-- A call that ends well is one more, whatever it is. -/
theorem note_ends_total (s : Tally) (call : Nat) (outcome : Outcome) (now : Nat) :
    (s.note (.ends call outcome now)).probes + (s.note (.ends call outcome now)).stragglers =
      s.probes + s.stragglers + [outcome].count .success := by
  unfold note
  dsimp only
  split
  · dsimp only
    omega
  · dsimp only
    omega

end Tally

/-! ## Half-open circuits -/

variable {c : BreakerConfig} {before period es : List Event} {e : Event} {t t' : Traffic Breaker}
  {held : Nat}

/-- The traffic of a new breaker after events, if they are possible. -/
def trafficAfter (c : BreakerConfig) (es : List Event) : Option (Traffic Breaker) :=
  (Breaker.gate c).run (.start Breaker.closed) es

/-- After the events `before` the circuit is open, with `held` calls under way; the first event of
`period` makes it half open, and it stays half open to the end of `period`. -/
structure HalfOpenSince (c : BreakerConfig) (before period : List Event) (held : Nat) : Prop where
  opened : ∃ t, trafficAfter c before = some t ∧ t.gate.state = .opened ∧ t.underWay.length = held
  entered : period ≠ []
  halfOpen : ∀ front, front <+: period → front ≠ [] →
    ∃ t, trafficAfter c (before ++ front) = some t ∧ t.gate.state = .halfOpen

/-- The circuit has become half open just now. -/
theorem HalfOpenSince.singleton (hrun : trafficAfter c before = some t)
    (hopened : t.gate.state = .opened) (hrun' : trafficAfter c (before ++ [e]) = some t')
    (hstate : t'.gate.state = .halfOpen) : HalfOpenSince c before [e] t.underWay.length where
  opened := ⟨t, hrun, hopened, rfl⟩
  entered := List.cons_ne_nil _ _
  halfOpen := by
    intro front hfront hne
    rcases List.prefix_cons_iff.1 hfront with rfl | ⟨rest, rfl, hrest⟩
    · exact absurd rfl hne
    · cases List.prefix_nil.1 hrest
      exact ⟨t', hrun', hstate⟩

/-- The circuit is still half open after one event more. -/
theorem HalfOpenSince.concat (h : HalfOpenSince c before period held)
    (hrun : trafficAfter c (before ++ (period ++ [e])) = some t)
    (hstate : t.gate.state = .halfOpen) :
    HalfOpenSince c before (period ++ [e]) held where
  opened := h.opened
  entered := by simp
  halfOpen := by
    intro front hfront hne
    rcases List.prefix_concat_iff.1 hfront with rfl | hearlier
    · exact ⟨t, hrun, hstate⟩
    · exact h.halfOpen front hearlier hne

/-- A half-open circuit that has counted what the tally says. -/
structure Recovery (c : BreakerConfig) (before period : List Event) (held : Nat)
    (t : Traffic Breaker) : Prop where
  since : HalfOpenSince c before period held
  accounts : (Tally.ofEvents period).Accounts held t.underWay
  successes : t.gate.successes =
    (Tally.ofEvents period).probes + (Tally.ofEvents period).stragglers
  few : t.gate.successes < c.successesToClose

/-- A circuit becomes half open when a call comes to an open one. -/
theorem Recovery.start (hrun : trafficAfter c before = some t)
    (hstep : (Breaker.gate c).step t e = some t') (hfrom : t.gate.state ≠ .halfOpen)
    (hto : t'.gate.state = .halfOpen) : Recovery c before [e] t.underWay.length t' := by
  have hrun' : trafficAfter c (before ++ [e]) = some t' :=
    run_concat_eq_some_iff.2 ⟨t, hrun, hstep⟩
  obtain ⟨b, underWay, answers⟩ := t
  cases e with
  | comes call now =>
    rcases step_comes hstep with ⟨b', henter, rfl⟩ | ⟨-, rfl⟩
    · rcases Breaker.enter_eq_some henter with rfl | ⟨hopened, rfl⟩
      · exact absurd hto hfrom
      · exact ⟨.singleton hrun hopened hrun' rfl, (Tally.accounts_empty underWay).comes call now,
          rfl, c.successesToClose_pos⟩
    · exact absurd hto hfrom
  | ends call outcome now =>
    obtain ⟨-, rfl⟩ := step_ends hstep
    exact absurd hto (Breaker.record_ne_halfOpen hfrom outcome)

/-- What an event does in a half-open circuit: the circuit stays half open with the event on the
tally, or opens again, or as many calls have ended well as it takes and the circuit closes. -/
theorem Recovery.step (h : Recovery c before period held t)
    (hrun : trafficAfter c (before ++ period) = some t) (hhalf : t.gate.state = .halfOpen)
    (hstep : (Breaker.gate c).step t e = some t') :
    (t'.gate.state = .halfOpen ∧ Recovery c before (period ++ [e]) held t') ∨
      t'.gate.state = .opened ∨
      (t'.gate.state = .closed ∧ (Tally.ofEvents (period ++ [e])).Accounts held t'.underWay ∧
        (Tally.ofEvents (period ++ [e])).probes + (Tally.ofEvents (period ++ [e])).stragglers =
          c.successesToClose) := by
  have hrun' : trafficAfter c (before ++ (period ++ [e])) = some t' := by
    rw [← List.append_assoc]
    exact run_concat_eq_some_iff.2 ⟨t, hrun, hstep⟩
  rw [Tally.ofEvents_concat]
  obtain ⟨⟨state, failures, successes, openedAt⟩, underWay, answers⟩ := t
  cases hhalf
  cases e with
  | comes call now =>
    rcases step_comes hstep with ⟨b', henter, rfl⟩ | ⟨hnone, -⟩
    · cases henter
      refine Or.inl ⟨rfl, h.since.concat hrun' rfl, ?_, ?_, h.few⟩
      · rw [Tally.ofEvents_concat]
        exact h.accounts.comes call now
      · rw [Tally.ofEvents_concat]
        exact h.successes
    · cases hnone
  | ends call outcome now =>
    obtain ⟨hcall, rfl⟩ := step_ends hstep
    have haccounts := h.accounts.ends hcall outcome now
    have htotal := Tally.note_ends_total (Tally.ofEvents period) call outcome now
    have hsuccesses := h.successes
    have hfew := h.few
    cases outcome with
    | failure => exact Or.inr (Or.inl rfl)
    | success =>
      have hwell : [Outcome.success].count .success = 1 := rfl
      rw [hwell] at htotal
      dsimp only at hsuccesses hfew
      simp only [Breaker.gate, Breaker.record, Breaker.succeed] at hrun' ⊢
      unfold BreakerConfig.successesToClose at hfew ⊢
      by_cases hclose : c.successThreshold ≤ successes + 1
      · rw [if_pos hclose]
        exact Or.inr (Or.inr ⟨rfl, haccounts, by omega⟩)
      · rw [if_neg hclose] at hrun' ⊢
        refine Or.inl ⟨rfl, h.since.concat hrun' rfl, ?_, ?_, ?_⟩
        · rw [Tally.ofEvents_concat]
          exact haccounts
        · rw [Tally.ofEvents_concat, htotal, ← hsuccesses]
        · unfold BreakerConfig.successesToClose
          dsimp only
          omega

/-- Whenever a circuit is half open, it became so at some moment, and has counted ever since. -/
theorem exists_recovery (h : trafficAfter c es = some t) (hhalf : t.gate.state = .halfOpen) :
    ∃ before period held, es = before ++ period ∧ Recovery c before period held t := by
  induction es using List.reverseRecOn generalizing t with
  | nil =>
    cases h
    cases hhalf
  | append_singleton es e ih =>
    obtain ⟨u, hu, hstep⟩ := run_concat_eq_some_iff.1 h
    by_cases hu' : u.gate.state = .halfOpen
    · obtain ⟨before, period, held, rfl, hrecovery⟩ := ih hu hu'
      rcases hrecovery.step hu hu' hstep with ⟨-, hnext⟩ | hopened | ⟨hclosed, -⟩
      · exact ⟨before, period ++ [e], held, List.append_assoc .., hnext⟩
      · cases hopened.symm.trans hhalf
      · cases hclosed.symm.trans hhalf
    · exact ⟨es, [e], _, rfl, .start hu hstep hu' hhalf⟩

/-! ## Circuits that close

A call is let through, and another one fails, so that the circuit opens; then a probe comes, and
the first call ends well after all. -/

namespace Rehearsal

/-- Two calls come, and the second one fails. -/
def breaking : List Event := [.comes 1 0, .comes 2 0, .ends 2 .failure 1]

/-- A probe comes. -/
def probing : Event := .comes 3 2

/-- The first call ends well. -/
def straggling : Event := .ends 1 .success 3

/-- One failure opens the circuit at once, and one success or several close it. -/
def brittle (successes : Nat) : BreakerConfig := ⟨1, 0, successes⟩

end Rehearsal

/-- **Probes and stragglers close a circuit together.**  Whenever an event closes a half-open
circuit, the circuit has become half open at some moment, and of the calls that have ended since,
just as many have ended well as it takes: some of them probes, which have come at that moment or
later, and the others stragglers, which had come before and were still under way.  So there were
enough probes just if there were no stragglers, and there are none where nothing was under way. -/
theorem probes_and_stragglers_close (h : trafficAfter c es = some t)
    (hfrom : t.gate.state = .halfOpen) (hstep : (Breaker.gate c).step t e = some t')
    (hto : t'.gate.state = .closed) :
    ∃ before period held, es = before ++ period ∧ HalfOpenSince c before period held ∧
      (Tally.ofEvents (period ++ [e])).probes + (Tally.ofEvents (period ++ [e])).stragglers =
        c.successesToClose ∧
      (Tally.ofEvents (period ++ [e])).stragglers ≤ held ∧
      (c.successesToClose ≤ (Tally.ofEvents (period ++ [e])).probes ↔
        (Tally.ofEvents (period ++ [e])).stragglers = 0) := by
  obtain ⟨before, period, held, rfl, hrecovery⟩ := exists_recovery h hfrom
  rcases hrecovery.step h hfrom hstep with ⟨hhalf, -⟩ | hopened | ⟨-, haccounts, htotal⟩
  · cases hhalf.symm.trans hto
  · cases hopened.symm.trans hto
  · refine ⟨before, period, held, rfl, hrecovery.since, htotal, haccounts.stragglers_le, ?_⟩
    omega

open Rehearsal in
theorem probes_and_stragglers_close_after_failure :
    ∃ t t', trafficAfter (brittle 2) (breaking ++ [probing, .ends 3 .success 2]) = some t ∧
      t.gate.state = .halfOpen ∧ (Breaker.gate (brittle 2)).step t straggling = some t' ∧
      t'.gate.state = .closed ∧
      ∃ before period held, breaking ++ [probing, .ends 3 .success 2] = before ++ period ∧
        HalfOpenSince (brittle 2) before period held ∧
        (Tally.ofEvents (period ++ [straggling])).probes +
          (Tally.ofEvents (period ++ [straggling])).stragglers = 2 := by
  have hrun : ((trafficAfter (brittle 2) (breaking ++ [probing, .ends 3 .success 2])).map
      fun t => (t.gate.state, ((Breaker.gate (brittle 2)).step t straggling).map
        (·.gate.state))) = some (.halfOpen, some .closed) := by decide
  obtain ⟨t, ht, hstates⟩ := Option.map_eq_some_iff.1 hrun
  obtain ⟨hfrom, hstep⟩ := Prod.mk.inj hstates
  obtain ⟨t', ht', hto⟩ := Option.map_eq_some_iff.1 hstep
  obtain ⟨before, period, held, hsplit, hsince, htotal, -⟩ :=
    probes_and_stragglers_close ht hfrom ht' hto
  exact ⟨t, t', ht, hfrom, ht', hto, before, period, held, hsplit, hsince, htotal⟩

open Rehearsal in
/-- One success is to close the circuit, and the straggler is one, although the only probe is still
under way. -/
theorem stragglers_alone_can_close :
    ¬ ∀ (c : BreakerConfig) (before period : List Event) (held : Nat) (e : Event)
      (t t' : Traffic Breaker), 1 ≤ c.successThreshold → HalfOpenSince c before period held →
      trafficAfter c (before ++ period) = some t → t.gate.state = .halfOpen →
      (Breaker.gate c).step t e = some t' → t'.gate.state = .closed →
      c.successThreshold ≤ (Tally.ofEvents (period ++ [e])).probes := by
  intro hclaim
  have hrun : (trafficAfter (brittle 1) breaking).map (·.gate.state) = some .opened := by decide
  obtain ⟨t₀, ht₀, hopened⟩ := Option.map_eq_some_iff.1 hrun
  have hrun' : ((trafficAfter (brittle 1) (breaking ++ [probing])).map fun t => (t.gate.state,
      ((Breaker.gate (brittle 1)).step t straggling).map (·.gate.state))) =
        some (.halfOpen, some .closed) := by decide
  obtain ⟨t, ht, hstates⟩ := Option.map_eq_some_iff.1 hrun'
  obtain ⟨hhalf, hstep⟩ := Prod.mk.inj hstates
  obtain ⟨t', ht', hclosed⟩ := Option.map_eq_some_iff.1 hstep
  have hsince : HalfOpenSince (brittle 1) breaking [probing] t₀.underWay.length :=
    .singleton ht₀ hopened ht hhalf
  have henough := hclaim _ _ _ _ _ _ _ (Nat.le_refl 1) hsince ht hhalf ht' hclosed
  exact absurd henough (by decide)

end Gate

end OrderDesk
