import OrderDesk.Breaker

/-!
# Calls at a gate

A circuit breaker is a *gate*: it says which calls go through, and is told how those that went
through have ended.  Many calls may be under way at once, and they end in any order, long after the
gate has changed its mind perhaps.  `Gate.Traffic` is a gate together with the calls under way and
the answers given so far; `Gate.run` lets calls come and end.

A call that is turned away is not under way, so nothing of it is ever recorded.  A call need not end
at all: its caller may have given up on it.
-/

namespace OrderDesk

/-- Something that lets calls through or turns them away, and learns how they end. -/
structure Gate (σ : Type) where
  /-- The state after a call that comes at some time has been let through. -/
  enter : Nat → σ → Option σ
  /-- The state after a call has ended at some time. -/
  record : Nat → Outcome → σ → σ

namespace Gate

/-- A call comes, or a call that is under way ends. -/
inductive Event where
  | comes (call : Nat) (now : Nat)
  | ends (call : Nat) (outcome : Outcome) (now : Nat)
deriving DecidableEq

/-- When it happens. -/
def Event.time : Event → Nat
  | .comes _ now => now
  | .ends _ _ now => now

/-- What a call is told when it comes. -/
inductive Answer where
  | through
  | away
deriving DecidableEq

/-- A gate, the calls under way, and what was answered so far, the latest answer first. -/
structure Traffic (σ : Type) where
  gate : σ
  underWay : List Nat
  answers : List (Nat × Answer)

/-- A gate that no call has come to. -/
def Traffic.start {σ : Type} (s : σ) : Traffic σ := ⟨s, [], []⟩

variable {σ : Type}

/-- The traffic after an event, if the event is possible: a call comes that is not under way, or
ends while it is. -/
def step (g : Gate σ) (t : Traffic σ) : Event → Option (Traffic σ)
  | .comes call now =>
    if call ∈ t.underWay then none
    else
      match g.enter now t.gate with
      | some s => some ⟨s, call :: t.underWay, (call, .through) :: t.answers⟩
      | none => some { t with answers := (call, .away) :: t.answers }
  | .ends call outcome now =>
    if call ∈ t.underWay then
      some { t with gate := g.record now outcome t.gate, underWay := t.underWay.erase call }
    else none

/-- The traffic after events, if all of them are possible. -/
def run (g : Gate σ) (t : Traffic σ) : List Event → Option (Traffic σ)
  | [] => some t
  | e :: es => (g.step t e).bind fun t => g.run t es

theorem run_append (g : Gate σ) (t : Traffic σ) (es es' : List Event) :
    g.run t (es ++ es') = (g.run t es).bind fun t => g.run t es' := by
  induction es generalizing t with
  | nil => rfl
  | cons e es ih =>
    rw [List.cons_append, run, run, Option.bind_assoc]
    simp only [ih]

theorem run_concat_eq_some_iff {g : Gate σ} {t t' : Traffic σ} {es : List Event} {e : Event} :
    g.run t (es ++ [e]) = some t' ↔ ∃ u, g.run t es = some u ∧ g.step u e = some t' := by
  rw [run_append, Option.bind_eq_some_iff]
  simp only [run, Option.bind_fun_some]

/-- A call that comes is under way afterwards, or has been turned away. -/
theorem step_comes {g : Gate σ} {t t' : Traffic σ} {call now : Nat}
    (h : g.step t (.comes call now) = some t') :
    (∃ s, g.enter now t.gate = some s ∧
        t' = ⟨s, call :: t.underWay, (call, .through) :: t.answers⟩) ∨
      g.enter now t.gate = none ∧ t' = { t with answers := (call, .away) :: t.answers } := by
  rw [step] at h
  split at h
  · cases h
  · split at h
    · next s henter =>
      cases h
      exact Or.inl ⟨s, henter, rfl⟩
    · next henter =>
      cases h
      exact Or.inr ⟨henter, rfl⟩

theorem step_ends {g : Gate σ} {t t' : Traffic σ} {call now : Nat} {outcome : Outcome}
    (h : g.step t (.ends call outcome now) = some t') :
    call ∈ t.underWay ∧
      t' = { t with gate := g.record now outcome t.gate, underWay := t.underWay.erase call } := by
  rw [step] at h
  split at h
  · next hcall =>
    cases h
    exact ⟨hcall, rfl⟩
  · cases h

/-- The clock never goes back. -/
def Timely (es : List Event) : Prop := (es.map Event.time).Pairwise (· ≤ ·)

instance (es : List Event) : Decidable (Timely es) :=
  inferInstanceAs (Decidable ((es.map Event.time).Pairwise (· ≤ ·)))

end Gate

/-- A circuit breaker as a gate. -/
def Breaker.gate (c : BreakerConfig) : Gate Breaker where
  enter now b := b.enter c now
  record now outcome b := b.record c now outcome

end OrderDesk
