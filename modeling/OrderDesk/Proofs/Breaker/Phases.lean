import Mathlib.Data.List.Count
import OrderDesk.Proofs.Breaker.Gate

/-!
# A circuit breaker and its history

A breaker keeps a state, two counters and a time, and the meaning of the counters changes with the
state.  What it does can be told without them, by what has been recorded since the circuit came to
where it stands (`Phase`):

* a closed circuit opens as soon as the latest outcomes, enough of them, are all failures;
* an open circuit turns calls away until the cooldown is over, whatever is recorded meanwhile, and
  the next call makes it half open;
* a half-open circuit opens at the first failure, and closes when there were enough successes.

`breaker_follows_its_history` — a breaker and its history give the same answers and stand in the
same state, however calls come and end.  `Corresponds` says what the fields of the breaker hold
meanwhile: failures are counted on in an open circuit, and the time of the last opening survives the
half-open state, but neither makes a difference there.
-/

namespace OrderDesk

namespace BreakerConfig

/-- The failures in a row that open the circuit: one at least. -/
def failuresToOpen (c : BreakerConfig) : Nat := max 1 c.failureThreshold

/-- The successes that close the circuit: one at least. -/
def successesToClose (c : BreakerConfig) : Nat := max 1 c.successThreshold

theorem failuresToOpen_pos (c : BreakerConfig) : 0 < c.failuresToOpen := Nat.le_max_left ..

theorem successesToClose_pos (c : BreakerConfig) : 0 < c.successesToClose := Nat.le_max_left ..

end BreakerConfig

/-- Where a circuit stands, with the outcomes recorded since it came there, the latest first. -/
inductive Phase where
  | closed (outcomes : List Outcome)
  | opened (since : Nat)
  | halfOpen (outcomes : List Outcome)
deriving DecidableEq

namespace Phase

/-- Where the circuit stands. -/
def state : Phase → CircuitState
  | .closed _ => .closed
  | .opened _ => .opened
  | .halfOpen _ => .halfOpen

/-- Lets a call through, or turns it away. -/
def enter (c : BreakerConfig) (now : Nat) : Phase → Option Phase
  | .closed outcomes => some (.closed outcomes)
  | .opened since => if now < since + c.cooldown then none else some (.halfOpen [])
  | .halfOpen outcomes => some (.halfOpen outcomes)

/-- Records how a call ended. -/
def record (c : BreakerConfig) (now : Nat) (outcome : Outcome) : Phase → Phase
  | .closed outcomes =>
    if List.replicate c.failuresToOpen .failure <+: outcome :: outcomes then .opened now
    else .closed (outcome :: outcomes)
  | .opened since => .opened since
  | .halfOpen outcomes =>
    if outcome = .failure then .opened now
    else if (outcome :: outcomes).count .success = c.successesToClose then .closed []
    else .halfOpen (outcome :: outcomes)

/-- The history of a circuit as a gate. -/
def gate (c : BreakerConfig) : Gate Phase where
  enter := enter c
  record := record c

end Phase

/-! ## Failures in a row -/

/-- The number of failures since the last success. -/
def failuresInRow (outcomes : List Outcome) : Nat :=
  (outcomes.takeWhile (· = .failure)).length

@[simp] theorem failuresInRow_nil : failuresInRow [] = 0 := rfl

@[simp] theorem failuresInRow_success (outcomes : List Outcome) :
    failuresInRow (.success :: outcomes) = 0 := rfl

@[simp] theorem failuresInRow_failure (outcomes : List Outcome) :
    failuresInRow (.failure :: outcomes) = failuresInRow outcomes + 1 := rfl

/-- The latest `n` outcomes are failures just if so many have failed in a row. -/
theorem replicate_prefix_iff {n : Nat} {outcomes : List Outcome} :
    List.replicate n .failure <+: outcomes ↔ n ≤ failuresInRow outcomes := by
  induction n generalizing outcomes with
  | zero => simp
  | succ n ih =>
    cases outcomes with
    | nil => simp [List.replicate_succ]
    | cons outcome outcomes =>
      rw [List.replicate_succ, List.cons_prefix_cons, ih]
      cases outcome with
      | success => simp
      | failure => simp

/-! ## What the fields of a breaker hold -/

/-- The breaker that a phase corresponds to, at a time. -/
inductive Corresponds (c : BreakerConfig) (clock : Nat) : Breaker → Phase → Prop
  | closed {outcomes : List Outcome} : failuresInRow outcomes < c.failuresToOpen →
      Corresponds c clock ⟨.closed, failuresInRow outcomes, 0, none⟩ (.closed outcomes)
  /-- How many failures were counted in all makes no difference. -/
  | opened {since failures : Nat} : since ≤ clock →
      Corresponds c clock ⟨.opened, failures, 0, some since⟩ (.opened since)
  | halfOpen {outcomes : List Outcome} {since failures : Nat} :
      outcomes.count .success < c.successesToClose →
      Corresponds c clock ⟨.halfOpen, failures, outcomes.count .success, some since⟩
        (.halfOpen outcomes)

namespace Corresponds

variable {c : BreakerConfig} {clock now : Nat} {b : Breaker} {p : Phase}

/-- A new breaker corresponds to a circuit in which nothing has been recorded. -/
theorem start (c : BreakerConfig) (clock : Nat) :
    Corresponds c clock Breaker.closed (.closed []) :=
  @closed _ _ [] c.failuresToOpen_pos

theorem state_eq (h : Corresponds c clock b p) : b.state = p.state := by
  cases h <;> rfl

/-- Time may pass. -/
theorem later (h : Corresponds c clock b p) (hle : clock ≤ now) : Corresponds c now b p := by
  cases h with
  | closed hfew => exact .closed hfew
  | opened hsince => exact .opened (Nat.le_trans hsince hle)
  | halfOpen hfew => exact .halfOpen hfew

/-- A call that is let through by one of the two is let through by the other. -/
theorem enter (h : Corresponds c now b p) :
    b.enter c now = none ∧ p.enter c now = none ∨
      ∃ b' p', b.enter c now = some b' ∧ p.enter c now = some p' ∧ Corresponds c now b' p' := by
  cases h with
  | closed hfew => exact Or.inr ⟨_, _, rfl, rfl, .closed hfew⟩
  | halfOpen hfew => exact Or.inr ⟨_, _, rfl, rfl, .halfOpen hfew⟩
  | @opened since failures hsince =>
    by_cases hearly : now < since + c.cooldown
    · left
      have hcool : ¬ c.cooldown ≤ now - since := by omega
      exact ⟨by simp [Breaker.enter, Breaker.cooledDown, hcool], if_pos hearly⟩
    · right
      have hcool : c.cooldown ≤ now - since := by omega
      refine ⟨⟨.halfOpen, failures, 0, some since⟩, .halfOpen [],
        by simp [Breaker.enter, Breaker.cooledDown, hcool], if_neg hearly, ?_⟩
      exact @halfOpen _ _ [] _ _ c.successesToClose_pos

theorem succeed (h : Corresponds c now b p) :
    Corresponds c now (b.succeed c) (p.record c now .success) := by
  cases h with
  | @closed outcomes hfew =>
    have hrow : ¬ List.replicate c.failuresToOpen .failure <+: .success :: outcomes := by
      rw [replicate_prefix_iff, failuresInRow_success]
      exact Nat.not_le.2 c.failuresToOpen_pos
    rw [Phase.record, if_neg hrow]
    exact @closed _ _ (.success :: outcomes) c.failuresToOpen_pos
  | opened hsince => exact .opened hsince
  | @halfOpen outcomes since failures hfew =>
    have hcount : (Outcome.success :: outcomes).count .success = outcomes.count .success + 1 :=
      List.count_cons_self
    unfold BreakerConfig.successesToClose at hfew
    rw [Phase.record, if_neg (by decide), hcount, BreakerConfig.successesToClose, Breaker.succeed]
    by_cases hclose : c.successThreshold ≤ outcomes.count .success + 1
    · rw [if_pos hclose, if_pos (by omega)]
      exact start c now
    · rw [if_neg hclose, if_neg (by omega), ← hcount]
      refine .halfOpen ?_
      rw [hcount, BreakerConfig.successesToClose]
      omega

theorem fail (h : Corresponds c now b p) :
    Corresponds c now (b.fail c now) (p.record c now .failure) := by
  cases h with
  | @closed outcomes hfew =>
    have hrow : List.replicate c.failuresToOpen .failure <+: .failure :: outcomes ↔
        c.failureThreshold ≤ failuresInRow outcomes + 1 := by
      rw [replicate_prefix_iff, failuresInRow_failure, BreakerConfig.failuresToOpen]
      omega
    rw [Phase.record, Breaker.fail]
    dsimp only
    by_cases hopen : c.failureThreshold ≤ failuresInRow outcomes + 1
    · rw [if_pos hopen, if_pos (hrow.2 hopen)]
      exact .opened (Nat.le_refl now)
    · rw [if_neg hopen, if_neg (hrow.not.2 hopen), ← failuresInRow_failure]
      refine .closed ?_
      rw [failuresInRow_failure, BreakerConfig.failuresToOpen]
      omega
  | opened hsince => exact .opened hsince
  | halfOpen hfew => exact .opened (Nat.le_refl now)

theorem record (h : Corresponds c now b p) (outcome : Outcome) :
    Corresponds c now (b.record c now outcome) (p.record c now outcome) := by
  cases outcome with
  | success => exact h.succeed
  | failure => exact h.fail

/-- No counter that decides anything reaches its threshold, and the time of the last opening is
known just if the circuit is not closed. -/
theorem fields (h : Corresponds c clock b p) :
    (b.openedAt.isSome ↔ b.state ≠ .closed) ∧ b.successes < c.successesToClose ∧
      (b.state = .closed → b.failures < c.failuresToOpen) := by
  cases h with
  | closed hfew => exact ⟨by simp, c.successesToClose_pos, fun _ => hfew⟩
  | opened _ => exact ⟨by simp, c.successesToClose_pos, fun h => by cases h⟩
  | halfOpen hfew => exact ⟨by simp, hfew, fun h => by cases h⟩

end Corresponds

/-! ## Whole runs -/

namespace Gate

variable {c : BreakerConfig} {clock : Nat} {e : Event} {es : List Event}

/-- What can be seen of a breaker and its traffic. -/
def Traffic.view {σ : Type} (state : σ → CircuitState) (t : Traffic σ) :
    CircuitState × List Nat × List (Nat × Answer) := (state t.gate, t.underWay, t.answers)

/-- The traffic of a breaker and that of a history go together. -/
structure Traffic.Follows (c : BreakerConfig) (clock : Nat) (t : Traffic Breaker)
    (u : Traffic Phase) : Prop where
  gate : Corresponds c clock t.gate u.gate
  underWay : t.underWay = u.underWay
  answers : t.answers = u.answers

/-- An event is possible for both or for neither, and the two go together afterwards. -/
theorem follows_step {t : Traffic Breaker} {u : Traffic Phase} (h : t.Follows c clock u)
    (hclock : clock ≤ e.time) :
    (Breaker.gate c).step t e = none ∧ (Phase.gate c).step u e = none ∨
      ∃ t' u', (Breaker.gate c).step t e = some t' ∧ (Phase.gate c).step u e = some u' ∧
        t'.Follows c e.time u' := by
  obtain ⟨b, underWay, answers⟩ := t
  obtain ⟨p, underWay', answers'⟩ := u
  obtain ⟨hgate, hunderWay, hanswers⟩ := h
  have hgate : Corresponds c e.time b p := hgate.later hclock
  cases hunderWay
  cases hanswers
  cases e with
  | comes call now =>
    by_cases hcall : call ∈ underWay
    · exact Or.inl ⟨if_pos hcall, if_pos hcall⟩
    · right
      rcases hgate.enter with ⟨hb, hp⟩ | ⟨b', p', hb, hp, hgate'⟩
      · have hb : (Breaker.gate c).enter now b = none := hb
        have hp : (Phase.gate c).enter now p = none := hp
        refine ⟨_, _, by simp only [step, hcall, hb]; rfl, by simp only [step, hcall, hp]; rfl, ?_⟩
        exact ⟨hgate, rfl, rfl⟩
      · have hb : (Breaker.gate c).enter now b = some b' := hb
        have hp : (Phase.gate c).enter now p = some p' := hp
        refine ⟨_, _, by simp only [step, hcall, hb]; rfl, by simp only [step, hcall, hp]; rfl, ?_⟩
        exact ⟨hgate', rfl, rfl⟩
  | ends call outcome now =>
    by_cases hcall : call ∈ underWay
    · exact Or.inr ⟨_, _, if_pos hcall, if_pos hcall, hgate.record outcome, rfl, rfl⟩
    · exact Or.inl ⟨if_neg hcall, if_neg hcall⟩

/-- Events are possible for both or for neither, and the two go together afterwards. -/
theorem follows_run {t : Traffic Breaker} {u : Traffic Phase} (h : t.Follows c clock u)
    (hclock : ∀ e ∈ es, clock ≤ e.time) (htimely : Timely es) :
    (Breaker.gate c).run t es = none ∧ (Phase.gate c).run u es = none ∨
      ∃ t' u' clock', (Breaker.gate c).run t es = some t' ∧ (Phase.gate c).run u es = some u' ∧
        t'.Follows c clock' u' := by
  induction es generalizing t u clock with
  | nil => exact Or.inr ⟨t, u, clock, rfl, rfl, h⟩
  | cons e es ih =>
    obtain ⟨hlater, htimely⟩ := List.pairwise_cons.1 htimely
    have hlater : ∀ e' ∈ es, e.time ≤ e'.time := fun e' he' => hlater _ (List.mem_map_of_mem he')
    rcases follows_step h (hclock e (List.mem_cons_self ..)) with ⟨ht, hu⟩ | ⟨t', u', ht, hu, h'⟩
    · left
      exact ⟨by rw [run, ht, Option.bind_none], by rw [run, hu, Option.bind_none]⟩
    · rw [run, ht, Option.bind_some, run, hu, Option.bind_some]
      exact ih h' hlater htimely

end Gate

/-! ## A rehearsal

Two failures open the circuit, a third call ends while it is open, one probe fails and another one
succeeds. -/

namespace Gate.Rehearsal

def config : BreakerConfig := ⟨2, 10, 0⟩

def cycle : List Event :=
  [.comes 1 0, .comes 2 0, .comes 3 0, .ends 1 .failure 1, .ends 2 .failure 2, .comes 4 5,
    .ends 3 .success 6, .comes 5 12, .ends 5 .failure 13, .comes 6 22, .comes 7 23,
    .ends 7 .success 24]

end Gate.Rehearsal

open Gate in
/-- **A breaker does what its history says.**  However calls come and end, as long as the clock does
not go back: the breaker lets through just the calls that its history lets through, and stands in
the same state.  The time of the last opening is known just if the circuit is not closed, so an open
circuit lets calls through sooner or later; and no counter that decides anything reaches its
threshold. -/
theorem breaker_follows_its_history (c : BreakerConfig) {es : List Event} (h : Timely es) :
    ((Breaker.gate c).run (.start Breaker.closed) es).map (·.view Breaker.state) =
        ((Phase.gate c).run (.start (.closed [])) es).map (·.view Phase.state) ∧
      ∀ t, (Breaker.gate c).run (.start Breaker.closed) es = some t →
        (t.gate.openedAt.isSome ↔ t.gate.state ≠ .closed) ∧
        (t.gate.state = .opened → ∃ due, ∀ now, due ≤ now →
          ∃ b, t.gate.enter c now = some b ∧ b.state = .halfOpen) ∧
        t.gate.successes < c.successesToClose ∧
        (t.gate.state = .closed → t.gate.failures < c.failuresToOpen) := by
  have hstart : (Traffic.start Breaker.closed).Follows c 0 (.start (.closed [])) :=
    ⟨.start c 0, rfl, rfl⟩
  rcases follows_run hstart (fun _ _ => Nat.zero_le _) h with
    ⟨ht, hu⟩ | ⟨t, u, clock, ht, hu, hgate, hunderWay, hanswers⟩
  · rw [ht, hu]
    exact ⟨rfl, fun t ht' => by cases ht'⟩
  · rw [ht, hu]
    constructor
    · simp only [Option.map_some, Traffic.view, hgate.state_eq, hunderWay, hanswers]
    · rintro t ⟨⟩
      obtain ⟨hopened, hsuccesses, hfailures⟩ := hgate.fields
      refine ⟨hopened, fun hstate => ?_, hsuccesses, hfailures⟩
      obtain ⟨since, hsince⟩ := Option.isSome_iff_exists.1 (hopened.2 (by rw [hstate]; decide))
      refine ⟨since + c.cooldown, fun now hdue => ?_⟩
      have hcool : c.cooldown ≤ now - since := by omega
      exact ⟨{ t.gate with state := .halfOpen, successes := 0 },
        by simp [Breaker.enter, Breaker.cooledDown, hstate, hsince, hcool], rfl⟩

open Gate Gate.Rehearsal in
theorem breaker_follows_its_history_through_a_cycle :
    Timely cycle ∧
      ((Phase.gate config).run (.start (.closed [])) cycle).map (·.view Phase.state) =
        some (.closed, [], [(7, .through), (6, .away), (5, .through), (4, .away), (3, .through),
          (2, .through), (1, .through)]) ∧
      ∃ t, (Breaker.gate config).run (.start Breaker.closed) cycle = some t ∧
        t.gate.state = .closed ∧ t.gate.openedAt = none := by
  have htimely : Timely cycle := by decide
  have hphases : ((Phase.gate config).run (.start (.closed [])) cycle).map (·.view Phase.state) =
      some (.closed, [], [(7, .through), (6, .away), (5, .through), (4, .away), (3, .through),
        (2, .through), (1, .through)]) := by decide
  obtain ⟨hsame, hfields⟩ := breaker_follows_its_history config htimely
  rw [hphases, Option.map_eq_some_iff] at hsame
  obtain ⟨t, ht, hview⟩ := hsame
  have hstate : t.gate.state = .closed := congrArg Prod.fst hview
  refine ⟨htimely, hphases, t, ht, hstate, ?_⟩
  have hopened := (hfields t ht).1
  rw [hstate] at hopened
  simpa using hopened

end OrderDesk
