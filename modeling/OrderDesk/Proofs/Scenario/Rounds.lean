import OrderDesk.Scenario.Play
import Mathlib.Data.List.Basic
import Mathlib.Data.List.Count

/-!
# Rounds of questions

A stage asks all its questions at once, and each of them takes its own time.  Between two moments at
which one of them is due nothing happens, so what has become of a question is a function of the time
(`ScriptedCatalog.lookup`): it is open until the catalog answers it or it is given up.

* `poll_lookup`, `pollAll_lookup` — taking turns brings all questions up to the present moment.
* `pollAll_unasked` — each question is asked once.
* `exists_timer` — while questions are open, the clock moves to a moment at which fewer are.
* `finish_askAbout` — so the round ends, and the stage goes on with the answers in the order of its
  questions, in whatever order they came.

All this is about questions inside which nothing is played.
-/

namespace OrderDesk.Scenario

variable {ρ : Type}

namespace ScriptedCatalog

/-- The milliseconds that a question about a product takes. -/
def delayOf (c : ScriptedCatalog ρ) (id : ProductId) : Nat := (c.delays.get? id).getD 0

/-- The milliseconds until a question is answered or given up. -/
def patience (c : ScriptedCatalog ρ) (timeout : Nat) (id : ProductId) : Nat :=
  min (c.delayOf id) timeout

/-- What has become at `now` of a question asked at `start`. -/
def lookup (c : ScriptedCatalog ρ) (timeout start now : Nat) (id : ProductId) : Lookup ρ :=
  if start + c.patience timeout id ≤ now then .answered (c.answerWithin timeout id)
  else .delayed id (start + timeout) (start + c.delayOf id)

/-- How many of some questions asked at `start` are open at `now`. -/
def pending (c : ScriptedCatalog ρ) (timeout start now : Nat) (ids : List ProductId) : Nat :=
  ids.countP fun id => now < start + c.patience timeout id

/-- Nothing is to be played inside questions about some products. -/
def Silent (c : ScriptedCatalog ρ) (ids : List ProductId) : Prop :=
  ∀ id ∈ ids, (c.hooks.get? id).getD [] = []

end ScriptedCatalog

/-- Some things have happened. -/
def World.wait (w : World ρ) (n : Nat) : World ρ := { w with ticks := w.ticks + n }

theorem World.wait_zero (w : World ρ) : w.wait 0 = w := rfl

theorem World.wait_wait (w : World ρ) (m n : Nat) : (w.wait m).wait n = w.wait (m + n) := by
  rw [wait, wait, wait, Nat.add_assoc]

/-- Time has passed and questions about some products have been asked, and nothing else has
happened. -/
structure World.Asked (auth : Option String) (ids : List ProductId) (w w' : World ρ) : Prop where
  service : w'.service = w.service
  products : w'.catalog.products = w.catalog.products
  down : w'.catalog.down = w.catalog.down
  delays : w'.catalog.delays = w.catalog.delays
  silent : ∀ {others}, w.catalog.Silent others → w'.catalog.Silent others
  questions : w'.questions = w.questions ++ ids.map (⟨·, auth⟩)

/-- Lets each of some questions do all it can. -/
def pollAll (s : Settings ρ) (auth : Option String) (fuel : Nat) :
    World ρ → List (Lookup ρ) → World ρ × List (Lookup ρ)
  | w, [] => (w, [])
  | w, l :: rest =>
    let first := l.poll s auth fuel w
    let others := pollAll s auth fuel first.1 rest
    (others.1, first.2 :: others.2)

variable {s : Settings ρ} {w w' w'' : World ρ} {c : ScriptedCatalog ρ} {id : ProductId}
  {ids ids' : List ProductId} {auth : Option String} {timeout start now fuel : Nat} {stage : Stage}

theorem ScriptedCatalog.pending_cons (c : ScriptedCatalog ρ) (id : ProductId)
    (ids : List ProductId) :
    c.pending timeout start now (id :: ids) =
      c.pending timeout start now [id] + c.pending timeout start now ids := by
  rw [pending, pending, pending, ← List.countP_append, List.singleton_append]

theorem ScriptedCatalog.pending_lt {later : Nat} (hle : now ≤ later) (hid : id ∈ ids)
    (hopen : now < start + c.patience timeout id) (hdue : start + c.patience timeout id ≤ later) :
    c.pending timeout start later ids < c.pending timeout start now ids := by
  have hlater : c.pending timeout start later ids =
      (ids.filter fun id => now < start + c.patience timeout id).countP
        fun id => later < start + c.patience timeout id := by
    rw [pending, List.countP_filter]
    refine List.countP_congr fun id _ => ?_
    simp only [decide_eq_true_eq, Bool.and_eq_true]
    omega
  rw [hlater, pending, List.countP_eq_length_filter, List.countP_eq_length_filter,
    ← List.countP_eq_length_filter, List.countP_lt_length_iff]
  exact ⟨id, List.mem_filter.2 ⟨hid, by simpa using hopen⟩, by simpa using hdue⟩

namespace World.Asked

theorem trans (h : w.Asked auth ids w') (h' : w'.Asked auth ids' w'') :
    w.Asked auth (ids ++ ids') w'' where
  service := h'.service.trans h.service
  products := h'.products.trans h.products
  down := h'.down.trans h.down
  delays := h'.delays.trans h.delays
  silent hs := h'.silent (h.silent hs)
  questions := by rw [h'.questions, h.questions, List.map_append, List.append_assoc]

theorem refl (w : World ρ) : w.Asked auth [] w :=
  ⟨rfl, rfl, rfl, rfl, id, (List.append_nil _).symm⟩

theorem wait (h : w.Asked auth ids w') (n : Nat) : w.Asked auth ids (w'.wait n) :=
  ⟨h.service, h.products, h.down, h.delays, h.silent, h.questions⟩

theorem clock (h : w.Asked auth ids w') (t : Nat) : w.Asked auth ids { w' with clock := t } :=
  ⟨h.service, h.products, h.down, h.delays, h.silent, h.questions⟩

theorem delayOf (h : w.Asked auth ids w') : w'.catalog.delayOf id = w.catalog.delayOf id := by
  rw [ScriptedCatalog.delayOf, ScriptedCatalog.delayOf, h.delays]

theorem answer (h : w.Asked auth ids w') : w'.catalog.answer id = w.catalog.answer id := by
  rw [ScriptedCatalog.answer, ScriptedCatalog.answer, h.down, h.products]

theorem answerWithin (h : w.Asked auth ids w') :
    w'.catalog.answerWithin timeout = w.catalog.answerWithin timeout := by
  funext id
  rw [ScriptedCatalog.answerWithin, ScriptedCatalog.answerWithin, h.answer, h.delays]

theorem patience (h : w.Asked auth ids w') :
    w'.catalog.patience timeout id = w.catalog.patience timeout id := by
  rw [ScriptedCatalog.patience, ScriptedCatalog.patience, h.delayOf]

theorem lookup (h : w.Asked auth ids w') :
    w'.catalog.lookup timeout start now = w.catalog.lookup timeout start now := by
  funext id
  rw [ScriptedCatalog.lookup, ScriptedCatalog.lookup, h.patience, h.answerWithin, h.delayOf]

theorem pending (h : w.Asked auth ids w') :
    w'.catalog.pending timeout start now ids' = w.catalog.pending timeout start now ids' := by
  unfold ScriptedCatalog.pending
  simp only [h.patience]

end World.Asked

/-! ## One question -/

theorem poll_answered (a : Answer) :
    (Lookup.answered a).poll s auth fuel w = (w, .answered a) := by
  cases fuel <;> rfl

/-- A question that is not overdue is answered at the present moment, if it is due. -/
theorem poll_delayed (h : w.clock ≤ start + w.catalog.patience s.timeout id) :
    (Lookup.delayed id (start + s.timeout) (start + w.catalog.delayOf id)).poll s auth
        (fuel + 1) w =
      (w.wait (if start + w.catalog.patience s.timeout id ≤ w.clock then 1 else 0),
        w.catalog.lookup s.timeout start w.clock id) := by
  rw [Lookup.poll]
  unfold ScriptedCatalog.lookup ScriptedCatalog.patience ScriptedCatalog.answerWithin
  unfold ScriptedCatalog.patience at h
  rw [← ScriptedCatalog.delayOf]
  by_cases hwake : start + w.catalog.delayOf id ≤ w.clock
  · have hintime : ¬ s.timeout < w.catalog.delayOf id := by omega
    rw [if_pos hwake, if_pos (by omega), if_pos (by omega), if_neg hintime]
    rfl
  · by_cases hdead : start + s.timeout ≤ w.clock
    · rw [if_neg hwake, if_pos hdead, if_pos (by omega), if_pos (by omega), if_pos (by omega)]
      rfl
    · rw [if_neg hwake, if_neg hdead, if_neg (by omega), if_neg (by omega)]
      rfl

/-- The same, of a question that may have been answered before. -/
theorem poll_lookup (auth : Option String) (fuel : Nat) (hnow : now ≤ w.clock)
    (h : now < start + w.catalog.patience s.timeout id →
      w.clock ≤ start + w.catalog.patience s.timeout id) :
    ∃ n, (w.catalog.lookup s.timeout start now id).poll s auth (fuel + 1) w =
        (w.wait n, w.catalog.lookup s.timeout start w.clock id) ∧
      w.catalog.pending s.timeout start now [id] =
        n + w.catalog.pending s.timeout start w.clock [id] := by
  simp only [ScriptedCatalog.pending, List.countP_singleton, decide_eq_true_eq]
  by_cases hanswered : start + w.catalog.patience s.timeout id ≤ now
  · refine ⟨0, ?_, ?_⟩
    · rw [ScriptedCatalog.lookup, ScriptedCatalog.lookup, if_pos hanswered, if_pos (by omega),
        poll_answered]
      rfl
    · rw [if_neg (by omega), if_neg (by omega)]
  · have hopen := h (by omega)
    refine ⟨if start + w.catalog.patience s.timeout id ≤ w.clock then 1 else 0, ?_, ?_⟩
    · rw [ScriptedCatalog.lookup, if_neg hanswered]
      exact poll_delayed hopen
    · rw [if_pos (by omega)]
      split
      · rw [if_neg (by omega)]
      · rw [if_pos (by omega)]

/-- A question is asked, and answered at once if it takes no time. -/
theorem poll_unasked (auth : Option String) (fuel : Nat) (hsilent : w.catalog.Silent [id]) :
    ∃ w', w.Asked auth [id] w' ∧ w'.clock = w.clock ∧ w.ticks + 1 ≤ w'.ticks ∧
      (Lookup.unasked id).poll s auth (fuel + 2) w =
        (w', w.catalog.lookup s.timeout w.clock w.clock id) := by
  have hscript : (w.catalog.hooks.get? id).getD [] = [] := hsilent id (List.mem_singleton_self _)
  have hpoll : (Lookup.unasked id).poll s auth (fuel + 2) w =
      (delay (w.tick.ask ⟨id, auth⟩).1 id (w.clock + s.timeout)).poll s auth (fuel + 1)
        (w.tick.ask ⟨id, auth⟩).1 := by
    rw [Lookup.poll]
    simp only [World.ask, World.tick, hscript]
  have hasked : w.Asked auth [id] (w.tick.ask ⟨id, auth⟩).1 := by
    refine ⟨rfl, rfl, rfl, rfl, fun hs other hother => ?_, rfl⟩
    show ((w.catalog.hooks.erase id).get? other).getD [] = []
    rw [Table.get?_erase]
    split
    · rfl
    · exact hs other hother
  obtain ⟨n, hdue⟩ : ∃ n, (delay (w.tick.ask ⟨id, auth⟩).1 id (w.clock + s.timeout)).poll s auth
      (fuel + 1) (w.tick.ask ⟨id, auth⟩).1 =
        ((w.tick.ask ⟨id, auth⟩).1.wait n, w.catalog.lookup s.timeout w.clock w.clock id) :=
    ⟨_, (poll_delayed (Nat.le_add_right ..)).trans (congrArg _ (congrFun hasked.lookup id))⟩
  refine ⟨_, hasked.wait n, rfl, ?_, hpoll.trans hdue⟩
  exact Nat.le_add_right (w.ticks + 1) n

/-! ## All questions of a stage -/

theorem pollAll_lookup (auth : Option String) (fuel : Nat) (hnow : now ≤ w.clock)
    (h : ∀ id ∈ ids, now < start + w.catalog.patience s.timeout id →
      w.clock ≤ start + w.catalog.patience s.timeout id) :
    ∃ n, pollAll s auth (fuel + 1) w (ids.map (w.catalog.lookup s.timeout start now)) =
        (w.wait n, ids.map (w.catalog.lookup s.timeout start w.clock)) ∧
      w.catalog.pending s.timeout start now ids =
        n + w.catalog.pending s.timeout start w.clock ids := by
  induction ids generalizing w with
  | nil => exact ⟨0, rfl, rfl⟩
  | cons id ids ih =>
    rw [List.forall_mem_cons] at h
    obtain ⟨k, hfirst, hk⟩ := poll_lookup auth fuel hnow h.1
    obtain ⟨n, hrest, hn⟩ := ih (w := w.wait k) hnow h.2
    refine ⟨k + n, ?_, ?_⟩
    · have hrest' : pollAll s auth (fuel + 1) (w.wait k)
          (ids.map (w.catalog.lookup s.timeout start now)) = _ := hrest
      rw [List.map_cons, List.map_cons, pollAll, hfirst]
      dsimp only
      rw [hrest', World.wait_wait]
      rfl
    · have hn' : w.catalog.pending s.timeout start now ids =
          n + w.catalog.pending s.timeout start w.clock ids := hn
      rw [ScriptedCatalog.pending_cons _ id ids, ScriptedCatalog.pending_cons _ id ids, hk, hn']
      omega

/-- Questions are asked, each of them once. -/
theorem pollAll_unasked (auth : Option String) (fuel : Nat) (hsilent : w.catalog.Silent ids) :
    ∃ w', w.Asked auth ids w' ∧ w'.clock = w.clock ∧ w.ticks + ids.length ≤ w'.ticks ∧
      pollAll s auth (fuel + 2) w (ids.map .unasked) =
        (w', ids.map (w.catalog.lookup s.timeout w.clock w.clock)) := by
  induction ids generalizing w with
  | nil => exact ⟨w, .refl w, rfl, Nat.le_refl _, rfl⟩
  | cons id ids ih =>
    obtain ⟨hid, hids⟩ := List.forall_mem_cons.1 hsilent
    obtain ⟨w₁, hasked, hclock, hticks, hfirst⟩ :=
      poll_unasked (s := s) auth fuel (List.forall_mem_singleton.2 hid)
    obtain ⟨w₂, hasked', hclock', hticks', hrest⟩ := ih (hasked.silent hids)
    refine ⟨w₂, hasked.trans hasked', hclock'.trans hclock, ?_, ?_⟩
    · rw [List.length_cons]
      omega
    · rw [List.map_cons, List.map_cons, pollAll, hfirst]
      dsimp only
      rw [hrest, hclock, hasked.lookup]

/-- Questions that are all answered. -/
theorem answers?_lookup (h : c.pending timeout start now ids = 0) :
    answers? (ids.map (c.lookup timeout start now)) = some (ids.map (c.answerWithin timeout)) := by
  induction ids with
  | nil => rfl
  | cons id ids ih =>
    rw [ScriptedCatalog.pending_cons] at h
    have hid : start + c.patience timeout id ≤ now := by
      have := Nat.eq_zero_of_add_eq_zero_right h
      simpa [ScriptedCatalog.pending] using this
    rw [List.map_cons, ScriptedCatalog.lookup, if_pos hid, answers?,
      ih (Nat.eq_zero_of_add_eq_zero_left h)]
    rfl

theorem answers?_lookup_eq_none (h : c.pending timeout start now ids ≠ 0) :
    answers? (ids.map (c.lookup timeout start now)) = none := by
  induction ids with
  | nil => exact absurd rfl h
  | cons id ids ih =>
    rw [List.map_cons, ScriptedCatalog.lookup]
    split
    · next hid =>
      rw [answers?, ih, Option.map_none]
      rw [ScriptedCatalog.pending_cons] at h
      have : c.pending timeout start now [id] = 0 := by
        simpa [ScriptedCatalog.pending] using hid
      omega
    · rfl

theorem foldl_poll (ls done : List (Lookup ρ)) (w : World ρ) :
    ls.foldl (fun (w, done) l =>
      let (w, l) := l.poll s auth fuel w
      (w, done ++ [l])) (w, done) =
      ((pollAll s auth fuel w ls).1, done ++ (pollAll s auth fuel w ls).2) := by
  induction ls generalizing w done with
  | nil => simp [pollAll]
  | cons l ls ih =>
    rw [List.foldl_cons, ih]
    simp [pollAll]

theorem poll_asking (w : World ρ) (stage : Stage) (auth : Option String) (fuel : Nat)
    (ls : List (Lookup ρ)) :
    (Running.asking stage auth ls).poll s (fuel + 1) w =
      match answers? (pollAll s auth fuel w ls).2 with
      | none => ((pollAll s auth fuel w ls).1, .asking stage auth (pollAll s auth fuel w ls).2)
      | some answers =>
        (proceed s (pollAll s auth fuel w ls).1.tick stage auth answers).2.poll s fuel
          (proceed s (pollAll s auth fuel w ls).1.tick stage auth answers).1 := by
  rw [Running.poll, foldl_poll]
  rfl

/-! ## The clock -/

theorem mem_timersAll_lookup {t : Nat} :
    t ∈ timersAll (ids.map (c.lookup timeout start now)) ↔
      ∃ id ∈ ids, now < start + c.patience timeout id ∧
        (t = start + timeout ∨ t = start + c.delayOf id) := by
  induction ids with
  | nil => simp [timersAll]
  | cons id ids ih =>
    rw [List.map_cons, timersAll, List.mem_append, ih, List.exists_mem_cons_iff]
    refine or_congr_left ?_
    unfold ScriptedCatalog.lookup
    split
    · next h => simp [Lookup.timers, Nat.not_lt.2 h]
    · next h => simp [Lookup.timers, Nat.lt_of_not_le h]

/-- While questions are open, the clock goes on to the next moment at which one of them is due. -/
theorem exists_timer (h : c.pending timeout start now ids ≠ 0) :
    ∃ t, (timersAll (ids.map (c.lookup timeout start now))).min? = some t ∧ now < t ∧
      (∀ id ∈ ids, now < start + c.patience timeout id → t ≤ start + c.patience timeout id) ∧
      c.pending timeout start t ids < c.pending timeout start now ids := by
  obtain ⟨id, hid, hopen⟩ : ∃ id ∈ ids, now < start + c.patience timeout id := by
    simpa [ScriptedCatalog.pending] using List.countP_pos_iff.1 (Nat.pos_of_ne_zero h)
  have hmem := mem_timersAll_lookup.2 ⟨id, hid, hopen, Or.inl rfl⟩
  obtain ⟨t, ht⟩ := Option.isSome_iff_exists.1 (List.isSome_min?_of_mem hmem)
  obtain ⟨htimer, hleast⟩ := List.min?_eq_some_iff.1 ht
  have hdue : ∀ other ∈ ids, now < start + c.patience timeout other →
      t ≤ start + c.patience timeout other := by
    intro other hother hnow
    have hdead := hleast _ (mem_timersAll_lookup.2 ⟨other, hother, hnow, Or.inl rfl⟩)
    have hwake := hleast _ (mem_timersAll_lookup.2 ⟨other, hother, hnow, Or.inr rfl⟩)
    unfold ScriptedCatalog.patience
    omega
  obtain ⟨first, hfirst, hnow, heq⟩ := mem_timersAll_lookup.1 htimer
  have hreached : t = start + c.patience timeout first := by
    have := hdue first hfirst hnow
    unfold ScriptedCatalog.patience at this ⊢
    omega
  exact ⟨t, ht, by omega, hdue, ScriptedCatalog.pending_lt (by omega) hfirst hnow (by omega)⟩

/-! ## A round from start to end -/

/-- With the answers to questions asked since `w`, a stage comes to its end. -/
def Concludes (s : Settings ρ) (w : World ρ) (ids : List ProductId) (stage : Stage)
    (auth : Option String) (answers : List Answer) (w'' : World ρ) (r : Result) : Prop :=
  ∃ w', w.Asked auth ids w' ∧ proceed s w' stage auth answers = (w'', .done r)

variable {w₀ : World ρ} {asked : List ProductId}

/-- Open questions take their turns at the present moment: either all of them are answered now, or
the stage goes on asking. -/
theorem poll_open (start fuel : Nat) (h₀ : w₀.Asked auth asked w) (hnow : now ≤ w.clock)
    (hdue : ∀ id ∈ ids, now < start + w₀.catalog.patience s.timeout id →
      w.clock ≤ start + w₀.catalog.patience s.timeout id)
    (hdone : ∀ w', w₀.Asked auth asked w' → ∃ w'' r,
      proceed s w' stage auth (ids.map (w₀.catalog.answerWithin s.timeout)) = (w'', .done r)) :
    (w₀.catalog.pending s.timeout start w.clock ids = 0 ∧ ∃ w'' r,
      Concludes s w₀ asked stage auth (ids.map (w₀.catalog.answerWithin s.timeout)) w'' r ∧
      (Running.asking stage auth (ids.map (w₀.catalog.lookup s.timeout start now))).poll s
        (fuel + 2) w = (w'', .done r)) ∨
    (w₀.catalog.pending s.timeout start w.clock ids ≠ 0 ∧ ∃ n,
      w₀.catalog.pending s.timeout start now ids =
        n + w₀.catalog.pending s.timeout start w.clock ids ∧
      (Running.asking stage auth (ids.map (w₀.catalog.lookup s.timeout start now))).poll s
        (fuel + 2) w = (w.wait n,
          .asking stage auth (ids.map (w₀.catalog.lookup s.timeout start w.clock)))) := by
  simp only [← h₀.patience] at hdue
  obtain ⟨n, hpoll, hn⟩ := pollAll_lookup auth fuel hnow hdue
  rw [h₀.lookup, h₀.lookup] at hpoll
  rw [h₀.pending, h₀.pending] at hn
  rw [poll_asking, hpoll]
  dsimp only
  by_cases hopen : w₀.catalog.pending s.timeout start w.clock ids = 0
  · left
    have hasked : w₀.Asked auth asked (w.wait n).tick := (h₀.wait n).wait 1
    obtain ⟨w'', r, hr⟩ := hdone _ hasked
    refine ⟨hopen, w'', r, ⟨_, hasked, hr⟩, ?_⟩
    rw [answers?_lookup hopen]
    dsimp only
    rw [hr]
    rfl
  · right
    rw [answers?_lookup_eq_none hopen]
    exact ⟨hopen, n, hn, rfl⟩

theorem finish_of_done {r : Running ρ} {result : Result}
    (h : r.poll s fuel w = (w', .done result)) : finish s (fuel + 1) w r = (w', some result) := by
  rw [finish, h]

theorem finish_of_asking {r : Running ρ} {ls : List (Lookup ρ)}
    (h : r.poll s fuel w = (w', .asking stage auth ls)) :
    finish s (fuel + 1) w r =
      if w'.ticks ≠ w.ticks then finish s fuel w' (.asking stage auth ls)
      else
        match (timersAll ls).min? with
        | some time => finish s fuel { w' with clock := max w'.clock time } (.asking stage auth ls)
        | none => (w', none) := by
  rw [finish, h]
  rfl

/-- Open questions are all answered in the end, each in its own time. -/
theorem finish_open (fuel : Nat) {k : Nat} (h₀ : w₀.Asked auth asked w)
    (hdone : ∀ w', w₀.Asked auth asked w' → ∃ w'' r,
      proceed s w' stage auth (ids.map (w₀.catalog.answerWithin s.timeout)) = (w'', .done r))
    (hopen : w₀.catalog.pending s.timeout start w.clock ids ≠ 0)
    (hk : w₀.catalog.pending s.timeout start w.clock ids ≤ k) :
    ∃ w'' r, Concludes s w₀ asked stage auth (ids.map (w₀.catalog.answerWithin s.timeout)) w'' r ∧
      finish s (fuel + 2 * k + 3) w
        (.asking stage auth (ids.map (w₀.catalog.lookup s.timeout start w.clock))) =
          (w'', some r) := by
  induction k generalizing w with
  | zero => exact absurd (Nat.le_zero.1 hk) hopen
  | succ k ih =>
    -- nothing is due at the present moment, so the clock moves
    obtain ⟨t, ht, hnow, hdue, hless⟩ := exists_timer hopen
    have hmoved : finish s (fuel + 2 * (k + 1) + 3) w
        (.asking stage auth (ids.map (w₀.catalog.lookup s.timeout start w.clock))) =
          finish s (fuel + 2 * k + 4) { w with clock := t }
            (.asking stage auth (ids.map (w₀.catalog.lookup s.timeout start w.clock))) := by
      rcases poll_open start (fuel + 2 * k + 2) h₀ (Nat.le_refl w.clock)
        (fun _ _ h => Nat.le_of_lt h) hdone with ⟨hnone, -⟩ | ⟨-, n, hn, hpoll⟩
      · exact absurd hnone hopen
      · obtain rfl : n = 0 := by omega
        rw [World.wait_zero] at hpoll
        refine (finish_of_asking hpoll).trans ?_
        rw [if_neg (not_not.2 rfl), ht]
        dsimp only
        rw [Nat.max_eq_right (Nat.le_of_lt hnow)]
    have h₁ : w₀.Asked auth asked { w with clock := t } := h₀.clock t
    rw [hmoved]
    -- and now something is
    rcases poll_open start (fuel + 2 * k + 1) h₁ (Nat.le_of_lt hnow) hdue hdone with
      ⟨-, w'', r, hend, hpoll⟩ | ⟨hopen', n, hn, hpoll⟩
    · exact ⟨w'', r, hend, finish_of_done hpoll⟩
    · have hfewer : w₀.catalog.pending s.timeout start w.clock ids =
          n + w₀.catalog.pending s.timeout start t ids := hn
      rw [finish_of_asking hpoll, if_pos]
      · have hleft : w₀.catalog.pending s.timeout start t ids ≤ k := by omega
        exact ih (h₁.wait n) hopen' hleft
      · show w.ticks + n ≠ w.ticks
        omega

/-- **A round comes to its end.**  Where nothing is played inside the questions of a stage, each of
them is asked once, in whatever time each of them is answered, and the stage goes on with the
answers in the order of the questions; a question that took too long was answered accordingly. -/
theorem finish_askAbout (stage : Stage) (auth : Option String)
    (hsilent : w.catalog.Silent stage.questions)
    (hfuel : 2 * stage.questions.length + 4 ≤ fuel)
    (hdone : ∀ w', w.Asked auth stage.questions w' → ∃ w'' r,
      proceed s w' stage auth (stage.questions.map (w.catalog.answerWithin s.timeout)) =
        (w'', .done r)) :
    ∃ w'' r, Concludes s w stage.questions stage auth
        (stage.questions.map (w.catalog.answerWithin s.timeout)) w'' r ∧
      finish s fuel w (askAbout stage auth) = (w'', some r) := by
  obtain ⟨fuel, rfl⟩ : ∃ n, fuel = n + 2 * stage.questions.length + 4 :=
    ⟨fuel - (2 * stage.questions.length + 4), by omega⟩
  obtain ⟨w₁, hasked, hclock, hticks, hall⟩ :=
    pollAll_unasked (s := s) auth (fuel + 2 * stage.questions.length) hsilent
  have hpoll := poll_asking (s := s) w stage auth (fuel + 2 * stage.questions.length + 2)
    (stage.questions.map .unasked)
  rw [hall] at hpoll
  dsimp only at hpoll
  by_cases hopen : w.catalog.pending s.timeout w.clock w.clock stage.questions = 0
  · rw [answers?_lookup hopen] at hpoll
    obtain ⟨w'', r, hr⟩ := hdone _ (hasked.wait 1)
    refine ⟨w'', r, ⟨_, hasked.wait 1, hr⟩, finish_of_done (hpoll.trans ?_)⟩
    dsimp only
    rw [show w₁.tick = w₁.wait 1 from rfl, hr]
    rfl
  · rw [answers?_lookup_eq_none hopen] at hpoll
    have hsome : 0 < stage.questions.length :=
      Nat.lt_of_lt_of_le (Nat.pos_of_ne_zero hopen) List.countP_le_length
    rw [← hclock] at hopen hpoll
    obtain ⟨w'', r, hend, hfinish⟩ :=
      finish_open fuel hasked hdone hopen List.countP_le_length
    refine ⟨w'', r, hend, (finish_of_asking hpoll).trans ?_⟩
    rw [if_pos (by omega)]
    exact hfinish

end OrderDesk.Scenario
