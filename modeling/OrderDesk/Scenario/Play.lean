import OrderDesk.Scenario.Running

/-!
# Playing a scenario

A step is played until it is done.  When it cannot go on at the present moment, and nothing that is
under way inside it can, the clock moves to the next time at which something happens by itself.
-/

namespace OrderDesk.Scenario

variable {ρ : Type}

/-- What a step shows: its result, the questions asked, and the results of hooks. -/
structure Shown where
  result : Option Result
  questions : List Question
  hooked : List Result

/-- Plays a step that is under way to its end. -/
def finish (s : Settings ρ) : (fuel : Nat) → World ρ → Running ρ → World ρ × Option Result
  | 0, w, _ => (w, none)
  | fuel + 1, w, r =>
    let before := w.ticks
    let (w, r) := r.poll s fuel w
    match r with
    | .done result => (w, some result)
    | r =>
      if w.ticks ≠ before then finish s fuel w r
      else
        match r.timers.min? with
        | some time => finish s fuel { w with clock := max w.clock time } r
        | none => (w, none)

/-- Plays a step. -/
def playStep (s : Settings ρ) (fuel : Nat) (w : World ρ) (raw : ρ) : World ρ × Shown :=
  let (w, running) := beginStep s { w with questions := [], hooked := [] } raw
  let (w, result) := finish s fuel w running
  (w, ⟨result, w.questions, w.hooked⟩)

/-- Plays a script. -/
def play (s : Settings ρ) (fuel : Nat) (w : World ρ) : List ρ → World ρ × List Shown
  | [] => (w, [])
  | raw :: rest =>
    let (w, shown) := playStep s fuel w raw
    let (w, others) := play s fuel w rest
    (w, shown :: others)

end OrderDesk.Scenario
