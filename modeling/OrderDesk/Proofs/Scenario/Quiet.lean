import OrderDesk.Scenario.Play

/-!
# Steps that ask nothing

Only a new order and a change of lines have questions for the catalog.  Every other step, be it
under way or waiting for an order that is held, goes on without any (`quiet_poll`).
-/

namespace OrderDesk.Scenario

variable {ρ : Type}

/-- Is it a step that may ask the catalog? -/
def Step.asks : Step ρ → Bool
  | .createOrder _ _ => true
  | .revise _ _ _ => true
  | _ => false

/-- Does it happen without questions? -/
def Act.quiet : Act → Bool
  | .change _ _ => true
  | .read _ => true
  | .cancel _ _ => true
  | .revise _ _ _ => false
  | .resume _ _ _ => false

/-- Does it go on without questions? -/
def Running.quiet : Running ρ → Bool
  | .done _ => true
  | .blocked _ act => act.quiet
  | .asking _ _ _ => false

/-- What goes on is quiet, and no question has been asked. -/
structure Quiet (w : World ρ) (p : World ρ × Running ρ) : Prop where
  running : p.2.quiet
  questions : p.1.questions = w.questions

variable {s : Settings ρ} {w : World ρ}

theorem quiet_readAll (w : World ρ) (purpose : ReadPurpose) (done : List Order)
    (targets : List Target) : (readAll w purpose done targets).quiet := by
  induction targets generalizing done with
  | nil => rfl
  | cons t rest ih =>
    simp only [readAll]
    split
    · exact ih done
    · split
      · rfl
      · exact ih _

theorem quiet_cancelAll (w : World ρ) (purpose : CancelPurpose) (done ids : List OrderId) :
    Quiet w (cancelAll w purpose done ids) := by
  induction ids generalizing w done with
  | nil => exact ⟨rfl, rfl⟩
  | cons id rest ih =>
    simp only [cancelAll]
    split
    · exact ih w done
    · split
      · exact ⟨rfl, rfl⟩
      · exact ⟨(ih _ _).running, (ih _ _).questions⟩

theorem quiet_perform (s : Settings ρ) (w : World ρ) (slot : Nat) {act : Act} (h : act.quiet) :
    Quiet w (perform s w slot act) := by
  cases act with
  | change ref action =>
    simp only [perform]
    split <;> exact ⟨rfl, rfl⟩
  | read r => exact ⟨quiet_readAll .., rfl⟩
  | cancel id c =>
    have hrest := quiet_cancelAll (cancelAt w slot id c.done).1 c.purpose
      (cancelAt w slot id c.done).2 c.rest
    exact ⟨hrest.running, hrest.questions⟩
  | revise | resume => cases h

theorem quiet_poll (s : Settings ρ) (fuel : Nat) (w : World ρ) {r : Running ρ} (h : r.quiet) :
    Quiet w (r.poll s fuel w) := by
  induction fuel generalizing w r with
  | zero => exact ⟨h, rfl⟩
  | succ fuel ih =>
    cases r with
    | done result => exact ⟨rfl, rfl⟩
    | asking => cases h
    | blocked slot act =>
      rw [Running.poll]
      split
      · exact ⟨h, rfl⟩
      · have hperform := quiet_perform s w.tick slot h
        have hpoll := ih (perform s w.tick slot act).1 hperform.running
        exact ⟨hpoll.running, hpoll.questions.trans hperform.questions⟩

theorem finish_questions (s : Settings ρ) (fuel : Nat) (w : World ρ) {r : Running ρ}
    (h : r.quiet) : (finish s fuel w r).1.questions = w.questions := by
  induction fuel generalizing w r with
  | zero => rfl
  | succ fuel ih =>
    have hpoll := quiet_poll s fuel w h
    rw [finish]
    generalize r.poll s fuel w = polled at hpoll
    obtain ⟨w', r'⟩ := polled
    dsimp only
    split
    · exact hpoll.questions
    · split
      · exact (ih w' hpoll.running).trans hpoll.questions
      · split
        · exact (ih _ hpoll.running).trans hpoll.questions
        · exact hpoll.questions

/-! ## The first part of a step -/

theorem know_questions (w : World ρ) (id : UserId) : (w.know id).questions = w.questions := by
  unfold World.know
  split <;> rfl

theorem quiet_loadUser (s : Settings ρ) (w : World ρ) (id : UserId) (r : Registration)
    (points : Unsigned64) (orders : List OrderId) : Quiet w (loadUser s w id r points orders) := by
  unfold loadUser
  split
  · exact ⟨rfl, rfl⟩
  · exact ⟨rfl, know_questions ..⟩

theorem quiet_whenFree (s : Settings ρ) (w : World ρ) (slot : Nat) {act : Act} (h : act.quiet) :
    Quiet w (whenFree s w slot act) := by
  unfold whenFree
  split
  · exact ⟨h, rfl⟩
  · exact quiet_perform s w slot h

theorem quiet_beginUserStep {step : Step ρ} {p : World ρ × Running ρ}
    (h : beginUserStep s w step = some p) : Quiet w p := by
  cases step with
  | register r =>
    cases h
    refine ⟨rfl, ?_⟩
    dsimp only
    split
    · exact know_questions ..
    · rfl
  | loadUser id r points orders =>
    cases h
    exact quiet_loadUser ..
  | overview id =>
    simp only [beginUserStep] at h
    split at h <;> cases h
    · exact ⟨rfl, rfl⟩
    · exact ⟨quiet_readAll .., rfl⟩
  | deleteUser id =>
    simp only [beginUserStep] at h
    split at h
    · cases h
      exact ⟨rfl, rfl⟩
    · next service ids _ =>
      cases h
      have hrest := quiet_cancelAll (w.withService service) .deleted [] ids
      exact ⟨hrest.running, hrest.questions⟩
  | noteOrder | credit =>
    simp only [beginUserStep] at h
    split at h <;> cases h <;> exact ⟨rfl, rfl⟩
  | user | points | redeem | award | countUsers | notedOrders =>
    cases h
    exact ⟨rfl, rfl⟩
  | setPrice | setAvailable | putProduct | dropProduct | down | up | slow | hook | createOrder
  | order | listOrders | ordersOf | revise | act | insertOrder | loadOrder | findOrder | countOrders
  | cancelAmong | ordersAmong | loadDemo => cases h

theorem quiet_beginOrderStep {step : Step ρ} {p : World ρ × Running ρ} (hasks : step.asks = false)
    (h : beginOrderStep s w step = some p) : Quiet w p := by
  cases step with
  | createOrder | revise => cases hasks
  | ordersOf id =>
    simp only [beginOrderStep] at h
    split at h <;> cases h
    · exact ⟨rfl, rfl⟩
    · exact ⟨quiet_readAll .., rfl⟩
  | act id action =>
    simp only [beginOrderStep] at h
    split at h <;> cases h
    · exact ⟨rfl, rfl⟩
    · exact quiet_whenFree s w _ rfl
  | order | listOrders | findOrder | ordersAmong =>
    cases h
    exact ⟨quiet_readAll .., rfl⟩
  | cancelAmong ids =>
    cases h
    exact quiet_cancelAll ..
  | loadDemo =>
    simp only [beginOrderStep] at h
    split at h <;> cases h
    · exact ⟨rfl, rfl⟩
    · exact ⟨rfl, by rw [know_questions, know_questions, know_questions]; rfl⟩
  | insertOrder | loadOrder | countOrders =>
    cases h
    exact ⟨rfl, rfl⟩
  | setPrice | setAvailable | putProduct | dropProduct | down | up | slow | hook | register
  | loadUser | user | overview | points | redeem | award | deleteUser | countUsers | noteOrder
  | notedOrders | credit => cases h

theorem quiet_beginStep (s : Settings ρ) (w : World ρ) (raw : ρ)
    (h : (s.read w.created raw).asks = false) : Quiet w (beginStep s w raw) := by
  unfold beginStep
  dsimp only
  split
  · next started hstarted =>
    have hquiet := quiet_beginUserStep hstarted
    exact ⟨hquiet.running, hquiet.questions⟩
  · split
    · next started hstarted =>
      have hquiet := quiet_beginOrderStep h hstarted
      exact ⟨hquiet.running, hquiet.questions⟩
    · exact ⟨rfl, rfl⟩

/-- **Only new orders and changes of lines ask the catalog.** -/
theorem playStep_questions (s : Settings ρ) (fuel : Nat) (w : World ρ) (raw : ρ)
    (h : (s.read w.created raw).asks = false) : (playStep s fuel w raw).2.questions = [] := by
  have hbegin := quiet_beginStep s { w with questions := [], hooked := [] } raw h
  exact (finish_questions s fuel _ hbegin.running).trans hbegin.questions

end OrderDesk.Scenario
