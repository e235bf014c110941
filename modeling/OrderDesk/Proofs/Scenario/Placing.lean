import OrderDesk.Proofs.Order.Faults
import OrderDesk.Proofs.Scenario.Quiet
import OrderDesk.Proofs.Scenario.Rounds
import OrderDesk.Proofs.Service.Judging
import OrderDesk.Proofs.Service.Perform

/-!
# Placing orders while the catalog takes its time

A new order has one round of questions.  When it is over, the order is placed or refused as if the
answers of that round had been there at once (`playStep_createOrder`), and it is refused for what is
wrong with all of them together (`answers_are_judged_together`).
-/

namespace OrderDesk.Scenario

variable {ρ : Type}

/-- The world in which a step begins. -/
def World.begun (w : World ρ) : World ρ := ({ w with questions := [], hooked := [] } : World ρ).tick

variable {s : Settings ρ} {w : World ρ} {raw : ρ} {r : OrderRequest}
  {auth : Option String} {owner : Option UserId} {items : List LineItem} {fuel : Nat}

/-- A new order that has its answers is at its end. -/
theorem resume_creating (fresh : OrderId) (now : Timestamp) (s : Service) (answers : List Answer)
    (owner : Option UserId) (items : List LineItem) :
    ∃ s' result,
      Stage.resume fresh now s answers (.creating owner items) = .finished s' result := by
  rw [Stage.resume]
  split
  · exact ⟨_, _, rfl⟩
  · split <;> exact ⟨_, _, rfl⟩

theorem resume_of_judge_eq_error {fresh : OrderId} {now : Timestamp} {s : Service}
    {answers : List Answer} {e : OrderError}
    (h : judge (items.map (·.product)) answers = .error e) :
    Stage.resume fresh now s answers (.creating owner items) = .finished s (.error e) := by
  rw [Stage.resume, h]
  rfl

theorem noteCreated_service (w : World ρ) (stage : Stage) (result : Except OrderError Order) :
    (noteCreated w stage result).service = w.service := by
  unfold noteCreated
  split <;> rfl

theorem noteCreated_questions (w : World ρ) (stage : Stage) (result : Except OrderError Order) :
    (noteCreated w stage result).questions = w.questions := by
  unfold noteCreated
  split <;> rfl

theorem proceed_creating (s : Settings ρ) (w : World ρ) (auth : Option String)
    (answers : List Answer) (owner : Option UserId) (items : List LineItem) :
    ∃ service result,
      Stage.resume (s.fresh (w.given + 1)) (w.now s) w.service answers (.creating owner items) =
        .finished service result ∧
      ∃ w', proceed s w (.creating owner items) auth answers = (w', .done (.order result)) ∧
        w'.service = service ∧ w'.questions = w.questions := by
  obtain ⟨service, result, h⟩ :=
    resume_creating (s.fresh (w.given + 1)) (w.now s) w.service answers owner items
  have hproceed : proceed s w (.creating owner items) auth answers =
      ((noteCreated { w.withService service with given := w.given + 1 } (.creating owner items)
        result).release [], .done (.order result)) := by
    simp only [proceed, Stage.needs?, resumeStage, h]
    rfl
  exact ⟨service, result, h, _, hproceed, noteCreated_service .., noteCreated_questions ..⟩

/-- What comes of a new order is what comes of the answers to its one round of questions. -/
theorem createOrder_of_resume {κ : Type} {ask : κ → List ProductId → κ × List Answer}
    {fresh : OrderId} {now : Timestamp} {catalog : κ} {service service' : Service}
    {result : Except OrderError Order}
    (hbegin : Service.beginCreate r = .ok (.creating owner items))
    (h : Stage.resume fresh now service (ask catalog (items.map (·.product))).2
      (.creating owner items) = .finished service' result) :
    (service.createOrder ask fresh now catalog r).2 = (service', result) := by
  rw [Service.createOrder, hbegin]
  exact congrArg Prod.snd (Service.settle_of_finished h)

/-- **A new order does not depend on how long its answers take.**  Each of its questions is asked
once, and what comes of it is what would come of it if all answers were there at once. -/
theorem playStep_createOrder (hread : s.read w.created raw = .createOrder r auth)
    (hbegin : Service.beginCreate r = .ok (.creating owner items))
    (hsilent : w.catalog.Silent (items.map (·.product))) (hfuel : 2 * items.length + 4 ≤ fuel) :
    ∃ fresh now result,
      (playStep s fuel w raw).2.result = some (.order result) ∧
      (playStep s fuel w raw).2.questions = (items.map (·.product)).map (⟨·, auth⟩) ∧
      ∀ (κ : Type) (ask : κ → List ProductId → κ × List Answer) catalog,
        (ask catalog (items.map (·.product))).2 =
            (items.map (·.product)).map (w.catalog.answerWithin s.timeout) →
          (w.service.createOrder ask fresh now catalog r).2 =
            ((playStep s fuel w raw).1.service, result) := by
  have hbegun : beginStep s { w with questions := [], hooked := [] } raw =
      (w.begun, askAbout (.creating owner items) auth) := by
    simp only [beginStep, hread, beginUserStep, beginOrderStep, hbegin, ofStart]
    rfl
  have hlength : 2 * (items.map (·.product)).length + 4 ≤ fuel := by rwa [List.length_map]
  obtain ⟨w'', shown, ⟨w', hasked, hproceed⟩, hfinish⟩ :=
    finish_askAbout (w := w.begun) (.creating owner items) auth hsilent hlength fun w' _ => by
      obtain ⟨_, _, -, w'', h, -⟩ := proceed_creating s w' auth _ owner items
      exact ⟨w'', _, h⟩
  obtain ⟨service, result, hresume, _, hend, hservice, hquestions⟩ :=
    proceed_creating s w' auth ((items.map (·.product)).map (w.catalog.answerWithin s.timeout))
      owner items
  cases hend.symm.trans hproceed
  rw [hasked.service] at hresume
  simp only [playStep, hbegun, hfinish]
  refine ⟨s.fresh (w'.given + 1), w'.now s, result, rfl, hquestions.trans hasked.questions, ?_⟩
  intro κ ask catalog hask
  rw [hservice]
  refine createOrder_of_resume hbegin ?_
  rw [hask]
  exact hresume

/-- A request that cannot be read asks nothing. -/
theorem playStep_createOrder_of_error {e : OrderError}
    (hread : s.read w.created raw = .createOrder r auth)
    (hbegin : Service.beginCreate r = .error e) :
    (playStep s fuel w raw).2.questions = [] := by
  have hbegun : beginStep s { w with questions := [], hooked := [] } raw =
      (w.begun, .done (.order (.error e))) := by
    simp only [beginStep, hread, beginUserStep, beginOrderStep, hbegin, ofStart]
    rfl
  simp only [playStep, hbegun]
  exact finish_questions s fuel w.begun rfl

/-- What is listed is in the order of the questions. -/
theorem sublist_of_judge_eq_error {answer : ProductId → Answer} {ids listed : List ProductId}
    {e : OrderError} (h : judge ids (ids.map answer) = .error e)
    (hlisted : e = .invalidProducts listed ∨ e = .notPurchasable listed) : listed.Sublist ids := by
  have hjudged : ∃ v, listed = judgedTo v (ids.zip (ids.map answer)) := by
    rcases judge_eq_error h with ⟨reason, -, rfl⟩ | rfl | rfl
    · rcases hlisted with h | h <;> cases h
    · rcases hlisted with h | h <;> cases h
      exact ⟨_, rfl⟩
    · rcases hlisted with h | h <;> cases h
      exact ⟨_, rfl⟩
  obtain ⟨v, rfl⟩ := hjudged
  rw [judgedTo_zip_map]
  exact List.filter_sublist

/-- **Answers are judged together.**

* The reason of the first outage among the products decides, in the order of the questions.  Without
  an outage all missing products are named, without these all withdrawn ones, and otherwise there is
  a product for each question, as the catalog gave it.
* A request that can be read asks about its products in the order of first appearance, each once.
  If they are judged bad, the request fails with exactly that, and what is listed is in this order,
  whatever catalog gave the answers.
* In a scenario each answer comes in its own time or too late.  In whatever order the answers come,
  what comes of the request is what comes of it when they are all there at once. -/
theorem answers_are_judged_together (answer : ProductId → Answer) :
    (∀ ids : List ProductId,
      (∀ reason, ids.findSome? (fun id => (answer id).verdict.reason?) = some reason →
        judge ids (ids.map answer) = .error (.catalogUnavailable reason)) ∧
      ((∀ id ∈ ids, (answer id).verdict.reason? = none) →
        ∀ missing, ids.filter (fun id => (answer id).verdict = .missing) = missing →
        ∀ withdrawn, ids.filter (fun id => (answer id).verdict = .withdrawn) = withdrawn →
          (missing ≠ [] → judge ids (ids.map answer) = .error (.invalidProducts missing)) ∧
          (missing = [] → withdrawn ≠ [] →
            judge ids (ids.map answer) = .error (.notPurchasable withdrawn)) ∧
          (missing = [] → withdrawn = [] →
            ∃ judged, judge ids (ids.map answer) = .ok judged ∧ judged.map (·.1) = ids ∧
              ∀ q ∈ judged, answer q.1 = .ok q.2 ∧ q.2.available))) ∧
    ∀ r owner items ids, UserId.parseOwner r.owner = .ok owner →
      LineItem.ofInputs r.products = .ok items → items.map (·.product) = ids →
      ids = ((LineInput.deltas r.products).map (·.product)).eraseDups ∧ ids.Nodup ∧
      (∀ e, judge ids (ids.map answer) = .error e →
        (∀ listed, e = .invalidProducts listed ∨ e = .notPurchasable listed →
          listed.Sublist ids ∧ listed.Nodup) ∧
        ∀ (κ : Type) (ask : κ → List ProductId → κ × List Answer) fresh now catalog (s : Service),
          (ask catalog ids).2 = ids.map answer →
            (s.createOrder ask fresh now catalog r).2 = (s, .error e)) ∧
      ∀ (ρ : Type) (s : Settings ρ) fuel w raw auth, s.read w.created raw = .createOrder r auth →
        w.catalog.Silent ids → (∀ id ∈ ids, w.catalog.answerWithin s.timeout id = answer id) →
        2 * ids.length + 4 ≤ fuel →
          ∃ fresh now result, (playStep s fuel w raw).2.result = some (.order result) ∧
            ∀ (κ : Type) (ask : κ → List ProductId → κ × List Answer) catalog,
              (ask catalog ids).2 = ids.map answer →
                (w.service.createOrder ask fresh now catalog r).2 =
                  ((playStep s fuel w raw).1.service, result) := by
  refine ⟨fun ids => ⟨fun reason h => judge_of_reason ?_, ?_⟩, ?_⟩
  · rwa [firstReason?_zip_map]
  · rintro hreason missing rfl withdrawn rfl
    have hnone : firstReason? (ids.zip (ids.map answer)) = none := by
      rwa [firstReason?_zip_map, List.findSome?_eq_none_iff]
    simp only [← judgedTo_zip_map]
    refine ⟨judge_of_missing hnone, judge_of_withdrawn hnone, fun hmissing hwithdrawn => ?_⟩
    obtain ⟨judged, hjudged⟩ := exists_judge_of_good hnone hmissing hwithdrawn
    exact ⟨judged, hjudged, judge_map_eq_ok hjudged⟩
  · rintro r owner items ids howner hitems rfl
    have hbegin : Service.beginCreate r = .ok (.creating owner items) := by
      rw [Service.beginCreate, howner, hitems]
      rfl
    have hd : (items.map (·.product)).Nodup := by
      rw [LineItem.map_product_ofInputs hitems]
      exact Delta.nodup_eraseDups _
    refine ⟨LineItem.map_product_ofInputs hitems, hd, fun e he => ⟨?_, ?_⟩, ?_⟩
    · intro listed hlisted
      have hsublist := sublist_of_judge_eq_error he hlisted
      exact ⟨hsublist, hd.sublist hsublist⟩
    · intro κ ask fresh now catalog s hask
      refine createOrder_of_resume hbegin ?_
      rw [hask, resume_of_judge_eq_error he]
    · intro ρ s fuel w raw auth hread hsilent hanswers hfuel
      rw [List.length_map] at hfuel
      obtain ⟨fresh, now, result, hresult, -, hcreate⟩ :=
        playStep_createOrder hread hbegin hsilent hfuel
      rw [List.map_congr_left hanswers] at hcreate
      exact ⟨fresh, now, result, hresult, hcreate⟩

/-! ### A cup of tea that takes too long -/

namespace Teahouse

open LineItem.Basket

def tea : Product := ⟨.ofNat 10, "Tea", none, Decimal.zero, none, true⟩

/-- Nobody knows a cup, and a question about tea takes half a second. -/
def catalog : ScriptedCatalog Unit :=
  { ScriptedCatalog.ofProducts [tea] with delays := Table.empty.insert tea.id 500 }

def request : OrderRequest := ⟨none, [cup seven, LineItem.Basket.tea seven, cup seven]⟩

/-- What the request asks for. -/
def basket : List LineItem :=
  [⟨.ofNat 11, ⟨14, by decide, by decide⟩⟩, ⟨.ofNat 10, ⟨7, by decide, by decide⟩⟩]

def settings : Settings Unit := ⟨fun _ _ => .createOrder request none, 100, 0, fun _ => .nil⟩

end Teahouse

open Teahouse in
theorem answers_are_judged_together_in_the_teahouse :
    LineItem.ofInputs request.products = .ok basket ∧
    (playStep settings 8 (.start catalog) ()).2.result =
      some (.order (.error (.catalogUnavailable "request timed out"))) ∧
    judge [.ofNat 11, .ofNat 10] ([.ofNat 11, .ofNat 10].map (catalog.answerWithin 500)) =
      .error (.invalidProducts [.ofNat 11]) := by
  obtain ⟨hjudge, hplaced⟩ := answers_are_judged_together (catalog.answerWithin 100)
  obtain ⟨hpatient, -⟩ := answers_are_judged_together (catalog.answerWithin 500)
  have hitems : LineItem.ofInputs request.products = .ok basket := by rfl
  obtain ⟨-, -, hfails, hplays⟩ :=
    hplaced request none basket [.ofNat 11, .ofNat 10] rfl hitems rfl
  obtain ⟨-, hfailed⟩ := hfails _ ((hjudge _).1 "request timed out" (by decide))
  have hsilent : catalog.Silent [.ofNat 11, .ofNat 10] := by
    unfold ScriptedCatalog.Silent
    decide
  obtain ⟨fresh, now, result, hresult, hcreate⟩ :=
    hplays Unit settings 8 (.start catalog) () none rfl hsilent (fun _ _ => rfl) (by decide)
  have hboth := hcreate Unit (fun _ ids => ((), ids.map (catalog.answerWithin 100))) () rfl
  rw [hfailed _ _ _ _ _ _ rfl] at hboth
  cases congrArg Prod.snd hboth
  refine ⟨hitems, hresult, ?_⟩
  exact ((hpatient _).2 (by decide) [.ofNat 11] (by decide) [] (by decide)).1 (by decide)

end OrderDesk.Scenario
