import OrderDesk.Proofs.Scenario.Placing
import OrderDesk.Proofs.Switchboard.Deltas
import OrderDesk.Proofs.Switchboard.RegularOrders
import OrderDesk.Proofs.Switchboard.Validated

/-!
# What the catalog is asked

A call asks the catalog when it comes to a stage with questions, once about each of them
(`Switchboard.inquiries`).  What it has to ask is a rule about its request and what it finds in its
steps: the orders as they are then, and the answers to what it asked before (`Encounter`).  The rule
(`Request.inquiries`) speaks of newcomers, of what can be bought and of the lines of a change, and
not of stages.

Each step of a call asks what the rule says next (`Starts.inquiries`, `Advances.inquiries`), so a
whole run does (`inquiries_of_new`), whatever other calls do between the steps.
-/

namespace OrderDesk

/-- Why the catalog is asked about a product. -/
inductive Purpose where
  /-- Can it be bought? -/
  | validation
  /-- What does it cost? -/
  | pricing
deriving DecidableEq

/-- A question to the catalog. -/
structure Inquiry where
  purpose : Purpose
  product : ProductId
deriving DecidableEq

/-- One question about each of some products. -/
def Purpose.about (purpose : Purpose) (ids : List ProductId) : List Inquiry :=
  ids.map (⟨purpose, ·⟩)

/-- What a call asks when it comes to a stage. -/
def Stage.inquiries (stage : Stage) : List Inquiry :=
  (if stage.validates then Purpose.validation else .pricing).about stage.questions

/-- What a call asks when it comes to a place. -/
def Call.inquiries : Call → List Inquiry
  | .asking stage => stage.inquiries
  | _ => []

/-- What a call finds in one of its steps: the service, and the answers to what it asked before. -/
structure Encounter where
  service : Service
  answers : List Answer

/-- Is it a product that can be bought? -/
def Answer.sells : Answer → Bool
  | .ok p => p.available
  | .error _ => false

/-- Can everything be bought that was asked about? -/
def Encounter.passes (e : Encounter) : Bool := e.answers.all Answer.sells

/-! ## Who may ask what -/

/-- The products of which a change wants more and of which there is nothing on an order. -/
def Order.newcomers (o : Order) (deltas : List Delta) : List ProductId :=
  (deltas.filter fun d => 0 < d.amount.val ∧ d.product ∉ o.items.map (·.product)).map (·.product)

/-- What a change would make of an order as it is now, if it is pending and can be changed so: the
products that are new on it, and those of all its lines. -/
def Service.outlook? (s : Service) (slot : Nat) (deltas : List Delta) :
    Option (List ProductId × List ProductId) := do
  let o ← s.orders.atSlot? slot
  if o.status = .pending then
    let revision ← (o.revise deltas).toOption
    return (o.newcomers deltas, revision.items.map (·.product))
  else none

namespace Inquiry

/-- What is asked once there are answers about the products that became new late. -/
def confirmed (lines : List ProductId) : List Encounter → List Inquiry
  | [] => []
  | e :: _ => if e.passes then Purpose.pricing.about lines else []

/-- What is asked once there are answers about the products that were new at first. -/
def held (slot : Nat) (deltas : List Delta) (candidates : List ProductId) :
    List Encounter → List Inquiry
  | [] => []
  | e :: rest =>
    match if e.passes then e.service.outlook? slot deltas else none with
    | none => []
    | some (new, lines) =>
      let late := new.filter fun id => id ∉ candidates
      if late = [] then Purpose.pricing.about lines
      else Purpose.validation.about late ++ confirmed lines rest

/-- What is asked from the first look at the order on. -/
def looked (slot : Nat) (deltas : List Delta) : List Encounter → List Inquiry
  | [] => []
  | e :: rest =>
    match e.service.outlook? slot deltas with
    | none => []
    | some (new, _) => Purpose.validation.about new ++ held slot deltas new rest

end Inquiry

/-- **What a request asks the catalog**, by what its call finds in its steps. -/
def Request.inquiries : Request → List Encounter → List Inquiry
  | .create r, _ =>
    match UserId.parseOwner r.owner, LineItem.ofInputs r.products with
    | .ok _, .ok _ =>
      Purpose.validation.about ((LineInput.deltas r.products).map (·.product)).eraseDups
    | _, _ => []
  | .revise id inputs, e :: rest =>
    match Delta.ofInputs inputs, e.service.orders.slot? id with
    | .ok deltas, some slot => Inquiry.looked slot deltas rest
    | _, _ => []
  | _, _ => []

/-- What a call will ask from a place on, by what it finds. -/
def Call.later : Call → List Encounter → List Inquiry
  | .looking ref deltas, es => Inquiry.looked ref.slot deltas es
  | .asking (.validating ref deltas candidates), es => Inquiry.held ref.slot deltas candidates es
  | .asking (.confirming _ revision _), es =>
    Inquiry.confirmed (revision.items.map (·.product)) es
  | _, _ => []

namespace Switchboard

/-- The answers that come with an event. -/
def Event.answers : Event → List Answer
  | .start _ _ _ _ => []
  | .advance _ answers _ _ => answers

/-- What a call finds in a run. -/
def encounters (b : Switchboard) (call : CallId) : List Event → List Encounter
  | [] => []
  | e :: es =>
    match b.step e with
    | none => []
    | some b' =>
      (if e.call = call then [⟨b.service, e.answers⟩] else []) ++ b'.encounters call es

/-- What a call asks in an event: what is asked at the place to which it comes. -/
def inquiry (b' : Switchboard) (call : CallId) (e : Event) : List Inquiry :=
  match b'.calls.get? call with
  | some entry => if e.call = call then entry.call.inquiries else []
  | none => []

/-- What a call asks in a run. -/
def inquiries (b : Switchboard) (call : CallId) : List Event → List Inquiry
  | [] => []
  | e :: es =>
    match b.step e with
    | none => []
    | some b' => b'.inquiry call e ++ b'.inquiries call es

end Switchboard

variable {s s' : Service} {o : Order} {slot : Nat} {deltas : List Delta} {revision : Revision}
  {answers : List Answer} {ids new lines candidates : List ProductId} {ref : OrderRef}
  {r : Request} {c c' : Call} {fresh : Uuid} {now : Timestamp} {es : List Encounter}

/-! ## Small facts -/

theorem Call.later_nil (c : Call) : c.later [] = [] := by
  cases c with
  | asking stage => cases stage <;> rfl
  | looking | acting | cascading | cancelling | ended => rfl

theorem Service.outlook?_eq_some_iff :
    s.outlook? slot deltas = some (new, lines) ↔
      ∃ o revision, s.orders.atSlot? slot = some o ∧ o.status = .pending ∧
        o.revise deltas = .ok revision ∧ new = o.newcomers deltas ∧
        lines = revision.items.map (·.product) := by
  simp only [outlook?, Option.bind_eq_bind, Option.bind_eq_some_iff]
  refine exists_congr fun o => ?_
  rw [exists_and_left]
  refine and_congr_right fun _ => ?_
  split
  · next hpending =>
    cases hrevise : o.revise deltas with
    | error e => simp [Except.toOption]
    | ok revision => simp [Except.toOption, hpending, eq_comm]
  · next hpending => simp [hpending]

/-- What a change adds are the newcomers of the order. -/
theorem Order.added_revise (hd : (deltas.map (·.product)).Nodup)
    (h : o.revise deltas = .ok revision) : revision.added = o.newcomers deltas := by
  rw [LineItem.added_revise hd h]
  simp only [LineItem.linesOf_eq_nil_iff]
  rfl

theorem Answer.sells_iff {a : Answer} : a.sells ↔ ∃ p, a.verdict = .forSale p := by
  rcases a with (e | p)
  · cases e <;> simp [sells, verdict]
  · by_cases hp : p.available <;> simp [sells, verdict, hp]

/-- Products are judged good just if their answers pass. -/
theorem exists_judge_iff_passes (s : Service) (hlength : answers.length = ids.length) :
    (∃ judged, judge ids answers = .ok judged) ↔ (Encounter.mk s answers).passes := by
  rw [exists_judge_iff, Encounter.passes, List.all_eq_true]
  simp only [Answer.sells_iff]
  have hanswers : answers = (ids.zip answers).map (·.2) :=
    (List.map_snd_zip (Nat.le_of_eq hlength)).symm
  rw [hanswers, List.forall_mem_map, ← hanswers]

theorem Service.outlook?_eq_none {e : OrderError} (h : s.beginRevisionAt ref deltas = .error e) :
    s.outlook? ref.slot deltas = none := by
  refine Option.eq_none_iff_forall_ne_some.2 fun ⟨new, lines⟩ hsome => ?_
  obtain ⟨o, revision, hslot, hpending, hrevise, -⟩ := outlook?_eq_some_iff.1 hsome
  have hok : s.beginRevisionAt ref deltas = .ok (.validating ref deltas revision.added) := by
    rw [beginRevisionAt, hslot]
    exact Stage.ofOrder_eq_ok_iff.2 ⟨hpending, revision, hrevise, rfl⟩
  cases hok.symm.trans h

theorem Stage.ofHeld_of_revise (ref : OrderRef) (candidates : List ProductId)
    (hpending : o.status = .pending) (hrevise : o.revise deltas = .ok revision) :
    ofHeld ref deltas candidates o = .ok (planned ref candidates revision) := by
  have hp : o.requirePending = .ok () := Order.requirePending_eq_ok_iff.2 hpending
  rw [ofHeld, hp, hrevise]
  rfl

/-- A change that comes to its end once it has its first answers was refused, or cannot be made of
what the order has become. -/
theorem Stage.outlook?_eq_none_of_finished {result : Except OrderError Order}
    (hlength : answers.length = candidates.length)
    (h : (Stage.validating ref deltas candidates).resume fresh now s answers =
      .finished s' result) :
    (if (Encounter.mk s answers).passes then s.outlook? ref.slot deltas else none) = none := by
  split
  · next hpasses =>
    obtain ⟨judged, hjudge⟩ := (exists_judge_iff_passes s hlength).2 hpasses
    refine Option.eq_none_iff_forall_ne_some.2 fun ⟨new, lines⟩ hsome => ?_
    obtain ⟨o, revision, hslot, hpending, hrevise, -⟩ := Service.outlook?_eq_some_iff.1 hsome
    simp only [resume, hjudge, hslot, ofHeld_of_revise ref candidates hpending hrevise] at h
    cases h
  · rfl

/-- What a change asks once it is planned on the order that it holds. -/
theorem Call.inquiries_planned (ref : OrderRef) (candidates : List ProductId) (revision : Revision)
    (es : List Encounter) :
    (Call.asking (Stage.planned ref candidates revision)).inquiries ++
        (Call.asking (Stage.planned ref candidates revision)).later es =
      if revision.added.filter (fun id => id ∉ candidates) = [] then
        Purpose.pricing.about (revision.items.map (·.product))
      else Purpose.validation.about (revision.added.filter fun id => id ∉ candidates) ++
        Inquiry.confirmed (revision.items.map (·.product)) es := by
  have hlate : (revision.added.filter fun id => !candidates.contains id) =
      revision.added.filter fun id => id ∉ candidates := by
    simp
  unfold Stage.planned
  dsimp only
  rw [hlate]
  by_cases hnone : (revision.added.filter fun id => id ∉ candidates) = []
  · rw [if_pos hnone, hnone, List.isEmpty_nil, if_pos rfl]
    exact List.append_nil _
  · rw [if_neg hnone, if_neg (by rwa [List.isEmpty_iff])]
    rfl

/-! ## One step -/

theorem Starts.inquiries (h : Starts fresh now s r s' c) (answers : List Answer)
    (es : List Encounter) : r.inquiries (⟨s, answers⟩ :: es) = c.inquiries ++ c.later es := by
  cases h with
  | creating howner hitems =>
    simp only [Request.inquiries, howner, hitems]
    rw [← LineItem.map_product_ofInputs hitems]
    exact (List.append_nil _).symm
  | createFailed hbegin =>
    simp only [Service.beginCreate, Fallible.bind_eq_error_iff, Fallible.pure_ne_error, and_false,
      exists_false, or_false] at hbegin
    rcases hbegin with howner | ⟨owner, howner, hitems⟩
    · simp only [Request.inquiries, howner]
      rfl
    · simp only [Request.inquiries, howner, hitems]
      rfl
  | looking hdeltas hslot =>
    simp only [Request.inquiries, hdeltas, hslot]
    rfl
  | reviseFailed htarget =>
    rw [Service.revisionTarget, Fallible.bind_eq_error_iff] at htarget
    rcases htarget with hdeltas | ⟨deltas, hdeltas, htarget⟩
    · simp only [Request.inquiries, hdeltas]
      rfl
    · split at htarget
      · cases htarget
      · next hslot =>
        simp only [Request.inquiries, hdeltas, hslot]
        rfl
  | acting | actFailed | registered | registerFailed | redeemed | redeemFailed | awarded
  | awardFailed | removed | removeFailed => rfl

theorem Advances.inquiries (h : Advances fresh now answers s c s' c')
    (hserves : Serves s.orders r c) (hlength : answers.length = c.questions.length)
    (es : List Encounter) : c.later (⟨s, answers⟩ :: es) = c'.inquiries ++ c'.later es := by
  cases h with
  | @looked ref deltas o revision hslot hpending hrevise =>
    cases hserves with
    | looking hdeltas _ _ =>
      have houtlook := Service.outlook?_eq_some_iff.2
        ⟨o, revision, hslot, hpending, hrevise, rfl, rfl⟩
      simp only [Call.later, Inquiry.looked, houtlook]
      rw [← Order.added_revise (Delta.nodup_of_ofInputs hdeltas) hrevise]
      rfl
  | lookFailed hfails =>
    simp only [Call.later, Inquiry.looked, Service.outlook?_eq_none hfails]
    rfl
  | @held ref deltas candidates products o revision hjudge hslot hpending hrevise =>
    cases hserves with
    | validating hdeltas _ _ =>
      have hpasses := (exists_judge_iff_passes s hlength).1 ⟨_, hjudge⟩
      have houtlook := Service.outlook?_eq_some_iff.2
        ⟨o, revision, hslot, hpending, hrevise, rfl, rfl⟩
      rw [Call.inquiries_planned, Order.added_revise (Delta.nodup_of_ofInputs hdeltas) hrevise]
      simp only [Call.later, Inquiry.held, hpasses, if_true, houtlook]
  | confirmed hjudge =>
    have hpasses := (exists_judge_iff_passes s hlength).1 ⟨_, hjudge⟩
    simp only [Call.later, Inquiry.confirmed, hpasses, if_true]
    exact (List.append_nil _).symm
  | @askFailed stage e hresume =>
    cases stage with
    | creating | pricing => rfl
    | validating ref deltas candidates =>
      simp only [Call.later, Inquiry.held, Stage.outlook?_eq_none_of_finished hlength hresume]
      rfl
    | confirming ref revision late =>
      have hrefused : ¬ (Encounter.mk s answers).passes := by
        rw [← exists_judge_iff_passes s (show answers.length = late.length from hlength)]
        rintro ⟨judged, hjudge⟩
        simp only [Stage.resume, hjudge] at hresume
        cases hresume
      simp only [Call.later, Inquiry.confirmed, if_neg hrefused]
      rfl
  | revised | placed | submitted | cancelled | actFailed | finished | passedOver | found
  | swept | spared => rfl

/-! ## Nothing is asked twice -/

theorem mem_about_iff {purpose : Purpose} {i : Inquiry} :
    i ∈ purpose.about ids ↔ i.purpose = purpose ∧ i.product ∈ ids := by
  obtain ⟨p, id⟩ := i
  simp [Purpose.about, eq_comm, and_comm]

theorem nodup_about (purpose : Purpose) (h : ids.Nodup) : (purpose.about ids).Nodup :=
  h.map fun _ _ heq => congrArg Inquiry.product heq

/-- On a regular order the outlook names no product twice. -/
theorem nodup_of_outlook? (hr : s.orders.Regular) (hd : (deltas.map (·.product)).Nodup)
    (h : s.outlook? slot deltas = some (new, lines)) : new.Nodup ∧ lines.Nodup := by
  obtain ⟨o, revision, hslot, -, hrevise, rfl, rfl⟩ := Service.outlook?_eq_some_iff.1 h
  have hlines : LineItem.Regular revision.items := LineItem.regular_revise (hr slot o hslot) hrevise
  exact ⟨hd.sublist (List.filter_sublist.map _), hlines.distinct⟩

namespace Inquiry

theorem nodup_confirmed (h : lines.Nodup) : (confirmed lines es).Nodup := by
  cases es with
  | nil => exact List.nodup_nil
  | cons e es =>
    rw [confirmed]
    split
    · exact nodup_about _ h
    · exact List.nodup_nil

theorem purpose_of_mem_confirmed {i : Inquiry} (h : i ∈ confirmed lines es) :
    i.purpose = .pricing := by
  cases es with
  | nil => cases h
  | cons e es =>
    rw [confirmed] at h
    split at h
    · exact (mem_about_iff.1 h).1
    · cases h

/-- Products are validated late only if they have not been validated before. -/
theorem not_mem_of_mem_held {i : Inquiry} (h : i ∈ held slot deltas candidates es)
    (hi : i.purpose = .validation) : i.product ∉ candidates := by
  cases es with
  | nil => cases h
  | cons e es =>
    simp only [held] at h
    split at h
    · cases h
    · split at h
      · cases hi.symm.trans (mem_about_iff.1 h).1
      · rcases List.mem_append.1 h with hlate | hlast
        · simpa using (List.mem_filter.1 (mem_about_iff.1 hlate).2).2
        · cases hi.symm.trans (purpose_of_mem_confirmed hlast)

theorem nodup_held (hr : ∀ e ∈ es, e.service.orders.Regular)
    (hd : (deltas.map (·.product)).Nodup) : (held slot deltas candidates es).Nodup := by
  cases es with
  | nil => exact List.nodup_nil
  | cons e es =>
    simp only [held]
    split
    · exact List.nodup_nil
    · next new lines hsome =>
      obtain ⟨-, houtlook⟩ := Option.ite_none_right_eq_some.1 hsome
      obtain ⟨hnew, hlines⟩ := nodup_of_outlook? (hr e (List.mem_cons_self ..)) hd houtlook
      split
      · exact nodup_about _ hlines
      · refine (nodup_about _ (hnew.filter _)).append (nodup_confirmed hlines) ?_
        intro i hlate hlast
        cases (mem_about_iff.1 hlate).1.symm.trans (purpose_of_mem_confirmed hlast)

theorem nodup_looked (hr : ∀ e ∈ es, e.service.orders.Regular)
    (hd : (deltas.map (·.product)).Nodup) : (looked slot deltas es).Nodup := by
  cases es with
  | nil => exact List.nodup_nil
  | cons e es =>
    rw [List.forall_mem_cons] at hr
    simp only [looked]
    split
    · exact List.nodup_nil
    · next new lines houtlook =>
      have hnew := (nodup_of_outlook? hr.1 hd houtlook).1
      refine (nodup_about _ hnew).append (nodup_held hr.2 hd) ?_
      intro i hfirst hheld
      obtain ⟨hpurpose, hproduct⟩ := mem_about_iff.1 hfirst
      exact not_mem_of_mem_held hheld hpurpose hproduct

end Inquiry

theorem Request.nodup_inquiries (hr : ∀ e ∈ es, e.service.orders.Regular) :
    (r.inquiries es).Nodup := by
  unfold inquiries
  split
  · split
    · exact nodup_about _ (Delta.nodup_eraseDups _)
    · exact List.nodup_nil
  · rw [List.forall_mem_cons] at hr
    split
    · next hdeltas _ => exact Inquiry.nodup_looked hr.2 (Delta.nodup_of_ofInputs hdeltas)
    · exact List.nodup_nil
  · exact List.nodup_nil

/-! ## Runs -/

namespace Switchboard

variable {b b' : Switchboard} {e : Event} {es : List Event} {caller : CallId}

theorem inquiries_cons_of_ne (h : b.step e = some b') (hne : e.call ≠ caller) :
    b.inquiries caller (e :: es) = b'.inquiries caller es := by
  have hnone : b'.inquiry caller e = [] := by
    unfold inquiry
    split
    · exact if_neg hne
    · rfl
  simp only [inquiries, h, hnone]
  rfl

theorem encounters_cons_of_ne (h : b.step e = some b') (hne : e.call ≠ caller) :
    b.encounters caller (e :: es) = b'.encounters caller es := by
  simp only [encounters, h, if_neg hne]
  rfl

theorem inquiries_cons_self (h : b.step e = some b')
    (hc : b'.calls.get? e.call = some ⟨r, c⟩) :
    b.inquiries e.call (e :: es) = c.inquiries ++ b'.inquiries e.call es := by
  simp only [inquiries, h, inquiry, hc, if_true]

theorem encounters_cons_self (h : b.step e = some b') :
    b.encounters e.call (e :: es) = ⟨b.service, e.answers⟩ :: b'.encounters e.call es := by
  simp only [encounters, h, if_true]
  rfl

/-- A call never changes its request. -/
theorem exists_call_of_run (h : b.run es = some b') (hc : b.calls.get? caller = some ⟨r, c⟩) :
    ∃ c', b'.calls.get? caller = some ⟨r, c'⟩ := by
  refine run_preserves (P := fun b => ∃ c, b.calls.get? caller = some ⟨r, c⟩) ?_ ⟨c, hc⟩ h
  rintro b e b' ⟨c, hc⟩ hstep
  by_cases hcall : caller = e.call
  · subst hcall
    cases moves_of_step hstep with
    | start hnew _ => cases hnew.symm.trans hc
    | advance hentry _ _ =>
      cases hentry.symm.trans hc
      exact ⟨_, Table.get?_insert_self ..⟩
  · exact ⟨c, (get?_calls_of_step hstep hcall).trans hc⟩

/-- A call goes on asking by what it finds. -/
theorem inquiries_of_begun (hb : Coherent b) (h : b.run es = some b')
    (hc : b.calls.get? caller = some ⟨r, c⟩) :
    b.inquiries caller es = c.later (b.encounters caller es) := by
  induction es generalizing b c with
  | nil => exact c.later_nil.symm
  | cons e es ih =>
    obtain ⟨b₁, hstep, hrun⟩ := run_cons_eq_some_iff.1 h
    have hb₁ := coherent_step hb hstep
    by_cases hcall : e.call = caller
    · subst hcall
      cases moves_of_step hstep with
      | start hnew _ => cases hnew.symm.trans hc
      | @advance call answers _ _ entry s' c₁ hentry hready hadv =>
        cases hentry.symm.trans hc
        have hc₁ := Table.get?_insert_self b.calls call (⟨r, c₁⟩ : Entry)
        have hlater := hadv.inquiries (hb.serves _ _ hentry) hready.2.1
        rw [inquiries_cons_self hstep hc₁, encounters_cons_self hstep]
        exact (congrArg _ (ih hb₁ hrun hc₁)).trans (hlater _).symm
    · rw [inquiries_cons_of_ne hstep hcall, encounters_cons_of_ne hstep hcall]
      exact ih hb₁ hrun ((get?_calls_of_step hstep (Ne.symm hcall)).trans hc)

/-- A call that begins asks what its request has to ask. -/
theorem inquiries_of_new (hb : Coherent b) (h : b.run es = some b')
    (hnew : b.calls.get? caller = none) (hc : b'.calls.get? caller = some ⟨r, c⟩) :
    b.inquiries caller es = r.inquiries (b.encounters caller es) := by
  induction es generalizing b with
  | nil =>
    cases h
    cases hnew.symm.trans hc
  | cons e es ih =>
    obtain ⟨b₁, hstep, hrun⟩ := run_cons_eq_some_iff.1 h
    have hb₁ := coherent_step hb hstep
    by_cases hcall : e.call = caller
    · subst hcall
      cases moves_of_step hstep with
      | @start call request _ _ _ c₁ _ hstart =>
        have hc₁ := Table.get?_insert_self b.calls call (⟨request, c₁⟩ : Entry)
        obtain ⟨c₂, hc₂⟩ := exists_call_of_run hrun hc₁
        cases hc.symm.trans hc₂
        rw [inquiries_cons_self hstep hc₁, encounters_cons_self hstep, hstart.inquiries]
        exact congrArg _ (inquiries_of_begun hb₁ hrun hc₁)
      | advance hentry _ _ => cases hnew.symm.trans hentry
    · rw [inquiries_cons_of_ne hstep hcall, encounters_cons_of_ne hstep hcall]
      exact ih hb₁ hrun ((get?_calls_of_step hstep (Ne.symm hcall)).trans hnew)

theorem regular_encounters (caller : CallId) (hb : Coherent b) (hr : b.service.orders.Regular)
    (h : b.run es = some b') : ∀ e ∈ b.encounters caller es, e.service.orders.Regular := by
  induction es generalizing b with
  | nil => exact fun e he => absurd he List.not_mem_nil
  | cons e es ih =>
    obtain ⟨b₁, hstep, hrun⟩ := run_cons_eq_some_iff.1 h
    have hrest := ih (coherent_step hb hstep) (regular_step hb hr hstep) hrun
    by_cases hcall : e.call = caller
    · subst hcall
      rw [encounters_cons_self hstep, List.forall_mem_cons]
      exact ⟨hr, hrest⟩
    · rw [encounters_cons_of_ne hstep hcall]
      exact hrest

theorem regular_start (hs : s = .empty ∨ ∃ now, Demo.load now .empty = .ok s) :
    s.orders.Regular := by
  have hempty : Service.empty.orders.Regular := fun slot o ho => by cases ho
  rcases hs with rfl | ⟨now, hload⟩
  · exact hempty
  · exact Demo.regular_of_load hempty hload

/-- **The catalog is asked by rule.**  In every run, whatever the catalog answers and whatever other
calls do meanwhile, a call asks exactly what its request has to ask by what the call finds
(`Request.inquiries`):

* a new order that can be read asks once about each of its products;
* a change asks once about each product that is new on the order when it is first looked at; then,
  only if all these can be bought and the change can still be made, about each product that has
  become new since; and then, only if these can be bought, for the price of each line;
* nothing else asks anything, nor does a request that fails before.

No call asks the same twice.

In a scenario every step but these two is over without a question, those that only read included.
A new order asks nothing if it cannot be read, and otherwise once about each of its products, though
each answer takes its own time or comes too late. -/
theorem catalog_is_asked_by_rule (hs : s = .empty ∨ ∃ now, Demo.load now .empty = .ok s)
    (h : (ofService s).run es = some b) :
    (∀ call r c, b.calls.get? call = some ⟨r, c⟩ →
      (ofService s).inquiries call es = r.inquiries ((ofService s).encounters call es) ∧
      ((ofService s).inquiries call es).Nodup) ∧
    ∀ (ρ : Type) (settings : Scenario.Settings ρ) fuel w raw,
      ((settings.read w.created raw).asks = false →
        (Scenario.playStep settings fuel w raw).2.questions = []) ∧
      ∀ r auth, settings.read w.created raw = .createOrder r auth →
        (∀ e, Service.beginCreate r = .error e →
          (Scenario.playStep settings fuel w raw).2.questions = []) ∧
        ∀ owner items, Service.beginCreate r = .ok (.creating owner items) →
          w.catalog.Silent (items.map (·.product)) → 2 * items.length + 4 ≤ fuel →
          (Scenario.playStep settings fuel w raw).2.questions =
            (items.map (·.product)).map (⟨·, auth⟩) := by
  refine ⟨fun call r c hc => ?_, fun ρ settings fuel w raw => ⟨?_, fun r auth hread => ⟨?_, ?_⟩⟩⟩
  · have hb := coherent_ofService s
    have hrule := inquiries_of_new hb h rfl hc
    have hregular := regular_encounters call hb (regular_start hs) h
    exact ⟨hrule, hrule ▸ Request.nodup_inquiries hregular⟩
  · exact Scenario.playStep_questions settings fuel w raw
  · exact fun e hbegin => Scenario.playStep_createOrder_of_error hread hbegin
  · intro owner items hbegin hsilent hfuel
    obtain ⟨fresh, now, result, -, hquestions, -⟩ :=
      Scenario.playStep_createOrder hread hbegin hsilent hfuel
    exact hquestions

open Rehearsal in
theorem catalog_is_asked_by_rule_when_emptied :
    (ofService .empty).inquiries (call 6) (ordering ++ emptying ++ [refilling]) =
      [⟨.validation, tea.id⟩, ⟨.pricing, tea.id⟩] ∧
    (Request.revise (order 1) [line one]).inquiries
        ((ofService .empty).encounters (call 6) (ordering ++ emptying ++ [refilling])) =
      [⟨.validation, tea.id⟩, ⟨.pricing, tea.id⟩] ∧
    (Request.revise (order 1) [line minusOne]).inquiries
      ((ofService .empty).encounters (call 7) (ordering ++ emptying ++ [refilling])) = [] := by
  have hasked : (ofService .empty).inquiries (call 6) (ordering ++ emptying ++ [refilling]) =
      [⟨.validation, tea.id⟩, ⟨.pricing, tea.id⟩] := by decide
  have hnothing : (ofService .empty).inquiries (call 7) (ordering ++ emptying ++ [refilling]) =
      [] := by decide
  have hrun : ((ofService .empty).run (ordering ++ emptying ++ [refilling])).bind (fun b =>
      (b.calls.get? (call 6)).bind fun e => (b.calls.get? (call 7)).map fun e' =>
        (e.request, e'.request)) =
      some (.revise (order 1) [line one], .revise (order 1) [line minusOne]) := by rfl
  obtain ⟨b, hb, hrun⟩ := Option.bind_eq_some_iff.1 hrun
  obtain ⟨⟨r, c⟩, hc, hrun⟩ := Option.bind_eq_some_iff.1 hrun
  obtain ⟨⟨r', c'⟩, hc', hrequests⟩ := Option.map_eq_some_iff.1 hrun
  cases hrequests
  obtain ⟨hrule, -⟩ := catalog_is_asked_by_rule (.inl rfl) hb
  exact ⟨hasked, (hrule _ _ _ hc).1.symm.trans hasked, (hrule _ _ _ hc').1.symm.trans hnothing⟩

end Switchboard

end OrderDesk
