import OrderDesk.Proofs.Switchboard.History

/-!
# No update is lost

A change of an order is planned once before the order is held and once more afterwards, and other
calls may get in between.  What counts is the second plan: a change commits what its amounts make of
the lines that stand there at that moment, and otherwise it does nothing (`Updates`).  So the lines
of an order are at any time those that come out when the successful changes, and only these, are
made one after the other (`LineItem.replay`), in the order in which they were completed
(`changesAt`).
-/

namespace OrderDesk

/-- The lines after changes as they were requested, made one after the other. -/
def LineItem.replay (items : List LineItem) (changes : List (List LineInput)) :
    Except OrderError (List LineItem) :=
  changes.foldlM (fun items inputs => do
    let deltas ← Delta.ofInputs inputs
    let revision ← revise items deltas
    return revision.items) items

theorem LineItem.replay_cons {items : List LineItem} {inputs : List LineInput}
    {changes : List (List LineInput)} {deltas : List Delta} {revision : Revision}
    (hdeltas : Delta.ofInputs inputs = .ok deltas) (hrevise : revise items deltas = .ok revision) :
    replay items (inputs :: changes) = replay revision.items changes := by
  rw [replay, List.foldlM_cons, hdeltas]
  show (revise items deltas >>= fun revision => pure revision.items) >>= _ = _
  rw [hrevise]
  rfl

/-- The changes of the order in a slot, in the order of their completion. -/
def changesAt (slot : Nat) (cs : List Completion) : List (List LineInput) :=
  cs.filterMap fun c =>
    match c.request with
    | .revise _ inputs => if c.slot = slot then some inputs else none
    | _ => none

/-- A change is made: the order that stands in a slot gets the lines which the change makes of its
lines, and this order is the result. -/
def Updates (s : Service) (id : OrderId) (inputs : List LineInput) (s' : Service) (o' : Order) :
    Prop :=
  ∃ slot deltas o revision, Delta.ofInputs inputs = .ok deltas ∧
    s.orders.atSlot? slot = some o ∧ o.id = id ∧ o.status = .pending ∧
    o.revise deltas = .ok revision ∧ o' = { o with items := revision.items, total := o'.total } ∧
    s' = { s with orders := s.orders.put slot o' } ∧ s'.orders.atSlot? slot = some o'

namespace Switchboard

variable {s : Service} {b b' : Switchboard} {e : Event} {es es' : List Event}

/-- A step of a change makes the change and ends, or it leaves the service alone. -/
theorem updates_of_step (hb : Coherent b) (h : b.step e = some b') {id : OrderId}
    {inputs : List LineInput} {c : Call} (hc : b'.calls.get? e.call = some ⟨.revise id inputs, c⟩) :
    (∃ o, c = .ended (.order (.ok o)) ∧ Updates b.service id inputs b'.service o) ∨
      (∀ o, c ≠ .ended (.order (.ok o))) ∧ b'.service = b.service := by
  cases moves_of_step h with
  | start hnew hstart =>
    cases (Table.get?_insert_self ..).symm.trans hc
    exact Or.inr hstart.revises.symm
  | @advance call answers fresh now entry s' c hentry hready hadv =>
    obtain ⟨request, before⟩ := entry
    cases (Table.get?_insert_self ..).symm.trans hc
    rcases hadv.revises (hb.serves call _ hentry) with h |
      ⟨ref, revision, total, deltas, o, -, hdeltas, hslot, hid, hpending, hrevise, rfl, rfl⟩
    · exact Or.inr h.symm
    · left
      exact ⟨_, rfl, ref.slot, deltas, o, revision, hdeltas, hslot, hid, hpending, hrevise, rfl,
        rfl, OrderBook.atSlot?_put_self _ hslot⟩

/-- What an event makes of an order: it makes the change that it completes on it, if any. -/
theorem replay_of_step (hb : Coherent b) (h : b.step e = some b') {slot : Nat} {o : Order}
    (hslot : b.service.orders.atSlot? slot = some o) :
    ∃ o', b'.service.orders.atSlot? slot = some o' ∧ o'.id = o.id ∧
      ∀ changes, LineItem.replay o.items (changesAt slot (b.completion? b' e).toList ++ changes) =
        LineItem.replay o'.items changes := by
  cases commits_of_step hb h with
  | nothing hnone hbill =>
    obtain ⟨o', ho', heq⟩ := OrderBook.exists_of_bill (hbill slot) hslot
    obtain ⟨hid, hitems, -⟩ := Order.bill_eq_iff.1 heq
    refine ⟨o', ho', hid, fun changes => ?_⟩
    rw [hnone, hitems]
    rfl
  | creation _ _ _ _ horders hsome =>
    refine ⟨o, horders ▸ OrderBook.atSlot?_insert_of_some _ hslot, rfl, fun changes => ?_⟩
    rw [hsome]
    rfl
  | @revision call ref inputs deltas revision answers total o₁ hdeltas hslot₁ _ hrevise _ _ horders
      hsome =>
    by_cases heq : ref.slot = slot
    · subst heq
      cases hslot.symm.trans hslot₁
      refine ⟨_, horders ▸ OrderBook.atSlot?_put_self _ hslot, Order.apply_id .., ?_⟩
      intro changes
      rw [hsome, Option.toList_some]
      simp only [changesAt, List.filterMap_cons, List.filterMap_nil, if_true]
      exact LineItem.replay_cons hdeltas hrevise
    · refine ⟨o, ?_, rfl, fun changes => ?_⟩
      · rw [horders, OrderBook.atSlot?_put_of_ne _ _ heq, hslot]
      · rw [hsome, Option.toList_some]
        simp only [changesAt, List.filterMap_cons, List.filterMap_nil, if_neg heq]
        rfl

/-- The lines of an order at the end of a run are what the changes completed in the run make of
them, one after the other. -/
theorem replay_of_run (hb : Coherent b) (h : b.run es = some b') {slot : Nat} {o : Order}
    (hslot : b.service.orders.atSlot? slot = some o) :
    ∃ o', b'.service.orders.atSlot? slot = some o' ∧ o'.id = o.id ∧
      LineItem.replay o.items (changesAt slot (b.completions es)) = .ok o'.items := by
  induction es generalizing b o with
  | nil =>
    cases h
    exact ⟨o, hslot, rfl, rfl⟩
  | cons e es ih =>
    obtain ⟨b₁, hstep, hrun⟩ := run_cons_eq_some_iff.1 h
    obtain ⟨o₁, hslot₁, hid₁, hreplay₁⟩ := replay_of_step hb hstep hslot
    obtain ⟨o', hslot', hid', hreplay⟩ := ih (coherent_step hb hstep) hrun hslot₁
    refine ⟨o', hslot', hid'.trans hid₁, ?_⟩
    have hsplit : changesAt slot (b.completions (e :: es)) =
        changesAt slot (b.completion? b₁ e).toList ++ changesAt slot (b₁.completions es) := by
      rw [completions_cons hstep]
      exact List.filterMap_append
    rw [hsplit, hreplay₁, hreplay]

/-- **No update is lost**, in whatever order the steps of the calls come.  A change that succeeds
makes what it has to of the lines as they stand at that moment, and its caller gets the order as it
then is; a change that fails does nothing.  So the lines of an order after a run are those before it
with the changes completed meanwhile made on them, each of them once and in their order, and these
are the changes of exactly those calls that came to a good end. -/
theorem no_update_is_lost (h : (ofService s).run es = some b) (h' : b.run es' = some b') :
    (∀ e b₁ id inputs c, b.step e = some b₁ →
      b₁.calls.get? e.call = some ⟨.revise id inputs, c⟩ →
      (∃ o, c = .ended (.order (.ok o)) ∧ Updates b.service id inputs b₁.service o) ∨
        (∀ o, c ≠ .ended (.order (.ok o))) ∧ b₁.service = b.service) ∧
    (∀ slot o, b.service.orders.atSlot? slot = some o →
      ∃ o', b'.service.orders.atSlot? slot = some o' ∧ o'.id = o.id ∧
        LineItem.replay o.items (changesAt slot (b.completions es')) = .ok o'.items) ∧
    ((b.completions es').map (·.call)).Nodup ∧
    ∀ call id inputs o,
      (∃ c ∈ b.completions es', c.call = call ∧ c.request = .revise id inputs ∧ c.order = o) ↔
        b.Open call ∧
          b'.calls.get? call = some ⟨.revise id inputs, .ended (.order (.ok o))⟩ := by
  have hb : Coherent b := coherent_run h
  refine ⟨fun e b₁ id inputs c hstep hc => updates_of_step hb hstep hc,
    fun slot o hslot => replay_of_run hb h' hslot, nodup_completions h', ?_⟩
  intro call id inputs o
  constructor
  · rintro ⟨c, hmem, rfl, hrequest, rfl⟩
    obtain ⟨hresult, hopen⟩ := mem_completions h' hmem
    exact ⟨hopen, hrequest ▸ hresult⟩
  · rintro ⟨hopen, hresult⟩
    exact exists_completion hb h' hopen hresult

open Rehearsal in
theorem no_update_is_lost_when_overtaking :
    ∃ b b' o', (ofService .empty).run (ordering ++ looking) = some b ∧
      b.run overtaking = some b' ∧ b'.service.orders.atSlot? 0 = some o' ∧
      changesAt 0 (b.completions overtaking) = [[line two], [line one]] ∧
      LineItem.replay [⟨tea.id, ⟨1, by decide, by decide⟩⟩] [[line two], [line one]] =
        .ok o'.items ∧
      o'.items = [⟨tea.id, ⟨4, by decide, by decide⟩⟩] := by
  have hrun : ((ofService .empty).run (ordering ++ looking)).isSome := by decide
  obtain ⟨b, hb⟩ := Option.isSome_iff_exists.1 hrun
  have hb' : ((ofService .empty).run (ordering ++ looking ++ overtaking)).isSome := by decide
  rw [run_append, hb, Option.bind_some, Option.isSome_iff_exists] at hb'
  obtain ⟨b', hb'⟩ := hb'
  have horder : ((ofService .empty).run (ordering ++ looking)).bind
      (fun b => (b.service.orders.atSlot? 0).map (·.items)) =
        some [⟨tea.id, ⟨1, by decide, by decide⟩⟩] := by decide
  have hchanges : ((ofService .empty).run (ordering ++ looking)).map
      (fun b => changesAt 0 (b.completions overtaking)) = some [[line two], [line one]] := by decide
  rw [hb, Option.bind_some, Option.map_eq_some_iff] at horder
  rw [hb, Option.map_some, Option.some.injEq] at hchanges
  obtain ⟨o, ho, hitems⟩ := horder
  obtain ⟨o', ho', -, hreplay⟩ := (no_update_is_lost hb hb').2.1 0 o ho
  rw [hchanges, hitems] at hreplay
  have hfour : LineItem.replay [⟨tea.id, ⟨1, by decide, by decide⟩⟩] [[line two], [line one]] =
      .ok [⟨tea.id, ⟨4, by decide, by decide⟩⟩] := by decide
  exact ⟨b, b', o', hb, hb', ho', hchanges, hreplay, Except.ok.inj (hreplay.symm.trans hfour)⟩

end Switchboard

end OrderDesk
