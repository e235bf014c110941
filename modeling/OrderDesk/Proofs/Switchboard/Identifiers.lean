import Mathlib.Data.List.Nodup
import OrderDesk.Proofs.Switchboard.Steps

/-!
# Identifiers that are given out

New users and new orders get identifiers that were drawn at random, and it is taken for granted that
no identifier is ever drawn twice.  For a run this means: the identifiers that are given out in it
(`Switchboard.given`) are all different, and none of them is one that the service had at the
beginning (`Service.ids`).  `NeverRepeats` says both at once.

`run_preserves_known` is the induction for such runs: an event may use that the identifier which it
gives out is not among those that have been known before.
-/

namespace OrderDesk

/-- The identifiers of the orders and of the users. -/
def Service.ids (s : Service) : List Uuid :=
  s.orders.orders.map (·.id) ++ s.users.entries.map (·.1)

namespace Switchboard

/-- The identifier that an event gives out: to a user who registers, or to a new order whose answers
have come. -/
def given? (b : Switchboard) : Event → Option Uuid
  | .start _ (.register _) fresh _ => some fresh
  | .start _ _ _ _ => none
  | .advance id _ fresh _ =>
    match b.calls.get? id with
    | some ⟨_, .asking (.creating _ _)⟩ => some fresh
    | _ => none

/-- The identifiers that are given out in a run, in their order. -/
def given (b : Switchboard) : List Event → List Uuid
  | [] => []
  | e :: es =>
    match b.step e with
    | none => []
    | some b' => (b.given? e).toList ++ b'.given es

/-- No identifier is given out twice, and none that the service has at the beginning. -/
def NeverRepeats (s : Service) (es : List Event) : Prop :=
  (s.ids ++ (ofService s).given es).Nodup

instance (s : Service) (es : List Event) : Decidable (NeverRepeats s es) :=
  inferInstanceAs (Decidable (s.ids ++ (ofService s).given es).Nodup)

variable {s : Service} {b b' : Switchboard} {e : Event} {es es' : List Event}

theorem given_cons (h : b.step e = some b') :
    b.given (e :: es) = (b.given? e).toList ++ b'.given es := by
  rw [given, h]

theorem given_append (h : b.run es = some b') :
    b.given (es ++ es') = b.given es ++ b'.given es' := by
  induction es generalizing b with
  | nil =>
    cases h
    rfl
  | cons e es ih =>
    obtain ⟨b₁, hstep, hrun⟩ := run_cons_eq_some_iff.1 h
    rw [List.cons_append, given_cons hstep, given_cons hstep, ih hrun, List.append_assoc]

/-- What is said of a run is said of its beginning. -/
theorem NeverRepeats.left (hids : NeverRepeats s (es ++ es')) (h : (ofService s).run es = some b) :
    NeverRepeats s es := by
  unfold NeverRepeats at hids
  rw [given_append h, ← List.append_assoc] at hids
  exact hids.of_append_left

/-- An identifier that is given out first was not known before. -/
theorem not_mem_of_nodup {known rest : List Uuid}
    (hids : (known ++ (b.given? e).toList ++ rest).Nodup) : ∀ id ∈ b.given? e, id ∉ known := by
  intro id hid hknown
  have hdisjoint := List.disjoint_of_nodup_append hids.of_append_left
  exact hdisjoint hknown (Option.mem_toList.2 hid)

/-- What each event keeps, if it gives out no known identifier, holds at the end of a run in which
no identifier is given out twice. -/
theorem run_preserves_known {P : Switchboard → List Uuid → Prop}
    (step : ∀ b known e b', P b known → b.step e = some b' → (∀ id ∈ b.given? e, id ∉ known) →
      P b' (known ++ (b.given? e).toList))
    {known : List Uuid} (hids : (known ++ b.given es).Nodup) (hb : P b known)
    (h : b.run es = some b') : P b' (known ++ b.given es) := by
  induction es generalizing b known with
  | nil =>
    cases h
    rw [given, List.append_nil]
    exact hb
  | cons e es ih =>
    obtain ⟨b₁, hstep, hrun⟩ := run_cons_eq_some_iff.1 h
    rw [given_cons hstep, ← List.append_assoc] at hids ⊢
    exact ih hids (step b known e b₁ hb hstep (not_mem_of_nodup hids)) hrun

/-! ## A rehearsal with a user -/

namespace Rehearsal

def john : Registration := ⟨"johndoe", "john.doe@example.com", "John", "Doe"⟩

def user (n : Nat) : UserId := .ofNat n

/-- A user registers and orders one tea. -/
def buying : List Event :=
  [.start (call 6) (.register john) (user 9) midnight,
    .start (call 7) (.create ⟨some "00000000-0000-0000-0000-000000000009", [line one]⟩) .nil
      midnight,
    .advance (call 7) [.ok tea] (order 2) midnight]

/-- A user is deleted, in so many steps after the first. -/
def deleting (u : UserId) (steps : Nat) : List Event :=
  .start (call 9) (.deleteUser u) .nil midnight ::
    List.replicate steps (.advance (call 9) [] .nil midnight)

end Rehearsal

end Switchboard

end OrderDesk
