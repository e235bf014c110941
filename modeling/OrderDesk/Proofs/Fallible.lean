import Mathlib.Data.List.Forall2
import Mathlib.Data.List.Induction

/-!
# Chains of steps that may fail

Most rules of the desk are chains of steps each of which may fail.  A chain that succeeds can be
taken apart (`bind_eq_ok_iff`), and what every step of a loop keeps, the whole loop keeps
(`foldlM_preserves`, `forall₂_of_mapM`).

A loop fails with the failure of its first bad member (`FirstFault`).  Whether a member is bad may
depend on those before it, so it can be told without the loop only if it is known what the loop has
come to by then (`exists_foldlM_iff`, `foldlM_eq_error_iff`).
-/

namespace OrderDesk.Fallible

variable {ε α β : Type}

theorem bind_eq_ok_iff {x : Except ε α} {f : α → Except ε β} {b : β} :
    x >>= f = .ok b ↔ ∃ a, x = .ok a ∧ f a = .ok b := by
  cases x with
  | error e => simp [bind, Except.bind]
  | ok a => simp [bind, Except.bind]

theorem bind_eq_error_iff {x : Except ε α} {f : α → Except ε β} {e : ε} :
    x >>= f = .error e ↔ x = .error e ∨ ∃ a, x = .ok a ∧ f a = .error e := by
  cases x with
  | error e => simp [bind, Except.bind]
  | ok a => simp [bind, Except.bind]

theorem pure_eq_ok_iff {a b : α} : (pure a : Except ε α) = .ok b ↔ a = b := by
  simp [pure, Except.pure]

theorem pure_ne_error {a : α} {e : ε} : (pure a : Except ε α) = .error e ↔ False := by
  simp [pure, Except.pure]

/-- A step that finds something goes on with it. -/
theorem bind_of_eq_some {x : Option α} {a : α} (h : x = some a) (f : α → Option β) :
    x >>= f = f a := by
  rw [h]
  rfl

/-- In a chain of checks the first one that fails decides.  The failures of the checks are listed in
their order, and `P` says which of them apply. -/
theorem bind_eq_error_iff_find? {P : ε → Prop} [DecidablePred P] {x : Except ε α}
    {f : α → Except ε β} {first e : ε} {rest : List ε} (fails : P first → x = .error first)
    (passes : ¬ P first → ∃ a, x = .ok a ∧ (f a = .error e ↔ rest.find? (P ·) = some e)) :
    x >>= f = .error e ↔ (first :: rest).find? (P ·) = some e := by
  by_cases h : P first
  · rw [fails h, List.find?_cons_of_pos (by simpa using h)]
    simp [bind, Except.bind]
  · obtain ⟨a, rfl, hrest⟩ := passes h
    rw [List.find?_cons_of_neg (by simpa using h)]
    exact hrest

/-- What each step of a loop keeps holds at its end. -/
theorem foldlM_preserves {P : β → Prop} {f : β → α → Except ε β}
    (step : ∀ b a b', P b → f b a = .ok b' → P b') {l : List α} {b b' : β} (hP : P b)
    (h : l.foldlM f b = .ok b') : P b' := by
  induction l generalizing b with
  | nil =>
    rw [List.foldlM_nil, pure_eq_ok_iff] at h
    exact h ▸ hP
  | cons a l ih =>
    rw [List.foldlM_cons, bind_eq_ok_iff] at h
    obtain ⟨c, hc, hrest⟩ := h
    exact ih (step b a c hP hc) hrest

/-- A loop over the members of a list that succeeds gives a result for each of them. -/
theorem forall₂_of_mapM {f : α → Except ε β} {l : List α} {l' : List β} (h : l.mapM f = .ok l') :
    List.Forall₂ (fun a b => f a = .ok b) l l' := by
  induction l generalizing l' with
  | nil =>
    rw [List.mapM_nil, pure_eq_ok_iff] at h
    exact h ▸ .nil
  | cons a l ih =>
    rw [List.mapM_cons, bind_eq_ok_iff] at h
    obtain ⟨b, hb, h⟩ := h
    rw [bind_eq_ok_iff] at h
    obtain ⟨bs, hbs, h⟩ := h
    rw [pure_eq_ok_iff] at h
    exact h ▸ .cons hb (ih hbs)

/-! ## The first fault -/

/-- No member of a list has a fault.  What is a fault may depend on the members before it. -/
def Faultless (fault? : List α → α → Option ε) (l : List α) : Prop :=
  ∀ before a after, l = before ++ a :: after → fault? before a = none

/-- The first member of a list that has a fault has the fault `e`. -/
def FirstFault (fault? : List α → α → Option ε) (l : List α) (e : ε) : Prop :=
  ∃ before a after, l = before ++ a :: after ∧ fault? before a = some e ∧ Faultless fault? before

variable {fault? : List α → α → Option ε} {f : β → α → Except ε β} {start : β} {l : List α} {a : α}
  {e : ε}

theorem FirstFault.ne_nil (h : FirstFault fault? l e) : l ≠ [] := by
  obtain ⟨before, a, after, rfl, -⟩ := h
  simp

theorem faultless_nil : Faultless fault? [] :=
  fun before a after h => absurd h (by simp)

/-- A member of a list that has one more at its end is that one, or a member of the list. -/
theorem concat_eq_append_cons_iff {before after : List α} {x : α} :
    l ++ [a] = before ++ x :: after ↔
      l = before ∧ a = x ∧ after = [] ∨ ∃ rest, after = rest ++ [a] ∧ l = before ++ x :: rest := by
  cases after using List.reverseRecOn with
  | nil => simp
  | append_singleton rest b =>
    rw [← List.cons_append, ← List.append_assoc]
    constructor
    · intro h
      obtain ⟨hl, hb⟩ := List.append_inj' h rfl
      cases hb
      exact Or.inr ⟨rest, rfl, hl⟩
    · rintro (⟨-, -, h⟩ | ⟨rest', h, rfl⟩)
      · simp at h
      · obtain ⟨rfl, hb⟩ := List.append_inj' h rfl
        cases hb
        rfl

theorem faultless_concat_iff :
    Faultless fault? (l ++ [a]) ↔ Faultless fault? l ∧ fault? l a = none := by
  constructor
  · intro h
    exact ⟨fun before x after hl => h before x (after ++ [a]) (by rw [hl]; simp), h l a [] rfl⟩
  · rintro ⟨hl, ha⟩ before x after heq
    rcases concat_eq_append_cons_iff.1 heq with ⟨rfl, rfl, -⟩ | ⟨rest, -, hrest⟩
    · exact ha
    · exact hl before x rest hrest

theorem firstFault_concat_iff :
    FirstFault fault? (l ++ [a]) e ↔
      FirstFault fault? l e ∨ Faultless fault? l ∧ fault? l a = some e := by
  constructor
  · rintro ⟨before, x, after, heq, hfault, hbefore⟩
    rcases concat_eq_append_cons_iff.1 heq with ⟨rfl, rfl, -⟩ | ⟨rest, -, hrest⟩
    · exact Or.inr ⟨hbefore, hfault⟩
    · exact Or.inl ⟨before, x, rest, hrest, hfault, hbefore⟩
  · rintro (⟨before, x, after, rfl, hfault, hbefore⟩ | ⟨hl, ha⟩)
    · exact ⟨before, x, after ++ [a], by simp, hfault, hbefore⟩
    · exact ⟨l, a, [], rfl, ha, hl⟩

/-- A loop gets to its end just if no member has a fault, where a member has a fault just if the
step with it fails. -/
theorem exists_foldlM_iff
    (hstep : ∀ before a b e, before.foldlM f start = .ok b →
      (f b a = .error e ↔ fault? before a = some e)) (l : List α) :
    (∃ b, l.foldlM f start = .ok b) ↔ Faultless fault? l := by
  induction l using List.reverseRecOn with
  | nil => exact ⟨fun _ => faultless_nil, fun _ => ⟨start, rfl⟩⟩
  | append_singleton l a ih =>
    rw [faultless_concat_iff, ← ih, List.foldlM_append]
    simp only [List.foldlM_cons, List.foldlM_nil, bind_pure, bind_eq_ok_iff]
    constructor
    · rintro ⟨b', b, hb, ha⟩
      refine ⟨⟨b, hb⟩, Option.eq_none_iff_forall_ne_some.2 fun e he => ?_⟩
      rw [(hstep l a b e hb).2 he] at ha
      cases ha
    · rintro ⟨⟨b, hb⟩, hnone⟩
      cases ha : f b a with
      | ok b' => exact ⟨b', b, hb, ha⟩
      | error e =>
        rw [(hstep l a b e hb).1 ha] at hnone
        cases hnone

/-- **A loop fails with the first fault**, where a member has a fault just if the step with it
fails. -/
theorem foldlM_eq_error_iff
    (hstep : ∀ before a b e, before.foldlM f start = .ok b →
      (f b a = .error e ↔ fault? before a = some e)) :
    l.foldlM f start = .error e ↔ FirstFault fault? l e := by
  induction l using List.reverseRecOn with
  | nil =>
    constructor
    · intro h
      cases h
    · intro h
      exact absurd rfl h.ne_nil
  | append_singleton l a ih =>
    rw [firstFault_concat_iff, ← ih, ← exists_foldlM_iff hstep, List.foldlM_append]
    simp only [List.foldlM_cons, List.foldlM_nil, bind_pure, bind_eq_error_iff]
    refine or_congr_right ⟨?_, ?_⟩
    · rintro ⟨b, hb, ha⟩
      exact ⟨⟨b, hb⟩, (hstep l a b e hb).1 ha⟩
    · rintro ⟨⟨b, hb⟩, ha⟩
      exact ⟨b, hb, (hstep l a b e hb).2 ha⟩

end OrderDesk.Fallible
