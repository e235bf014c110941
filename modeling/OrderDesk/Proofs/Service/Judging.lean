import OrderDesk.Proofs.Service.Steady

/-!
# Judging many answers at once

An answer means one of four things for someone who wants to buy the product (`Verdict`), and
products are judged by the verdicts on them alone (`ofAnswers_zipWith`): the first outage decides
(`judge_of_reason`), without one all missing products are named (`judge_of_missing`), without these
all withdrawn ones (`judge_of_withdrawn`), and otherwise everything can be bought
(`exists_judge_iff`).
-/

namespace OrderDesk

/-- What an answer means for someone who wants to buy the product. -/
inductive Verdict where
  | forSale (p : Product)
  /-- The product is known, but not for sale. -/
  | withdrawn
  /-- There is no such product. -/
  | missing
  /-- The catalog could not be asked, or gave no answer in time. -/
  | outage (reason : String)
deriving DecidableEq

/-- The reason why the catalog could not be asked. -/
def Verdict.reason? : Verdict → Option String
  | .outage reason => some reason
  | _ => none

/-- What an answer means for someone who wants to buy the product. -/
def Answer.verdict : Answer → Verdict
  | .ok p => if p.available then .forSale p else .withdrawn
  | .error (.notFound _) => .missing
  | .error (.notPurchasable _ _) => .withdrawn
  | .error (.unavailable reason) => .outage reason

/-- The products with the verdict `v`. -/
def judgedTo (v : Verdict) (qs : List (ProductId × Answer)) : List ProductId :=
  (qs.filter fun q => q.2.verdict = v).map (·.1)

/-- The reason of the first outage. -/
def firstReason? (qs : List (ProductId × Answer)) : Option String :=
  qs.findSome? fun q => q.2.verdict.reason?

variable {ids : List ProductId} {answers : List Answer} {qs : List (ProductId × Answer)}
  {id : ProductId} {a : Answer} {p : Product} {reason : String}

theorem Answer.verdict_eq_forSale_iff : a.verdict = .forSale p ↔ a = .ok p ∧ p.available := by
  rcases a with (e | q)
  · cases e <;> simp [verdict]
  · by_cases hq : q.available
    · simp only [verdict, hq, if_true, Verdict.forSale.injEq, Except.ok.injEq]
      exact ⟨fun h => ⟨h, h ▸ hq⟩, And.left⟩
    · simp only [verdict, hq, Except.ok.injEq]
      exact ⟨fun h => (by cases h), fun ⟨h, hp⟩ => absurd (h ▸ hp) hq⟩

/-- What can be bought is what there is no other verdict on. -/
theorem Answer.exists_forSale_iff :
    (∃ p, a.verdict = .forSale p) ↔
      a.verdict.reason? = none ∧ a.verdict ≠ .missing ∧ a.verdict ≠ .withdrawn := by
  cases a.verdict <;> simp [Verdict.reason?]

/-! ## Taking notes -/

theorem judgedTo_cons (v : Verdict) (q : ProductId × Answer) (qs : List (ProductId × Answer)) :
    judgedTo v (q :: qs) = judgedTo v [q] ++ judgedTo v qs := by
  rw [judgedTo, judgedTo, judgedTo, ← List.map_append, ← List.filter_append,
    List.singleton_append]

theorem firstReason?_cons (q : ProductId × Answer) (qs : List (ProductId × Answer)) :
    firstReason? (q :: qs) = q.2.verdict.reason?.or (firstReason? qs) := by
  rw [firstReason?, List.findSome?_cons, ← firstReason?]
  cases q.2.verdict.reason? <;> rfl

namespace Complaints

theorem note_forSale (c : Complaints) (q : ProductId × Answer) :
    c.note (q.1, q.2.forSale q.1) =
      ⟨c.unavailable.or q.2.verdict.reason?, c.missing ++ judgedTo .missing [q],
        c.notForSale ++ judgedTo .withdrawn [q]⟩ := by
  obtain ⟨id, a⟩ := q
  rcases a with (e | p)
  · cases e <;> simp [note, Answer.forSale, Answer.verdict, Verdict.reason?, judgedTo]
  · by_cases hp : p.available <;>
      simp [note, Answer.forSale, Answer.verdict, Verdict.reason?, judgedTo, hp]

theorem foldl_note (qs : List (ProductId × Answer)) (c : Complaints) :
    (qs.map fun q => (q.1, q.2.forSale q.1)).foldl note c =
      ⟨c.unavailable.or (firstReason? qs), c.missing ++ judgedTo .missing qs,
        c.notForSale ++ judgedTo .withdrawn qs⟩ := by
  induction qs generalizing c with
  | nil => simp [firstReason?, judgedTo]
  | cons q qs ih =>
    rw [List.map_cons, List.foldl_cons, note_forSale, ih, judgedTo_cons .missing q qs,
      judgedTo_cons .withdrawn q qs, firstReason?_cons]
    dsimp only
    rw [Option.or_assoc, List.append_assoc, List.append_assoc]

/-- The complaints about some products are the verdicts on them. -/
theorem ofAnswers_zipWith (ids : List ProductId) (answers : List Answer) :
    ofAnswers (List.zipWith (fun id a => (id, Answer.forSale id a)) ids answers) =
      ⟨firstReason? (ids.zip answers), judgedTo .missing (ids.zip answers),
        judgedTo .withdrawn (ids.zip answers)⟩ := by
  rw [← List.map_uncurry_zip_eq_zipWith, ofAnswers]
  exact foldl_note (ids.zip answers) ⟨none, [], []⟩

end Complaints

/-! ## The verdict on all products together -/

theorem judge_of_reason (h : firstReason? (ids.zip answers) = some reason) :
    judge ids answers = .error (.catalogUnavailable reason) := by
  simp only [judge, Complaints.ofAnswers_zipWith, Complaints.failure?, h]

theorem judge_of_missing (hreason : firstReason? (ids.zip answers) = none)
    (h : judgedTo .missing (ids.zip answers) ≠ []) :
    judge ids answers = .error (.invalidProducts (judgedTo .missing (ids.zip answers))) := by
  simp only [judge, Complaints.ofAnswers_zipWith, Complaints.failure?, hreason, if_pos h]

theorem judge_of_withdrawn (hreason : firstReason? (ids.zip answers) = none)
    (hmissing : judgedTo .missing (ids.zip answers) = [])
    (h : judgedTo .withdrawn (ids.zip answers) ≠ []) :
    judge ids answers = .error (.notPurchasable (judgedTo .withdrawn (ids.zip answers))) := by
  simp only [judge, Complaints.ofAnswers_zipWith, Complaints.failure?, hreason, hmissing, if_pos h,
    ne_eq, not_true_eq_false, if_false]

theorem exists_judge_of_good (hreason : firstReason? (ids.zip answers) = none)
    (hmissing : judgedTo .missing (ids.zip answers) = [])
    (hwithdrawn : judgedTo .withdrawn (ids.zip answers) = []) :
    ∃ judged, judge ids answers = .ok judged := by
  simp only [judge, Complaints.ofAnswers_zipWith, Complaints.failure?, hreason, hmissing,
    hwithdrawn, ne_eq, not_true_eq_false, if_false]
  exact ⟨_, rfl⟩

theorem judge_eq_error {e : OrderError} (h : judge ids answers = .error e) :
    (∃ reason, firstReason? (ids.zip answers) = some reason ∧ e = .catalogUnavailable reason) ∨
      e = .invalidProducts (judgedTo .missing (ids.zip answers)) ∨
      e = .notPurchasable (judgedTo .withdrawn (ids.zip answers)) := by
  cases hreason : firstReason? (ids.zip answers) with
  | some reason =>
    cases h.symm.trans (judge_of_reason hreason)
    exact Or.inl ⟨reason, rfl, rfl⟩
  | none =>
    by_cases hmissing : judgedTo .missing (ids.zip answers) = []
    · by_cases hwithdrawn : judgedTo .withdrawn (ids.zip answers) = []
      · obtain ⟨judged, hjudged⟩ := exists_judge_of_good hreason hmissing hwithdrawn
        cases h.symm.trans hjudged
      · cases h.symm.trans (judge_of_withdrawn hreason hmissing hwithdrawn)
        exact Or.inr (Or.inr rfl)
    · cases h.symm.trans (judge_of_missing hreason hmissing)
      exact Or.inr (Or.inl rfl)

theorem judgedTo_eq_nil_iff {v : Verdict} : judgedTo v qs = [] ↔ ∀ q ∈ qs, q.2.verdict ≠ v := by
  simp [judgedTo]

theorem firstReason?_eq_none_iff : firstReason? qs = none ↔ ∀ q ∈ qs, q.2.verdict.reason? = none :=
  List.findSome?_eq_none_iff

/-- Products are judged good just if each of them can be bought. -/
theorem exists_judge_iff :
    (∃ judged, judge ids answers = .ok judged) ↔
      ∀ q ∈ ids.zip answers, ∃ p, q.2.verdict = .forSale p := by
  simp only [Answer.exists_forSale_iff, forall₂_and, ← judgedTo_eq_nil_iff,
    ← firstReason?_eq_none_iff]
  constructor
  · rintro ⟨judged, hjudged⟩
    have hno : ∀ {e}, judge ids answers ≠ .error e := fun h => by cases hjudged.symm.trans h
    have hreason : firstReason? (ids.zip answers) = none :=
      Option.eq_none_iff_forall_ne_some.2 fun reason h => hno (judge_of_reason h)
    have hmissing : judgedTo .missing (ids.zip answers) = [] :=
      not_not.1 fun h => hno (judge_of_missing hreason h)
    exact ⟨hreason, hmissing, not_not.1 fun h => hno (judge_of_withdrawn hreason hmissing h)⟩
  · rintro ⟨hreason, hmissing, hwithdrawn⟩
    exact exists_judge_of_good hreason hmissing hwithdrawn

/-! ## A catalog that answers about each product -/

variable {answer : ProductId → Answer}

theorem judgedTo_zip_map (v : Verdict) (ids : List ProductId) (answer : ProductId → Answer) :
    judgedTo v (ids.zip (ids.map answer)) = ids.filter fun id => (answer id).verdict = v := by
  rw [zip_map_answer, judgedTo, List.filter_map, List.map_map]
  exact List.map_id' _

theorem firstReason?_zip_map (ids : List ProductId) (answer : ProductId → Answer) :
    firstReason? (ids.zip (ids.map answer)) =
      ids.findSome? fun id => (answer id).verdict.reason? := by
  rw [zip_map_answer, firstReason?, List.findSome?_map]
  rfl

/-- Products that are judged good are each given as the catalog answered. -/
theorem judge_map_eq_ok {judged : List (ProductId × Product)}
    (h : judge ids (ids.map answer) = .ok judged) :
    judged.map (·.1) = ids ∧ ∀ q ∈ judged, answer q.1 = .ok q.2 ∧ q.2.available := by
  obtain ⟨products, hanswers, hlength, rfl⟩ := judge_eq_ok (List.length_map _) h
  refine ⟨List.map_fst_zip (Nat.le_of_eq hlength.symm), fun q hq => ?_⟩
  have hmem : (q.1, (.ok q.2 : Answer)) ∈ ids.zip (ids.map answer) := by
    rw [hanswers, List.zip_map_right]
    exact List.mem_map_of_mem hq
  obtain ⟨p, hp⟩ := exists_judge_iff.1 ⟨_, h⟩ _ hmem
  obtain ⟨id, -, hid⟩ := List.mem_map.1 (zip_map_answer ids answer ▸ hmem)
  obtain ⟨rfl, hanswer⟩ := Prod.mk.inj hid
  obtain ⟨heq, havailable⟩ := Answer.verdict_eq_forSale_iff.1 hp
  cases heq
  exact ⟨hanswer, havailable⟩

end OrderDesk
