import OrderDesk.Api.Desk
import OrderDesk.Proofs.Fallible

/-!
# Who is let in

A header names a caller if it is the word `Bearer`, one blank and a token without blanks of at least
20 bytes.  Headers are split at every blank (`Bearer.token?`), so a blank too many, wherever it
stands, is no part of a token but makes it another header altogether.

* `reading_parse` — what becomes of a header: it is let in, or refused for one of four reasons.
* `Desk.asking_answer_of_createOrder`, `Desk.asking_answer_of_reviseOrder` — whom the catalog is
  asked for.
* `parse_by_form` — which headers are let in, which are refused for which reason, and that the
  catalog is asked with the header as it came.
-/

namespace OrderDesk

/-! ## Splitting at a character -/

namespace Text

variable {c : Char} {s front back : List Char}

theorem two_le_length_splitOn (h : c ∈ s) : 2 ≤ (s.splitOn c).length := by
  obtain ⟨front, back, rfl⟩ := List.append_of_mem h
  have hfront := List.length_pos_iff.2 (List.splitOn_ne_nil c front)
  have hback := List.length_pos_iff.2 (List.splitOn_ne_nil c back)
  rw [List.splitOn_append_cons_self, List.length_append]
  omega

/-- A text falls into two parts just if the character stands in it once, between them. -/
theorem splitOn_eq_pair_iff :
    s.splitOn c = [front, back] ↔ s = front ++ c :: back ∧ c ∉ front ∧ c ∉ back := by
  constructor
  · intro h
    have hs : s = front ++ c :: back := by
      have hjoin := @List.intercalate_splitOn Char s _ _ c
      rw [h, List.intercalate_cons_cons, List.intercalate_singleton, List.append_assoc] at hjoin
      exact hjoin.symm
    have hlength := congrArg List.length h
    have hfront := List.length_pos_iff.2 (List.splitOn_ne_nil c front)
    have hback := List.length_pos_iff.2 (List.splitOn_ne_nil c back)
    rw [hs, List.splitOn_append_cons_self, List.length_append, List.length_cons,
      List.length_singleton] at hlength
    refine ⟨hs, fun hmem => ?_, fun hmem => ?_⟩
    · have := two_le_length_splitOn hmem
      omega
    · have := two_le_length_splitOn hmem
      omega
  · rintro ⟨rfl, hfront, hback⟩
    rw [List.splitOn_append_cons_self_of_not_mem hfront, List.splitOn_eq_singleton hback]

end Text

/-! ## Headers -/

namespace Bearer

/-- The header that brings a token. -/
def headerOf (token : String) : String := "Bearer " ++ token

theorem toList_headerOf (token : String) :
    (headerOf token).toList = scheme ++ ' ' :: token.toList := by
  rw [headerOf, String.toList_append]
  rfl

theorem headerOf_ne_empty (token : String) : headerOf token ≠ "" := by
  rw [Ne, ← String.toList_inj, toList_headerOf]
  simp

theorem token?_eq_some_iff {header token : String} :
    token? header = some token.toList ↔ header = headerOf token ∧ ' ' ∉ token.toList := by
  rw [← String.toList_inj, toList_headerOf]
  constructor
  · intro h
    unfold token? at h
    split at h
    · next word last hsplit =>
      split at h
      · next hword =>
        cases h
        obtain ⟨hheader, -, hlast⟩ := Text.splitOn_eq_pair_iff.1 hsplit
        exact ⟨hword ▸ hheader, hlast⟩
      · cases h
    · cases h
  · rintro ⟨hheader, hblank⟩
    have hsplit := Text.splitOn_eq_pair_iff.2 ⟨hheader, (by decide : ' ' ∉ scheme), hblank⟩
    rw [token?, hsplit]
    exact if_pos rfl

theorem token?_eq_none_iff {header : String} :
    token? header = none ↔ ∀ token, header = headerOf token → ' ' ∈ token.toList := by
  rw [Option.eq_none_iff_forall_ne_some]
  constructor
  · intro h token hheader
    exact Decidable.not_not.1 fun hblank => h _ (token?_eq_some_iff.2 ⟨hheader, hblank⟩)
  · intro h chars htoken
    rw [← String.toList_ofList (l := chars)] at htoken
    obtain ⟨hheader, hblank⟩ := token?_eq_some_iff.1 htoken
    exact hblank (h _ hheader)

theorem parse_of_malformed {header : String} (hempty : header ≠ "")
    (htoken : ∀ token, header = headerOf token → ' ' ∈ token.toList) :
    parse (some header) = .error invalidFormat := by
  simp only [parse, if_neg hempty, token?_eq_none_iff.2 htoken]

/-- A token without blanks is judged by its size alone. -/
theorem parse_headerOf {token : String} (h : ' ' ∉ token.toList) :
    parse (some (headerOf token)) =
      if token = "" then .error emptyToken
      else if token.utf8ByteSize < minTokenSize then .error invalidToken
      else .ok ⟨headerOf token⟩ := by
  have hsome := token?_eq_some_iff.2 ⟨rfl, h⟩
  simp only [parse, if_neg (headerOf_ne_empty token), hsome, String.ofList_toList,
    String.toList_eq_nil_iff]

/-- What becomes of a header. -/
inductive Reading : Option String → Except ApiError Bearer → Prop
  | absent : Reading none (.error missingToken)
  | empty : Reading (some "") (.error missingToken)
  | malformed {header : String} : header ≠ "" →
      (∀ token, header = headerOf token → ' ' ∈ token.toList) →
      Reading (some header) (.error invalidFormat)
  | tokenless : Reading (some (headerOf "")) (.error emptyToken)
  | short {token : String} : token ≠ "" → ' ' ∉ token.toList →
      token.utf8ByteSize < minTokenSize → Reading (some (headerOf token)) (.error invalidToken)
  | accepted {token : String} : ' ' ∉ token.toList → minTokenSize ≤ token.utf8ByteSize →
      Reading (some (headerOf token)) (.ok ⟨headerOf token⟩)

theorem reading_parse (header : Option String) : Reading header (parse header) := by
  cases header with
  | none => exact .absent
  | some header =>
    by_cases hempty : header = ""
    · rw [hempty]
      exact .empty
    · by_cases htoken : ∀ token, header = headerOf token → ' ' ∈ token.toList
      · rw [parse_of_malformed hempty htoken]
        exact .malformed hempty htoken
      · obtain ⟨token, htoken⟩ := Classical.not_forall.1 htoken
        obtain ⟨rfl, hblank⟩ := Classical.not_imp.1 htoken
        rw [parse_headerOf hblank]
        split
        · next hnone =>
          rw [hnone]
          exact .tokenless
        · next hsome =>
          split
          · next hsize => exact .short hsome hblank hsize
          · next hsize => exact .accepted hblank (Nat.not_lt.1 hsize)

/-- The cases are those of reading a header, and no header is in two of them. -/
theorem reading_iff {header : Option String} {result : Except ApiError Bearer} :
    Reading header result ↔ parse header = result := by
  constructor
  · intro h
    cases h with
    | absent => rfl
    | empty => rfl
    | malformed hempty htoken => exact parse_of_malformed hempty htoken
    | tokenless => exact parse_headerOf (by decide)
    | short hempty hblank hsize => rw [parse_headerOf hblank, if_neg hempty, if_pos hsize]
    | accepted hblank hsize =>
      rw [parse_headerOf hblank, if_neg (Nat.not_lt.2 hsize), if_neg]
      rintro rfl
      exact absurd hsize (by decide)
  · rintro rfl
    exact reading_parse header

/-- Whoever is let in is known by the header as it came. -/
theorem header_of_parse {header : Option String} {caller : Bearer}
    (h : parse header = .ok caller) : header = some caller.header := by
  cases reading_iff.2 h with
  | accepted => rfl

end Bearer

/-! ## What the catalog is asked with -/

/-- The caller in whose name a call asks the catalog. -/
def ApiCall.caller? : ApiCall → Option Bearer
  | .createOrder caller _ => some caller
  | .reviseOrder caller _ _ => some caller
  | _ => none

theorem Endpoint.caller_of_call {endpoint : Endpoint} {caller caller' : Bearer} {r : ApiRequest}
    {call : ApiCall} (h : endpoint.call caller r = .ok call)
    (hcaller : call.caller? = some caller') : caller' = caller := by
  cases endpoint with
  | health =>
    cases h
    cases hcaller
  | createOrder =>
    simp only [Endpoint.call, Fallible.bind_eq_ok_iff, Fallible.pure_eq_ok_iff] at h
    obtain ⟨_, -, rfl⟩ := h
    cases hcaller
    rfl
  | reviseOrder =>
    simp only [Endpoint.call, Fallible.bind_eq_ok_iff, Fallible.pure_eq_ok_iff] at h
    obtain ⟨_, -, _, -, rfl⟩ := h
    cases hcaller
    rfl
  | showOrder | createUser | showUser | deleteUser | showPoints | showProduct =>
    simp only [Endpoint.call, Fallible.bind_eq_ok_iff, Fallible.pure_eq_ok_iff] at h
    obtain ⟨_, -, rfl⟩ := h
    cases hcaller
  | listOrders | redeemPoints | listProducts =>
    simp only [Endpoint.call, Fallible.bind_eq_ok_iff, Fallible.pure_eq_ok_iff] at h
    obtain ⟨_, -, _, -, rfl⟩ := h
    cases hcaller
  | submitOrder =>
    simp only [Endpoint.call, Fallible.bind_eq_ok_iff, Fallible.pure_eq_ok_iff] at h
    obtain ⟨_, -, _, -, _, -, rfl⟩ := h
    cases hcaller

/-- Every call that asks the catalog does so in the name of the caller who is let in. -/
theorem ApiCall.parse_of_caller? {r : ApiRequest} {call : ApiCall} {caller : Bearer}
    (h : ofRequest r = .ok call) (hcaller : call.caller? = some caller) :
    Bearer.parse (r.headerText? "authorization") = .ok caller := by
  unfold ofRequest at h
  split at h
  · cases h
  · split at h
    · cases h
    · cases h
      cases hcaller
    · rw [Fallible.bind_eq_ok_iff] at h
      obtain ⟨known, hknown, hcall⟩ := h
      rw [Endpoint.caller_of_call hcall hcaller]
      unfold ApiRequest.bearer at hknown
      cases hparse : Bearer.parse (r.headerText? "authorization") with
      | ok b =>
        rw [hparse] at hknown
        exact congrArg _ (Except.ok.inj hknown)
      | error e =>
        rw [hparse] at hknown
        cases hknown

namespace Desk

variable {κ : Type} {supplier supplier' : Supplier κ}

/-- A call asks the catalog with the header of its caller, and with nothing else. -/
theorem carryOut_congr {call : ApiCall}
    (hask : ∀ caller, call.caller? = some caller →
      supplier'.ask (some caller.header) = supplier.ask (some caller.header))
    (hhealth : supplier'.health = supplier.health) (fresh : Uuid) (now : Timestamp) (d : Desk κ) :
    d.carryOut supplier' fresh now call = d.carryOut supplier fresh now call := by
  cases call with
  | health => simp only [carryOut, hhealth]
  | createOrder caller r => simp only [carryOut, createOrder, hask caller rfl]
  | reviseOrder caller id lines => simp only [carryOut, reviseOrder, hask caller rfl]
  | listOrders owner =>
    cases owner with
    | none | some => rfl
  | showOrder | actOnOrder | createUser | showUser | deleteUser | showPoints | redeemPoints
  | listProducts | showProduct => rfl

section

variable {r : ApiRequest} {caller : Bearer}

/-- A request for a new order that is let in leaves behind what creating the order does, with the
catalog asked in the name of the caller. -/
theorem asking_answer_of_createOrder {order : OrderRequest}
    (h : ApiCall.ofRequest r = .ok (.createOrder caller order)) (fresh : Uuid) (now : Timestamp)
    (d : Desk κ) :
    let created :=
      d.service.createOrder (supplier.ask (some caller.header)) fresh now d.asking order
    (d.answer supplier fresh now r).1.asking = created.1 ∧
      (d.answer supplier fresh now r).1.service = created.2.1 := by
  simp only [answer, h, carryOut, createOrder]
  split
  · exact ⟨rfl, rfl⟩
  · exact ⟨rfl, rfl⟩

/-- A request to change an order that is let in leaves behind what changing the order does, with the
catalog asked in the name of the caller. -/
theorem asking_answer_of_reviseOrder {id : OrderId} {lines : List LineInput}
    (h : ApiCall.ofRequest r = .ok (.reviseOrder caller id lines)) (fresh : Uuid) (now : Timestamp)
    (d : Desk κ) :
    let revised := d.service.reviseOrder (supplier.ask (some caller.header)) now d.asking id lines
    (d.answer supplier fresh now r).1.asking = revised.1 ∧
      (d.answer supplier fresh now r).1.service = revised.2.1 := by
  simp only [answer, h, carryOut, reviseOrder]
  exact ⟨rfl, rfl⟩

end

/-- A request asks the catalog with its own header, and with nothing else. -/
theorem answer_congr {r : ApiRequest}
    (hask : supplier'.ask (r.headerText? "authorization") =
      supplier.ask (r.headerText? "authorization"))
    (hhealth : supplier'.health = supplier.health) (fresh : Uuid) (now : Timestamp) (d : Desk κ) :
    d.answer supplier' fresh now r = d.answer supplier fresh now r := by
  unfold answer
  cases hcall : ApiCall.ofRequest r with
  | error response => rfl
  | ok call =>
    refine carryOut_congr (fun caller hcaller => ?_) hhealth fresh now d
    rwa [Bearer.header_of_parse (ApiCall.parse_of_caller? hcall hcaller)] at hask

end Desk

namespace Bearer

/-- The code of what is wrong with a header. -/
def code? (header : Option String) : Option String :=
  match parse header with
  | .ok _ => none
  | .error e => some e.code

theorem code?_eq_some_iff {header : Option String} {code : String} :
    code? header = some code ↔ ∃ e, Reading header (.error e) ∧ e.code = code := by
  simp only [reading_iff, code?]
  cases parse header with
  | ok caller => simp
  | error e => simp

/-- **Headers are judged by their form.**  A header is let in just if it is the word, one blank and
a token without blanks of at least 20 bytes.  There are four reasons to refuse one: there is none or
an empty one; nothing stands behind the blank; the token is too short; or the header has any other
form, of which a blank too many is one.

Whoever is let in is known by the header as it came, and it is with this header that the catalog is
asked for a new order and for a change of an order; how a catalog takes any other header makes no
difference to what becomes of a request. -/
theorem parse_by_form (header : Option String) :
    (∀ caller, parse header = .ok caller ↔ header = some caller.header ∧
      ∃ token, caller.header = "Bearer " ++ token ∧ ' ' ∉ token.toList ∧
        20 ≤ token.utf8ByteSize) ∧
    (∀ (κ : Type) (supplier supplier' : Supplier κ) (fresh : Uuid) (now : Timestamp) (d : Desk κ)
      (r : ApiRequest), r.headerText? "authorization" = header →
        supplier'.ask header = supplier.ask header → supplier'.health = supplier.health →
        d.answer supplier' fresh now r = d.answer supplier fresh now r) ∧
    (∀ (κ : Type) (supplier : Supplier κ) (fresh : Uuid) (now : Timestamp) (d : Desk κ)
      (r : ApiRequest) (caller : Bearer), r.headerText? "authorization" = header →
        (∀ order, ApiCall.ofRequest r = .ok (.createOrder caller order) →
          parse header = .ok caller ∧
          let created := d.service.createOrder (supplier.ask header) fresh now d.asking order
          (d.answer supplier fresh now r).1.asking = created.1 ∧
            (d.answer supplier fresh now r).1.service = created.2.1) ∧
        ∀ id lines, ApiCall.ofRequest r = .ok (.reviseOrder caller id lines) →
          parse header = .ok caller ∧
          let revised := d.service.reviseOrder (supplier.ask header) now d.asking id lines
          (d.answer supplier fresh now r).1.asking = revised.1 ∧
            (d.answer supplier fresh now r).1.service = revised.2.1) ∧
    (∀ e, parse header = .error e → e.code ∈
      ["MISSING_TOKEN", "EMPTY_TOKEN", "INVALID_TOKEN", "INVALID_TOKEN_FORMAT"]) ∧
    (code? header = some "MISSING_TOKEN" ↔ header = none ∨ header = some "") ∧
    (code? header = some "EMPTY_TOKEN" ↔ header = some "Bearer ") ∧
    (code? header = some "INVALID_TOKEN" ↔ ∃ token, header = some ("Bearer " ++ token) ∧
      token ≠ "" ∧ ' ' ∉ token.toList ∧ token.utf8ByteSize < 20) ∧
    (code? header = some "INVALID_TOKEN_FORMAT" ↔ ∃ text, header = some text ∧ text ≠ "" ∧
      ∀ token, text = "Bearer " ++ token → ' ' ∈ token.toList) := by
  refine ⟨fun caller => ?_, ?_, ?_, fun e he => ?_, ?_, ?_, ?_, ?_⟩
  · rw [← reading_iff]
    constructor
    · intro h
      cases h with
      | accepted hblank hsize => exact ⟨rfl, _, rfl, hblank, hsize⟩
    · rintro ⟨rfl, token, hheader, hblank, hsize⟩
      obtain ⟨header⟩ := caller
      cases hheader
      exact .accepted hblank hsize
  · rintro κ supplier supplier' fresh now d r rfl hask hhealth
    exact Desk.answer_congr hask hhealth fresh now d
  · rintro κ supplier fresh now d r caller rfl
    refine ⟨fun order hcall => ?_, fun id lines hcall => ?_⟩
    · have hparse := ApiCall.parse_of_caller? hcall rfl
      rw [header_of_parse hparse]
      exact ⟨header_of_parse hparse ▸ hparse, Desk.asking_answer_of_createOrder hcall fresh now d⟩
    · have hparse := ApiCall.parse_of_caller? hcall rfl
      rw [header_of_parse hparse]
      exact ⟨header_of_parse hparse ▸ hparse, Desk.asking_answer_of_reviseOrder hcall fresh now d⟩
  · cases reading_iff.2 he with
    | absent | empty | malformed | tokenless | short => decide
  · rw [code?_eq_some_iff]
    constructor
    · rintro ⟨e, h, hcode⟩
      cases h with
      | absent => exact .inl rfl
      | empty => exact .inr rfl
      | malformed | tokenless | short => exact absurd hcode (by decide)
    · rintro (rfl | rfl)
      · exact ⟨_, .absent, rfl⟩
      · exact ⟨_, .empty, rfl⟩
  · rw [code?_eq_some_iff]
    constructor
    · rintro ⟨e, h, hcode⟩
      cases h with
      | tokenless => rfl
      | absent | empty | malformed | short => exact absurd hcode (by decide)
    · rintro rfl
      exact ⟨_, .tokenless, rfl⟩
  · rw [code?_eq_some_iff]
    constructor
    · rintro ⟨e, h, hcode⟩
      cases h with
      | short hempty hblank hsize => exact ⟨_, rfl, hempty, hblank, hsize⟩
      | absent | empty | malformed | tokenless => exact absurd hcode (by decide)
    · rintro ⟨token, rfl, hempty, hblank, hsize⟩
      exact ⟨_, .short hempty hblank hsize, rfl⟩
  · rw [code?_eq_some_iff]
    constructor
    · rintro ⟨e, h, hcode⟩
      cases h with
      | malformed hempty htoken => exact ⟨_, rfl, hempty, htoken⟩
      | absent | empty | tokenless | short => exact absurd hcode (by decide)
    · rintro ⟨header, rfl, hempty, htoken⟩
      exact ⟨_, .malformed hempty htoken, rfl⟩

end Bearer

end OrderDesk
