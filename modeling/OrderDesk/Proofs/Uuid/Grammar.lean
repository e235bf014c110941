import Mathlib.Data.List.Forall2
import OrderDesk.Proofs.Text.Digits
import OrderDesk.Proofs.Text.Letters
import OrderDesk.Proofs.Uuid.Spelling

/-!
# The grammar of identifiers

`Uuid.Hyphenated` says what an identifier looks like, without a reader: five groups of hexadecimal
digits, joined by hyphens, and nothing around them.  **`Uuid.parse?_grammar`** — the reader takes
these texts and no others, what it reads is written in the lower case of the text, and of two texts
that it takes, the identifiers are equal exactly when the texts differ in the case of letters only.

The reader goes from left to right with a size for each group, so its specification
(`takeGroups_eq_some_iff`) cuts the text into the groups that it has read.
-/

namespace OrderDesk.Uuid

open Text (digit hexValue? hexDigits)

/-- A text with 8, 4, 4, 4 and 12 hexadecimal digits, joined by hyphens. -/
def Hyphenated (s : String) : Prop :=
  ∃ gs : List (List Char), gs.map List.length = [8, 4, 4, 4, 12] ∧
    (∀ g ∈ gs, ∀ c ∈ g, c ∈ hexDigits) ∧ s.toList = ['-'].intercalate gs

/-! ## Groups joined by hyphens -/

theorem join_cons {gs : List (List Char)} (g : List Char) (hgs : gs ≠ []) :
    ['-'].intercalate (g :: gs) = g ++ '-' :: ['-'].intercalate gs := by
  obtain ⟨h, hs, rfl⟩ := List.exists_cons_of_ne_nil hgs
  rw [List.intercalate_cons_cons, List.append_assoc]
  rfl

theorem hyphenate_cons_cons (n m : Nat) (sizes : List Nat) (cs : List Char) :
    hyphenate (n :: m :: sizes) cs = cs.take n ++ '-' :: hyphenate (m :: sizes) (cs.drop n) :=
  rfl

/-- Digits that are written in groups are these groups, joined by hyphens. -/
theorem hyphenate_flatten (gs : List (List Char)) :
    hyphenate (gs.map List.length) gs.flatten = ['-'].intercalate gs := by
  induction gs with
  | nil => rfl
  | cons g gs ih =>
    cases gs with
    | nil => simp [hyphenate]
    | cons h gs =>
      rw [join_cons g (List.cons_ne_nil h gs), ← ih, List.map_cons, List.map_cons,
        List.flatten_cons, hyphenate_cons_cons, List.take_left, List.drop_left]

theorem hyphenate_map {f : Char → Char} (hf : f '-' = '-') (sizes : List Nat) (cs : List Char) :
    hyphenate sizes (cs.map f) = (hyphenate sizes cs).map f := by
  induction sizes generalizing cs with
  | nil => rfl
  | cons n sizes ih =>
    cases sizes with
    | nil => exact List.map_take.symm
    | cons m sizes =>
      have hrest := ih (cs.drop n)
      rw [List.map_drop] at hrest
      simp [hyphenate_cons_cons, hrest, hf]

/-- A text has its hyphens where its lower case has them. -/
theorem exists_join_of_map_toLower {s : List Char} {gs : List (List Char)}
    (h : s.map Char.toLower = ['-'].intercalate gs) :
    ∃ hs : List (List Char), gs = hs.map (List.map Char.toLower) ∧ s = ['-'].intercalate hs := by
  induction gs generalizing s with
  | nil => exact ⟨[], rfl, List.map_eq_nil_iff.1 h⟩
  | cons g gs ih =>
    cases gs with
    | nil =>
      rw [List.intercalate_singleton] at h
      exact ⟨[s], by rw [← h]; rfl, (List.intercalate_singleton ..).symm⟩
    | cons g' gs =>
      rw [join_cons g (List.cons_ne_nil g' gs)] at h
      obtain ⟨s₁, s₂, rfl, rfl, htail⟩ := List.map_eq_append_iff.1 h
      obtain ⟨c, s₃, rfl, hc, hrest⟩ := List.map_eq_cons_iff.1 htail
      obtain ⟨hs, hgs, rfl⟩ := ih hrest
      have hsome : hs ≠ [] := by
        rintro rfl
        cases hgs
      refine ⟨s₁ :: hs, by rw [hgs, List.map_cons], ?_⟩
      rw [join_cons s₁ hsome, Text.toLower_eq_hyphen.1 hc]

/-! ## What the reader takes -/

theorem takeHex_eq_some_iff {n : Nat} {s rest : List Char} {ds : List Nat} :
    takeHex n s = some (ds, rest) ↔
      ∃ g, g.length = n ∧ g.map hexValue? = ds.map some ∧ s = g ++ rest := by
  induction n generalizing s ds with
  | zero => simp [takeHex]
  | succ n ih =>
    constructor
    · intro h
      cases s with
      | nil => cases h
      | cons c s =>
        obtain ⟨d, hd, h⟩ := Option.bind_eq_some_iff.1 h
        obtain ⟨⟨es, tail⟩, hes, h⟩ := Option.bind_eq_some_iff.1 h
        cases h
        obtain ⟨g, hlength, hvalues, rfl⟩ := ih.1 hes
        exact ⟨c :: g, by simp [hlength], by simp [hd, hvalues], rfl⟩
    · rintro ⟨g, hlength, hvalues, rfl⟩
      cases g with
      | nil => cases hlength
      | cons c g =>
        cases ds with
        | nil => cases hvalues
        | cons d ds =>
          obtain ⟨hd, hvalues⟩ := List.cons.inj hvalues
          have hrest := ih.2 ⟨g, Nat.succ.inj hlength, hvalues, rfl⟩
          simp [takeHex, hd, hrest]

/-- A hyphen stands behind each group but the last. -/
theorem takeGroups_cons_cons_eq_some_iff {n m : Nat} {sizes ds : List Nat} {s rest : List Char} :
    takeGroups (n :: m :: sizes) s = some (ds, rest) ↔ ∃ es fs tail,
      takeHex n s = some (es, '-' :: tail) ∧ takeGroups (m :: sizes) tail = some (fs, rest) ∧
        ds = es ++ fs := by
  constructor
  · intro h
    obtain ⟨⟨es, tail⟩, hes, hrest⟩ := Option.bind_eq_some_iff.1 h
    dsimp only at hrest
    split at hrest
    · obtain ⟨⟨fs, last⟩, hfs, hds⟩ := Option.bind_eq_some_iff.1 hrest
      cases hds
      exact ⟨es, fs, _, hes, hfs, rfl⟩
    · cases hrest
  · rintro ⟨es, fs, tail, hes, hfs, rfl⟩
    refine Option.bind_eq_some_iff.2 ⟨_, hes, ?_⟩
    exact Option.bind_eq_some_iff.2 ⟨_, hfs, rfl⟩

/-- The reader cuts a text into groups of the sizes that it was given, and reads their digits. -/
theorem takeGroups_eq_some_iff {sizes : List Nat} {s rest : List Char} {ds : List Nat} :
    takeGroups sizes s = some (ds, rest) ↔ ∃ gs : List (List Char),
      gs.map List.length = sizes ∧ gs.flatten.map hexValue? = ds.map some ∧
        s = ['-'].intercalate gs ++ rest := by
  induction sizes generalizing s ds with
  | nil => simp [takeGroups]
  | cons n sizes ih =>
    cases sizes with
    | nil =>
      rw [takeGroups, takeHex_eq_some_iff]
      constructor
      · rintro ⟨g, hlength, hvalues, hs⟩
        exact ⟨[g], by simpa using hlength, by simpa using hvalues, by simpa using hs⟩
      · rintro ⟨gs, hlength, hvalues, hs⟩
        obtain ⟨g, gs, rfl, hg, hgs⟩ := List.map_eq_cons_iff.1 hlength
        cases List.map_eq_nil_iff.1 hgs
        exact ⟨g, hg, by simpa using hvalues, by simpa using hs⟩
    | cons m sizes =>
      rw [takeGroups_cons_cons_eq_some_iff]
      constructor
      · rintro ⟨es, fs, tail, hes, hfs, rfl⟩
        obtain ⟨g, hlength, hvalues, rfl⟩ := takeHex_eq_some_iff.1 hes
        obtain ⟨gs, hlengths, hrest, rfl⟩ := ih.1 hfs
        have hsome : gs ≠ [] := by
          rintro rfl
          cases hlengths
        refine ⟨g :: gs, by rw [List.map_cons, hlength, hlengths], ?_, ?_⟩
        · rw [List.flatten_cons, List.map_append, hvalues, hrest, List.map_append]
        · rw [join_cons g hsome, List.append_assoc, List.cons_append]
      · rintro ⟨gs, hlengths, hvalues, rfl⟩
        obtain ⟨g, gs, rfl, hlength, hlengths⟩ := List.map_eq_cons_iff.1 hlengths
        have hsome : gs ≠ [] := by
          rintro rfl
          cases hlengths
        rw [List.flatten_cons, List.map_append] at hvalues
        obtain ⟨es, fs, rfl, hes, hfs⟩ := List.map_eq_append_iff.1 hvalues.symm
        refine ⟨es, fs, ['-'].intercalate gs ++ rest, ?_, ih.2 ⟨gs, hlengths, hfs.symm, rfl⟩, rfl⟩
        rw [join_cons g hsome, List.append_assoc, List.cons_append]
        exact takeHex_eq_some_iff.2 ⟨g, hlength, hes.symm, rfl⟩

theorem parse?_eq_some_iff {s : String} {u : Uuid} :
    parse? s = some u ↔ ∃ (gs : List (List Char)) (ds : List Nat), gs.map List.length = groups ∧
      gs.flatten.map hexValue? = ds.map some ∧ s.toList = ['-'].intercalate gs ∧
        u = ofNat (Text.ofDigits 16 ds) := by
  have hall : ∀ ds : List Nat, takeGroups groups s.toList = some (ds, []) ↔
      ∃ gs : List (List Char), gs.map List.length = groups ∧
        gs.flatten.map hexValue? = ds.map some ∧ s.toList = ['-'].intercalate gs := by
    intro ds
    rw [takeGroups_eq_some_iff]
    simp only [List.append_nil]
  constructor
  · intro h
    rw [parse?, ofChars?] at h
    split at h
    next ds hds =>
      obtain ⟨gs, hlengths, hvalues, hs⟩ := (hall ds).1 hds
      cases h
      exact ⟨gs, ds, hlengths, hvalues, hs, rfl⟩
    next => cases h
  · rintro ⟨gs, ds, hlengths, hvalues, hs, rfl⟩
    rw [parse?, ofChars?, (hall ds).2 ⟨gs, hlengths, hvalues, hs⟩]

/-! ## Values and digits -/

/-- The values of a row of hexadecimal digits. -/
theorem exists_values {cs : List Char} (h : ∀ c ∈ cs, c ∈ hexDigits) :
    ∃ ds : List Nat, cs.map hexValue? = ds.map some := by
  induction cs with
  | nil => exact ⟨[], rfl⟩
  | cons c cs ih =>
    obtain ⟨hc, hcs⟩ := List.forall_mem_cons.1 h
    obtain ⟨d, hd⟩ := Option.isSome_iff_exists.1 (Text.isSome_hexValue?.2 hc)
    obtain ⟨ds, hds⟩ := ih hcs
    exact ⟨d :: ds, by rw [List.map_cons, hd, hds, List.map_cons]⟩

theorem mem_hexDigits_of_values {cs : List Char} {ds : List Nat}
    (h : cs.map hexValue? = ds.map some) {c : Char} (hc : c ∈ cs) : c ∈ hexDigits := by
  have hmem : hexValue? c ∈ ds.map some := h ▸ List.mem_map_of_mem hc
  obtain ⟨d, -, hd⟩ := List.mem_map.1 hmem
  exact Text.isSome_hexValue?.1 (Option.isSome_of_eq_some hd.symm)

/-- Digits are written for their values in lower case. -/
theorem map_digit_of_values {cs : List Char} {ds : List Nat}
    (h : cs.map hexValue? = ds.map some) :
    (∀ d ∈ ds, d < 16) ∧ ds.map digit = cs.map Char.toLower := by
  induction cs generalizing ds with
  | nil =>
    rw [List.map_nil] at h
    rw [List.map_eq_nil_iff.1 h.symm]
    exact ⟨nofun, rfl⟩
  | cons c cs ih =>
    cases ds with
    | nil => cases h
    | cons d ds =>
      obtain ⟨hc, hcs⟩ := List.cons.inj h
      obtain ⟨hlt, hdigit⟩ := Text.digit_of_hexValue? hc
      obtain ⟨hall, hdigits⟩ := ih hcs
      refine ⟨List.forall_mem_cons.2 ⟨hlt, hall⟩, ?_⟩
      rw [List.map_cons, hdigit, hdigits, List.map_cons]

/-- The digits of an identifier are those of which it is the value. -/
theorem digits_ofNat {ds : List Nat} (hlt : ∀ d ∈ ds, d < 16) (hlength : ds.length = 32) :
    (ofNat (Text.ofDigits 16 ds)).digits = ds.map digit := by
  have hbound : Text.ofDigits 16 ds < 2 ^ 128 := by
    have hall := Text.ofDigits_lt hlt
    rw [hlength] at hall
    exact hall
  have hval : (ofNat (Text.ofDigits 16 ds)).val = Text.ofDigits 16 ds := Nat.mod_eq_of_lt hbound
  rw [digits, hval, ← hlength, Text.toDigits_ofDigits hlt]

/-! ## Reading and writing -/

theorem exists_parse?_iff {s : String} : (∃ u, parse? s = some u) ↔ Hyphenated s := by
  constructor
  · rintro ⟨u, h⟩
    obtain ⟨gs, ds, hlengths, hvalues, hs, -⟩ := parse?_eq_some_iff.1 h
    refine ⟨gs, hlengths, fun g hg c hc => ?_, hs⟩
    exact mem_hexDigits_of_values hvalues (List.mem_flatten.2 ⟨g, hg, hc⟩)
  · rintro ⟨gs, hlengths, hall, hs⟩
    have hdigits : ∀ c ∈ gs.flatten, c ∈ hexDigits := by
      intro c hc
      obtain ⟨g, hg, hc⟩ := List.mem_flatten.1 hc
      exact hall g hg c hc
    obtain ⟨ds, hvalues⟩ := exists_values hdigits
    exact ⟨_, parse?_eq_some_iff.2 ⟨gs, ds, hlengths, hvalues, hs, rfl⟩⟩

/-- What is read from a text is written in its lower case. -/
theorem text_of_parse? {s : String} {u : Uuid} (h : parse? s = some u) : u.text = s.toLower := by
  obtain ⟨gs, ds, hlengths, hvalues, hs, rfl⟩ := parse?_eq_some_iff.1 h
  obtain ⟨hlt, hdigits⟩ := map_digit_of_values hvalues
  have hlength : ds.length = 32 := by
    have hcount := congrArg List.length hvalues
    rw [List.length_map, List.length_map, List.length_flatten, hlengths] at hcount
    exact hcount.symm
  rw [← String.toList_inj, text, String.toList_ofList, Text.toList_toLower,
    digits_ofNat hlt hlength, hdigits, hyphenate_map rfl, ← hlengths, hyphenate_flatten, hs]

theorem parse?_text (u : Uuid) : parse? u.text = some u := by
  rw [parse?, text, String.toList_ofList, ofChars?_hyphenate]

/-- A text is read as its lower case is. -/
theorem parse?_toLower {s : String} {u : Uuid} (h : parse? s.toLower = some u) :
    parse? s = some u := by
  obtain ⟨gs, ds, hlengths, hvalues, hs, rfl⟩ := parse?_eq_some_iff.1 h
  rw [Text.toList_toLower] at hs
  obtain ⟨raw, rfl, hraw⟩ := exists_join_of_map_toLower hs
  refine parse?_eq_some_iff.2 ⟨raw, ds, ?_, ?_, hraw, rfl⟩
  · rw [← hlengths]
    simp
  · rw [← hvalues, ← List.map_flatten, List.map_map]
    exact List.map_congr_left fun c _ => (Text.hexValue?_toLower c).symm

theorem parse?_eq_some_iff_toLower {s : String} {u : Uuid} :
    parse? s = some u ↔ u.text = s.toLower := by
  constructor
  · exact text_of_parse?
  · intro h
    refine parse?_toLower ?_
    rw [← h, parse?_text]

theorem toLower_text (u : Uuid) : u.text.toLower = u.text :=
  (text_of_parse? (parse?_text u)).symm

/-- Letters in upper case do not change the lower case of a text. -/
theorem map_toLower_of_raised {cs ds : List Char}
    (h : List.Forall₂ (fun c d => d = c ∨ d = c.toUpper) cs ds) :
    ds.map Char.toLower = cs.map Char.toLower := by
  induction h with
  | nil => rfl
  | cons hd _ ih =>
    rw [List.map_cons, List.map_cons, ih]
    rcases hd with rfl | rfl
    · rfl
    · rw [Text.toLower_toUpper]

/-- **The grammar of identifiers.**  Exactly the hyphenated texts are read.  What is read from a
text is written in its lower case; an identifier is read from its text with any of the letters in
upper case; and two texts stand for one identifier when they differ in the case of letters only. -/
theorem parse?_grammar (s t : String) (u : Uuid) :
    ((∃ u, parse? s = some u) ↔ Hyphenated s) ∧
    (parse? s = some u → u.text = s.toLower) ∧
    (List.Forall₂ (fun c d => d = c ∨ d = c.toUpper) u.text.toList s.toList →
      parse? s = some u) ∧
    (Hyphenated s → Hyphenated t → (parse? s = parse? t ↔ s.toLower = t.toLower)) := by
  refine ⟨exists_parse?_iff, text_of_parse?, fun h => ?_, fun hs ht => ?_⟩
  · have hlower : s.toLower = u.text.toLower := by
      rw [← String.toList_inj, Text.toList_toLower, Text.toList_toLower, map_toLower_of_raised h]
    rw [parse?_eq_some_iff_toLower, hlower, toLower_text]
  · obtain ⟨v, hv⟩ := exists_parse?_iff.2 hs
    obtain ⟨w, hw⟩ := exists_parse?_iff.2 ht
    constructor
    · intro h
      rw [← text_of_parse? hv, ← text_of_parse? (h ▸ hv)]
    · intro h
      rw [hv, eq_comm, parse?_eq_some_iff_toLower, ← h, text_of_parse? hv]

theorem parse?_grammar_abcdef :
    let u := ofNat 0xABCDEF
    let s := "00000000-0000-0000-0000-000000AbCdEF"
    Hyphenated s ∧ parse? s = some u ∧ u.text = s.toLower ∧ parse? s = parse? u.text := by
  intro u s
  have hs := parse?_grammar s u.text u
  have ht := parse?_grammar u.text s u
  have hraised : List.Forall₂ (fun c d => d = c ∨ d = c.toUpper) u.text.toList s.toList := by
    rw [text, String.toList_ofList]
    decide +kernel
  have hread : parse? s = some u := hs.2.2.1 hraised
  have hform : Hyphenated s := hs.1.1 ⟨u, hread⟩
  have hown : Hyphenated u.text := ht.1.1 ⟨u, parse?_text u⟩
  have hlower : s.toLower = u.text.toLower := by rw [← hs.2.1 hread, toLower_text]
  exact ⟨hform, hread, hs.2.1 hread, (hs.2.2.2 hform hown).2 hlower⟩

end OrderDesk.Uuid
