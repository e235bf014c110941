import Mathlib.Computability.Language
import Mathlib.Data.List.DropRight
import OrderDesk.Proofs.User.Names

/-!
# The pattern of email addresses

What an address looks like can be said in two ways.  One is a pattern of repeated classes of
characters (`Email.pattern`): `^[a-zA-Z0-9._%+-]+@[a-zA-Z0-9.-]+[.][a-zA-Z]{2,}$`.  The class of the
domain has the dot and the letters in it, so it overlaps with what follows, and a text may have to
be tried against the pattern at several dots.  The other way is to take the text apart at its at
sign and its last dot (`Email.Parts`), where there is nothing to try.

* `mem_pattern_iff`, `parts_iff` — each of them is the form of an address (`Email.Grammar`).
* `parse_by_parts` — a text becomes an address just if it has the parts of one, and every other text
  is refused with what is wrong.
-/

open scoped Computability

namespace OrderDesk.Email

/-! ## Classes of characters -/

/-- The characters in front of the at sign. -/
def frontClass (c : Char) : Bool := c.isAlphanum || c ∈ ['.', '_', '%', '+', '-']

/-- The characters behind the at sign. -/
def domainClass (c : Char) : Bool := c.isAlphanum || c ∈ ['.', '-']

theorem isLetter_eq (c : Char) : isLetter c = c.isAlpha := by
  have hupper : c.isUpper = decide ('A' ≤ c ∧ c ≤ 'Z') := rfl
  have hlower : c.isLower = (decide ('a' ≤ c) && decide (c ≤ 'z')) := rfl
  have halpha : c.isAlpha = (c.isUpper || c.isLower) := rfl
  rw [halpha, hupper, hlower, Bool.decide_and, Bool.or_comm]
  rfl

theorem isDomainChar_eq (c : Char) : isDomainChar c = domainClass c := by
  simp [isDomainChar, domainClass, isLetter_eq, Char.isAlphanum, Char.isDigit, Char.le_def,
    Bool.or_assoc, Bool.decide_or]
  rfl

theorem isLocalChar_eq (c : Char) : isLocalChar c = frontClass c := by
  have hclass : frontClass c = (domainClass c || c ∈ ['_', '%', '+']) := by
    simp only [frontClass, domainClass, List.mem_cons, Bool.decide_or]
    ac_rfl
  simp [isLocalChar, isDomainChar_eq, hclass, Bool.or_assoc, Bool.decide_or]
  rfl

variable {s : List Char}

/-- The form of an address, told by the classes. -/
theorem grammar_iff : Grammar s ↔ ∃ front name top, s = front ++ '@' :: (name ++ '.' :: top) ∧
    (1 ≤ front.length ∧ ∀ c ∈ front, frontClass c) ∧
    (1 ≤ name.length ∧ ∀ c ∈ name, domainClass c) ∧ 2 ≤ top.length ∧ ∀ c ∈ top, c.isAlpha := by
  simp only [Grammar, isLocalChar_eq, isDomainChar_eq, isLetter_eq, Nat.one_le_iff_ne_zero,
    ne_eq, List.length_eq_zero_iff]

/-! ## The pattern -/

variable {p : Char → Bool} {n : ℕ}

/-- The texts of one character of a class. -/
def oneOf (p : Char → Bool) : Language Char := {s | ∃ c, p c ∧ s = [c]}

/-- The texts of so many characters of a class, or more. -/
def atLeast (n : ℕ) (p : Char → Bool) : Language Char := oneOf p ^ n * (oneOf p)∗

/-- The pattern of addresses. -/
def pattern : Language Char :=
  atLeast 1 frontClass * {['@']} * atLeast 1 domainClass * {['.']} * atLeast 2 Char.isAlpha

theorem mem_oneOf_mul {l : Language Char} :
    s ∈ oneOf p * l ↔ ∃ c rest, s = c :: rest ∧ p c ∧ rest ∈ l := by
  rw [Language.mem_mul]
  constructor
  · rintro ⟨_, ⟨c, hc, rfl⟩, rest, hrest, rfl⟩
    exact ⟨c, rest, rfl, hc, hrest⟩
  · rintro ⟨c, rest, rfl, hc, hrest⟩
    exact ⟨[c], ⟨c, hc, rfl⟩, rest, hrest, rfl⟩

theorem mem_oneOf_pow : s ∈ oneOf p ^ n ↔ s.length = n ∧ ∀ c ∈ s, p c := by
  induction n generalizing s with
  | zero =>
    rw [pow_zero, Language.mem_one, List.length_eq_zero_iff]
    exact ⟨fun h => by simp [h], And.left⟩
  | succ n ih =>
    rw [pow_succ', mem_oneOf_mul]
    constructor
    · rintro ⟨c, rest, rfl, hc, hrest⟩
      obtain ⟨hlength, hrest⟩ := ih.1 hrest
      exact ⟨congrArg Nat.succ hlength, List.forall_mem_cons.2 ⟨hc, hrest⟩⟩
    · rintro ⟨hlength, hs⟩
      obtain ⟨c, rest, rfl⟩ := List.exists_cons_of_length_eq_add_one hlength
      obtain ⟨hc, hrest⟩ := List.forall_mem_cons.1 hs
      exact ⟨c, rest, rfl, hc, ih.2 ⟨Nat.succ.inj hlength, hrest⟩⟩

theorem mem_oneOf_kstar : s ∈ (oneOf p)∗ ↔ ∀ c ∈ s, p c := by
  rw [Language.kstar_eq_iSup_pow, Language.mem_iSup]
  simp only [mem_oneOf_pow]
  exact ⟨fun ⟨_, _, hs⟩ => hs, fun hs => ⟨s.length, rfl, hs⟩⟩

theorem mem_atLeast : s ∈ atLeast n p ↔ n ≤ s.length ∧ ∀ c ∈ s, p c := by
  rw [atLeast, Language.mem_mul]
  constructor
  · rintro ⟨first, hfirst, rest, hrest, rfl⟩
    obtain ⟨hlength, hfirst⟩ := mem_oneOf_pow.1 hfirst
    refine ⟨?_, List.forall_mem_append.2 ⟨hfirst, mem_oneOf_kstar.1 hrest⟩⟩
    rw [List.length_append, hlength]
    exact Nat.le_add_right ..
  · rintro ⟨hlength, hs⟩
    refine ⟨s.take n, mem_oneOf_pow.2 ⟨List.length_take_of_le hlength, ?_⟩,
      s.drop n, mem_oneOf_kstar.2 ?_, List.take_append_drop n s⟩
    · exact fun c hc => hs c (List.mem_of_mem_take hc)
    · exact fun c hc => hs c (List.mem_of_mem_drop hc)

theorem mem_literal_mul {d : Char} {l : Language Char} :
    s ∈ {[d]} * l ↔ ∃ rest ∈ l, s = d :: rest := by
  rw [Language.mem_mul]
  constructor
  · rintro ⟨_, rfl, rest, hrest, rfl⟩
    exact ⟨rest, hrest, rfl⟩
  · rintro ⟨rest, hrest, rfl⟩
    exact ⟨[d], rfl, rest, hrest, rfl⟩

/-- The pattern and the form of an address are the same, whichever dot of the domain is tried. -/
theorem mem_pattern_iff : s ∈ pattern ↔ Grammar s := by
  rw [pattern, mul_assoc, mul_assoc, mul_assoc, Language.mem_mul, grammar_iff]
  constructor
  · rintro ⟨front, hfront, _, hrest, rfl⟩
    obtain ⟨_, hdomain, rfl⟩ := mem_literal_mul.1 hrest
    obtain ⟨name, hname, _, hend, rfl⟩ := Language.mem_mul.1 hdomain
    obtain ⟨top, htop, rfl⟩ := mem_literal_mul.1 hend
    exact ⟨front, name, top, rfl, mem_atLeast.1 hfront, mem_atLeast.1 hname, mem_atLeast.1 htop⟩
  · rintro ⟨front, name, top, rfl, hfront, hname, htop⟩
    refine ⟨front, mem_atLeast.2 hfront, _, mem_literal_mul.2 ⟨_, ?_, rfl⟩, rfl⟩
    refine Language.mem_mul.2 ⟨name, mem_atLeast.2 hname, _, mem_literal_mul.2 ⟨_, ?_, rfl⟩, rfl⟩
    exact mem_atLeast.2 htop

/-! ## The parts -/

/-- What stands in front of the first at sign. -/
def front (s : List Char) : List Char := s.takeWhile (· ≠ '@')

/-- What stands behind the first at sign. -/
def domain (s : List Char) : List Char := (s.dropWhile (· ≠ '@')).tail

/-- What stands behind the last dot. -/
def top (domain : List Char) : List Char := domain.rtakeWhile (· ≠ '.')

/-- The parts of an address. -/
structure Parts (s : List Char) : Prop where
  /-- There is one at sign. -/
  count_at : s.count '@' = 1
  front_ne_nil : front s ≠ []
  front_class : ∀ c ∈ front s, frontClass c
  domain_class : ∀ c ∈ domain s, domainClass c
  /-- There is a dot that is not the first character of the domain. -/
  dot_mem : '.' ∈ (domain s).tail
  two_le_length : 2 ≤ (top (domain s)).length
  top_class : ∀ c ∈ top (domain s), c.isAlpha

theorem front_append {first rest : List Char} (h : '@' ∉ first) :
    front (first ++ '@' :: rest) = first := by
  have hfirst : ∀ c ∈ first, decide (c ≠ '@') = true :=
    fun c hc => decide_eq_true fun heq => h (heq ▸ hc)
  rw [front, List.takeWhile_append_of_pos hfirst, List.takeWhile_cons_of_neg (by decide),
    List.append_nil]

theorem domain_append {first rest : List Char} (h : '@' ∉ first) :
    domain (first ++ '@' :: rest) = rest := by
  have hfirst : ∀ c ∈ first, decide (c ≠ '@') = true :=
    fun c hc => decide_eq_true fun heq => h (heq ▸ hc)
  rw [domain, List.dropWhile_append_of_pos hfirst, List.dropWhile_cons_of_neg (by decide),
    List.tail_cons]

theorem top_append {name last : List Char} (h : '.' ∉ last) : top (name ++ '.' :: last) = last := by
  have hlast : ∀ c ∈ last.reverse, decide (c ≠ '.') = true :=
    fun c hc => decide_eq_true fun heq => h (heq ▸ List.mem_reverse.1 hc)
  rw [top, List.rtakeWhile, List.reverse_append, List.reverse_cons, List.append_assoc,
    List.takeWhile_append_of_pos hlast, List.singleton_append,
    List.takeWhile_cons_of_neg (by decide), List.append_nil, List.reverse_reverse]

theorem exists_last_dot {s : List Char} (h : '.' ∈ s) :
    ∃ name last, s = name ++ '.' :: last ∧ '.' ∉ last := by
  obtain ⟨back, rest, hs, hback⟩ := List.eq_append_cons_of_mem (List.mem_reverse.2 h)
  refine ⟨rest.reverse, back.reverse, ?_, fun hmem => hback (List.mem_reverse.1 hmem)⟩
  rw [← List.reverse_reverse s, hs, List.reverse_append, List.reverse_cons, List.append_assoc]
  rfl

/-- What has the form of an address has its parts at the only at sign and at the last dot. -/
theorem parts_of_grammar (h : Grammar s) : Parts s := by
  obtain ⟨first, name, last, rfl, ⟨hfirst, hfront⟩, ⟨hname, hdomain⟩, hlength, hlast⟩ :=
    grammar_iff.1 h
  have hrest : ∀ c ∈ name ++ '.' :: last, domainClass c := by
    refine List.forall_mem_append.2 ⟨hdomain, List.forall_mem_cons.2 ⟨by decide, fun c hc => ?_⟩⟩
    simp [domainClass, Char.isAlphanum, hlast c hc]
  have hat : '@' ∉ first := fun hmem => absurd (hfront _ hmem) (by decide)
  have hat' : '@' ∉ name ++ '.' :: last := fun hmem => absurd (hrest _ hmem) (by decide)
  have hdot : '.' ∉ last := fun hmem => absurd (hlast _ hmem) (by decide)
  refine ⟨?_, ?_, ?_, ?_, ?_, ?_, ?_⟩
  · rw [List.count_append, List.count_cons_self, List.count_eq_zero.2 hat,
      List.count_eq_zero.2 hat']
  · rw [front_append hat]
    exact List.ne_nil_of_length_pos hfirst
  · rwa [front_append hat]
  · rwa [domain_append hat]
  · rw [domain_append hat, List.tail_append_of_ne_nil (List.ne_nil_of_length_pos hname)]
    exact List.mem_append_right _ (List.mem_cons_self ..)
  · rwa [domain_append hat, top_append hdot]
  · rwa [domain_append hat, top_append hdot]

theorem grammar_of_parts (h : Parts s) : Grammar s := by
  have hat : '@' ∈ s := List.count_pos_iff.1 (by rw [h.count_at]; exact Nat.one_pos)
  obtain ⟨first, rest, rfl, hfirst⟩ := List.eq_append_cons_of_mem hat
  obtain ⟨-, hne, hfront, hrest, hdot, hlength, hlast⟩ := h
  rw [front_append hfirst] at hne hfront
  rw [domain_append hfirst] at hrest hdot hlength hlast
  obtain ⟨name, last, rfl, hnot⟩ := exists_last_dot (List.mem_of_mem_tail hdot)
  rw [top_append hnot] at hlength hlast
  refine grammar_iff.2 ⟨first, name, last, rfl, ⟨List.length_pos_of_ne_nil hne, hfront⟩, ⟨?_, ?_⟩,
    hlength, hlast⟩
  · -- A dot at the front of the domain would be its only one.
    refine List.length_pos_of_ne_nil fun hname => hnot ?_
    rwa [hname] at hdot
  · exact fun c hc => hrest c (List.mem_append_left _ hc)

theorem parts_iff : Parts s ↔ Grammar s := ⟨grammar_of_parts, parts_of_grammar⟩

theorem not_isBlank_of_parts {text : String} (h : Parts text.toList) : ¬ Text.isBlank text := by
  have hat : '@' ∈ text.toList := List.count_pos_iff.1 (by rw [h.count_at]; exact Nat.one_pos)
  intro hblank
  exact absurd (Text.isBlank_iff.1 hblank '@' hat) (by decide)

/-- What becomes of a text: there is no fourth case, and no text is in two of them. -/
inductive Reading (text : String) : Except UserError Email → Prop
  | missing : Text.isBlank text → ¬ Parts text.toList →
      Reading text (.error (.fieldMissing .email))
  | address {n : Email} : ¬ Text.isBlank text → Parts text.toList → n.text = text →
      Reading text (.ok n)
  | malformed : ¬ Text.isBlank text → ¬ Parts text.toList →
      Reading text (.error (.invalidEmail text))

theorem reading_parse (text : String) : Reading text (parse text) := by
  by_cases hblank : Text.isBlank text
  · have hparse : parse text = .error (.fieldMissing .email) := by rw [parse, if_pos hblank]
    rw [hparse]
    exact .missing hblank fun h => not_isBlank_of_parts h hblank
  · by_cases hparts : Parts text.toList
    · obtain ⟨n, hparse⟩ := exists_parse hblank (parts_iff.1 hparts)
      rw [hparse]
      exact .address hblank hparts (parse_eq_ok hparse)
    · rw [parse_of_form hblank (parts_iff.not.1 hparts)]
      exact .malformed hblank hparts

/-- **Texts that become addresses.**  A text with nothing in it but blanks is said to be missing.
Every other text becomes an address, unchanged, just if it has the parts of one: exactly one at
sign, some characters of the right kind in front of it, behind it a domain of the right characters
with a dot that does not stand first, and behind the last dot at least two letters and nothing else.
These are the texts that match the pattern.  Any text that is left is refused as it is. -/
theorem parse_by_parts (text : String) :
    (parse text = .error (.fieldMissing .email) ↔ ∀ c ∈ text.toList, Text.isBlankChar c) ∧
    ((∃ n, parse text = .ok n) ↔ Parts text.toList) ∧
    (∀ n, parse text = .ok n → n.text = text) ∧
    (parse text = .error (.invalidEmail text) ↔
      ¬ (∀ c ∈ text.toList, Text.isBlankChar c) ∧ ¬ Parts text.toList) ∧
    (∀ e, parse text = .error e → e = .fieldMissing .email ∨ e = .invalidEmail text) ∧
    ((∃ n, parse text = .ok n) ↔ text.toList ∈ pattern) := by
  rw [mem_pattern_iff, ← parts_iff, ← Text.isBlank_iff]
  have hreading := reading_parse text
  generalize parse text = result at hreading
  cases hreading with
  | missing hblank hparts => simp [hblank, hparts]
  | address hblank hparts hn => simp [hblank, hparts, hn]
  | malformed hblank hparts => simp [hblank, hparts]

end OrderDesk.Email
