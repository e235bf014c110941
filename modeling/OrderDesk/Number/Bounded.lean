/-!
# Integers between two bounds

`Bounded lo hi` is the type of the integers `n` with `lo ≤ n ≤ hi`.  Quantities, point balances and
requested amounts all have a fixed range, and every operation on them either names what happens
outside the range or stops at its end:

* `Bounded.ofInt?` takes an integer into the range, or refuses it (`ofInt?_eq_some_iff`,
  `ofInt?_eq_none_iff`);
* `Bounded.add?` is addition that refuses to leave the range (`add?_eq_some_iff`).
-/

namespace OrderDesk

/-- An integer that lies between `lo` and `hi`, both included. -/
structure Bounded (lo hi : Int) where
  val : Int
  lo_le : lo ≤ val
  le_hi : val ≤ hi
deriving DecidableEq

namespace Bounded

variable {lo hi : Int}

@[ext] theorem ext {a b : Bounded lo hi} (h : a.val = b.val) : a = b := by
  cases a; cases b; simp_all

/-- The integer as a member of the range, if it is one. -/
def ofInt? (n : Int) : Option (Bounded lo hi) :=
  if h : lo ≤ n ∧ n ≤ hi then some ⟨n, h.1, h.2⟩ else none

theorem ofInt?_eq_some_iff {n : Int} {a : Bounded lo hi} : ofInt? n = some a ↔ a.val = n := by
  unfold ofInt?
  constructor
  · intro h
    split at h
    · cases h; rfl
    · cases h
  · rintro rfl
    simp [a.lo_le, a.le_hi]

theorem ofInt?_eq_none_iff {n : Int} :
    (ofInt? n : Option (Bounded lo hi)) = none ↔ n < lo ∨ hi < n := by
  unfold ofInt?
  split <;> simp <;> omega

@[simp] theorem ofInt?_val (a : Bounded lo hi) : ofInt? a.val = some a :=
  ofInt?_eq_some_iff.2 rfl

/-- The sum, if it stays in the range. -/
def add? (a b : Bounded lo hi) : Option (Bounded lo hi) := ofInt? (a.val + b.val)

theorem add?_eq_some_iff {a b c : Bounded lo hi} : a.add? b = some c ↔ c.val = a.val + b.val :=
  ofInt?_eq_some_iff

/-- Whole numbers are written in base ten, a negative one behind a minus sign. -/
def text (a : Bounded lo hi) : String := toString a.val

end Bounded

/-- A signed number of 32 bits. -/
abbrev Signed32 := Bounded (-2147483648) 2147483647

/-- A signed number of 64 bits. -/
abbrev Signed64 := Bounded (-9223372036854775808) 9223372036854775807

/-- A number of 64 bits without a sign. -/
abbrev Unsigned64 := Bounded 0 18446744073709551615

namespace Unsigned64

/-- The number zero. -/
def zero : Unsigned64 := ⟨0, by decide, by decide⟩

/-- The largest number of 64 bits. -/
def max : Unsigned64 := ⟨18446744073709551615, by decide, by decide⟩

/-- The number nearest to `n` from below that fits 64 bits. -/
def ofNatSaturating (n : Nat) : Unsigned64 :=
  if h : n ≤ 18446744073709551615 then ⟨n, by omega, by omega⟩ else max

/-- Addition that stops at the largest number. -/
def addSaturating (a b : Unsigned64) : Unsigned64 := ofNatSaturating (a.val + b.val).toNat

theorem ofNatSaturating_val (n : Nat) : (ofNatSaturating n).val = min (n : Int) max.val := by
  unfold ofNatSaturating max
  split <;> simp <;> omega

theorem addSaturating_val (a b : Unsigned64) :
    (a.addSaturating b).val = min (a.val + b.val) max.val := by
  have ha := a.lo_le
  have hb := b.lo_le
  rw [addSaturating, ofNatSaturating_val]
  congr 1
  omega

/-- The difference, if it is not negative. -/
def sub? (a b : Unsigned64) : Option Unsigned64 := Bounded.ofInt? (a.val - b.val)

theorem sub?_eq_some_iff {a b c : Unsigned64} : a.sub? b = some c ↔ c.val = a.val - b.val :=
  Bounded.ofInt?_eq_some_iff

theorem sub?_eq_none_iff {a b : Unsigned64} : a.sub? b = none ↔ a.val < b.val := by
  have ha := a.le_hi
  have hb := b.lo_le
  rw [sub?, Bounded.ofInt?_eq_none_iff]
  omega

end Unsigned64

end OrderDesk
