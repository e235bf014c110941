/-!
# Digits

Reading and writing digits in base ten and in base sixteen.  A digit has a value (`value?`,
`hexValue?`), a row of digits has the value that its positions give it (`ofDigits`), and
`toDigits base width n` writes `n` with exactly `width` digits.  Main statement:
`ofDigits_toDigits` — a number that fits the width is the value of its own digits.
-/

namespace OrderDesk.Text

/-- The value of a decimal digit. -/
def value? (c : Char) : Option Nat :=
  if '0' ≤ c ∧ c ≤ '9' then some (c.toNat - 48) else none

/-- The value of a hexadecimal digit, in either case. -/
def hexValue? (c : Char) : Option Nat :=
  if '0' ≤ c ∧ c ≤ '9' then some (c.toNat - 48)
  else if 'a' ≤ c ∧ c ≤ 'f' then some (c.toNat - 87)
  else if 'A' ≤ c ∧ c ≤ 'F' then some (c.toNat - 55)
  else none

/-- The digit with a value below sixteen, in lower case. -/
def digit (n : Nat) : Char :=
  if n < 10 then Char.ofNat (48 + n) else Char.ofNat (87 + n)

/-- The value of a row of digits, the most significant one first. -/
def ofDigits (base : Nat) (ds : List Nat) : Nat := ds.foldl (fun v d => base * v + d) 0

/-- The last `width` digits of a number, the most significant one first. -/
def toDigits (base : Nat) : (width : Nat) → Nat → List Nat
  | 0, _ => []
  | width + 1, n => toDigits base width (n / base) ++ [n % base]

@[simp] theorem ofDigits_nil (base : Nat) : ofDigits base [] = 0 := rfl

@[simp] theorem ofDigits_append_singleton (base : Nat) (ds : List Nat) (d : Nat) :
    ofDigits base (ds ++ [d]) = base * ofDigits base ds + d := by
  simp [ofDigits]

@[simp] theorem length_toDigits (base width n : Nat) : (toDigits base width n).length = width := by
  induction width generalizing n with
  | zero => rfl
  | succ width ih => simp [toDigits, ih]

/-- A number is the value of its own digits. -/
theorem ofDigits_toDigits {base width n : Nat} (h : n < Nat.pow base width) :
    ofDigits base (toDigits base width n) = n := by
  induction width generalizing n with
  | zero =>
    have hn : n = 0 := Nat.lt_one_iff.1 h
    rw [hn]
    rfl
  | succ width ih =>
    have hn : n / base < Nat.pow base width := by
      refine Nat.div_lt_of_lt_mul ?_
      rw [Nat.mul_comm]
      exact h
    rw [toDigits, ofDigits_append_singleton, ih hn]
    exact Nat.div_add_mod n base

/-- Each digit of a number is below the base. -/
theorem lt_of_mem_toDigits {base width n d : Nat} (hb : 0 < base)
    (h : d ∈ toDigits base width n) : d < base := by
  induction width generalizing n with
  | zero => simp [toDigits] at h
  | succ width ih =>
    rcases List.mem_append.1 h with h | h
    · exact ih h
    · rw [List.mem_singleton.1 h]
      exact Nat.mod_lt _ hb

theorem hexValue?_digit {n : Nat} (h : n < 16) : hexValue? (digit n) = some n := by
  revert n
  decide

theorem value?_digit {n : Nat} (h : n < 10) : value? (digit n) = some n := by
  revert n
  decide

/-- The number with exactly `width` decimal digits, zeros in front. -/
def padded (width n : Nat) : List Char := (toDigits 10 width n).map digit

/-- The leading digits of a text, and the text after them. -/
def spanDigits (s : List Char) : List Nat × List Char :=
  ((s.takeWhile (fun c => (value? c).isSome)).filterMap value?,
    s.dropWhile (fun c => (value? c).isSome))

/-- The value of a text that holds digits only, and at least one. -/
def readNat? (s : List Char) : Option Nat :=
  match s with
  | [] => none
  | _ => (s.mapM value?).map (ofDigits 10)

/-- The value of a text of digits, behind an optional plus sign. -/
def readNatSigned? : List Char → Option Nat
  | '+' :: s => readNat? s
  | s => readNat? s

end OrderDesk.Text
