/-!
# Rounding quotients

`roundHalfEven num den` is the whole number nearest to `num / den`; a quotient halfway between two
whole numbers goes to the even one, while with `roundHalfUp` it goes to the upper one.  Main
statements: the result is never more than half a unit off (`roundHalfEven_within`), a quotient that
is already whole is kept (`roundHalfEven_mul`), and rounding does not lead above the dividend
(`roundHalfUp_le`).  Where both rules are in use, `Tie` names them.
-/

namespace OrderDesk.Number

/-- Which of two equally near neighbours is taken. -/
inductive Tie where
  | toEven
  | up
deriving DecidableEq

/-- The whole number nearest to `num / den`, the even one when two are equally near. -/
def roundHalfEven (num den : Nat) : Nat :=
  let q := num / den
  let r := num % den
  if 2 * r < den then q
  else if den < 2 * r then q + 1
  else if q % 2 = 0 then q else q + 1

/-- Rounding moves a quotient by half a unit at most. -/
theorem roundHalfEven_within {num den : Nat} (h : 0 < den) :
    2 * (roundHalfEven num den * den) ≤ 2 * num + den ∧
      2 * num ≤ 2 * (roundHalfEven num den * den) + den := by
  have hdiv := Nat.div_add_mod num den
  have hlt := Nat.mod_lt num h
  have hsucc : (num / den + 1) * den = den * (num / den) + den := by
    rw [Nat.add_mul, Nat.mul_comm]; omega
  have hcomm : num / den * den = den * (num / den) := Nat.mul_comm _ _
  unfold roundHalfEven
  dsimp only
  split
  · omega
  · split
    · omega
    · split <;> omega

/-- A whole quotient is kept. -/
theorem roundHalfEven_mul {q den : Nat} (h : 0 < den) : roundHalfEven (q * den) den = q := by
  simp [roundHalfEven, Nat.mul_div_cancel q h, h]

/-- A quotient that is less than half a unit above a whole number is not rounded above it. -/
theorem roundHalfEven_le {num den n : Nat} (h : 0 < den) (hle : 2 * num < (2 * n + 1) * den) :
    roundHalfEven num den ≤ n := by
  have hwithin : 2 * (roundHalfEven num den * den) ≤ 2 * num + den := (roundHalfEven_within h).1
  have hlt : roundHalfEven num den * den < (n + 1) * den := by
    have hleft : (2 * n + 1) * den = 2 * (n * den) + den := by
      rw [Nat.add_mul, Nat.mul_assoc]; omega
    have hright : (n + 1) * den = n * den + den := Nat.succ_mul n den
    omega
  exact Nat.le_of_lt_succ (Nat.lt_of_mul_lt_mul_right hlt)

/-- A quotient that is not below a whole number is not rounded below it. -/
theorem le_roundHalfEven {num den n : Nat} (h : 0 < den) (hle : n * den ≤ num) :
    n ≤ roundHalfEven num den := by
  have hdiv : n ≤ num / den := (Nat.le_div_iff_mul_le h).2 hle
  unfold roundHalfEven
  dsimp only
  split
  · exact hdiv
  · split
    · omega
    · split <;> omega

/-- The whole number nearest to `num / den`, the upper one when two are equally near. -/
def roundHalfUp (num den : Nat) : Nat := (2 * num + den) / (2 * den)

/-- Rounding does not lead above the dividend. -/
theorem roundHalfUp_le {num den : Nat} (h : 0 < den) : roundHalfUp num den ≤ num := by
  have hmul : num ≤ den * num := Nat.le_mul_of_pos_left num h
  have hsucc : 2 * den * (num + 1) = 2 * (den * num) + 2 * den := by
    rw [Nat.mul_add, Nat.mul_one, Nat.mul_assoc]
  refine Nat.le_of_lt_succ (Nat.div_lt_of_lt_mul ?_)
  rw [Nat.succ_eq_add_one, hsucc]
  omega

end OrderDesk.Number
