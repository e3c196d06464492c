/-!
# Rounding a quotient

The natural number nearest to a quotient, with ties to the even neighbour or away from zero.
Main statement: the rounded number is within half a unit of the quotient.
-/

namespace FeedExplorer.Number

/-- The natural number nearest to `num / den`; a tie goes to the even neighbour. -/
def roundEven (num den : Nat) : Nat :=
  let q := num / den
  let r := num % den
  if den < 2 * r ∨ (2 * r = den ∧ q % 2 = 1) then q + 1 else q

/-- The natural number nearest to `num / den`; a tie goes up. -/
def roundUp (num den : Nat) : Nat :=
  (2 * num + den) / (2 * den)

theorem roundEven_near {num den : Nat} (h : 0 < den) :
    2 * num ≤ 2 * (roundEven num den * den) + den ∧
      2 * (roundEven num den * den) ≤ 2 * num + den := by
  have key : num / den * den + num % den = num := by
    rw [Nat.mul_comm]; exact Nat.div_add_mod num den
  have hr := Nat.mod_lt num h
  unfold roundEven
  simp only
  split
  · rw [Nat.add_mul, Nat.one_mul]; omega
  · omega

theorem roundEven_mul (n : Nat) {den : Nat} (h : 0 < den) : roundEven (n * den) den = n := by
  have hr : n * den % den = 0 := Nat.mul_mod_left n den
  have hq : n * den / den = n := Nat.mul_div_cancel n h
  unfold roundEven
  simp only [hr, hq]
  split <;> omega

theorem roundUp_mul (n : Nat) {den : Nat} (h : 0 < den) : roundUp (n * den) den = n := by
  unfold roundUp
  apply Nat.div_eq_of_lt_le
  · rw [Nat.mul_comm n (2 * den)]
    have : 2 * den * n = 2 * (n * den) := by rw [Nat.mul_assoc, Nat.mul_comm den n]
    omega
  · have : (n + 1) * (2 * den) = 2 * (n * den) + 2 * den := by
      rw [Nat.add_mul, Nat.one_mul, ← Nat.mul_assoc, Nat.mul_comm n 2, Nat.mul_assoc]
    omega

theorem roundUp_mono {a b den : Nat} (h : a ≤ b) : roundUp a den ≤ roundUp b den :=
  Nat.div_le_div_right (by omega)

end FeedExplorer.Number
