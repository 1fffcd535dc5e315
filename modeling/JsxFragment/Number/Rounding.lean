/-!
Division of natural numbers rounded to the nearest quotient; a tie goes to the even neighbour.
-/

namespace JsxFragment.Number

/-- The quotient rounded to the nearest natural number, a tie to the even one. -/
def roundDiv (numerator denominator : Nat) : Nat :=
  let quotient := numerator / denominator
  let twice := 2 * (numerator % denominator)
  if twice < denominator then quotient
  else if denominator < twice then quotient + 1
  else quotient + quotient % 2

/-- The rounded quotient is within half a unit of the exact one. -/
theorem roundDiv_within_half (numerator : Nat) {denominator : Nat} (positive : 0 < denominator) :
    2 * numerator ≤ 2 * (denominator * roundDiv numerator denominator) + denominator ∧
      2 * (denominator * roundDiv numerator denominator) ≤ 2 * numerator + denominator := by
  have division := Nat.div_add_mod numerator denominator
  have remainder := Nat.mod_lt numerator positive
  have parity : numerator / denominator % 2 = 0 ∨ numerator / denominator % 2 = 1 := by omega
  unfold roundDiv
  dsimp only
  split
  · constructor <;> omega
  · split
    · rw [Nat.mul_add]
      constructor <;> omega
    · rcases parity with even | odd
      · rw [even, Nat.add_zero]
        constructor <;> omega
      · rw [odd, Nat.mul_add]
        constructor <;> omega

end JsxFragment.Number
