import JsxFragment.Number.Amount

/-!
# Counts below an amount

A count that does not exceed an amount had not come up to it one step before.
-/

namespace JsxFragment.Number

theorem Binary64.toRatio_pos (negative : Bool) (significand : Nat) (exponent : Int) :
    0 < (toRatio negative significand exponent).2 := by
  unfold toRatio scaled
  dsimp only
  split
  · exact Nat.one_pos
  · exact Nat.two_pow_pos _

theorem Amount.reachedBy_eq_false_of_lt {amount : Amount} {earlier count : Nat}
    (within : amount.exceededBy count = false) (before : earlier < count) :
    amount.reachedBy earlier = false := by
  cases amount with
  | whole n =>
      simp only [exceededBy, decide_eq_false_iff_not] at within
      simp only [reachedBy, leInt, decide_eq_false_iff_not]
      omega
  | truth b =>
      simp only [exceededBy, decide_eq_false_iff_not] at within
      simp only [reachedBy, leInt, decide_eq_false_iff_not]
      cases b with
      | false =>
          simp only [Bool.false_eq_true, if_false] at within ⊢
          omega
      | true =>
          simp only [if_true] at within ⊢
          omega
  | real x =>
      cases x with
      | nan => rfl
      | infinite negative =>
          simpa [exceededBy, reachedBy, leInt, Binary64.intLe, Binary64.leInt] using within
      | finite negative significand exponent =>
          simp only [exceededBy, Binary64.intLe, Bool.not_eq_false', decide_eq_true_eq] at within
          simp only [reachedBy, leInt, Binary64.leInt, decide_eq_false_iff_not]
          have denominator := Binary64.toRatio_pos negative significand exponent
          generalize Binary64.toRatio negative significand exponent = ratio at within denominator ⊢
          have scaled : (earlier : Int) * ratio.2 < count * ratio.2 :=
            Int.mul_lt_mul_of_pos_right (by omega) (by omega)
          omega

end JsxFragment.Number
