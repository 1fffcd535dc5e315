import JsxFragment.Number.Shortest

/-!
Numbers as a configuration may hold them. Whole numbers have any size, and a truth value counts as
one or zero; each keeps the form in which it was given.
-/

namespace JsxFragment.Number

/-- A number in one of the forms that a configuration may use. -/
inductive Amount where
  | whole (n : Int)
  | real (x : Binary64)
  | truth (b : Bool)
  deriving DecidableEq, Repr

/-- A floating-point number is written positionally from 0.0001 up to sixteen whole digits. -/
def realFormat : DecimalFormat :=
  { least := -4, greatest := 16, infinity := "inf", notANumber := "nan" }

namespace Amount

/-- Whether an integer is at most the amount; no integer is at most a number that is none. -/
def intLe (n : Int) : Amount → Bool
  | .whole m => n ≤ m
  | .real x => Binary64.intLe n x
  | .truth b => n ≤ if b then 1 else 0

/-- Whether the amount is at most an integer. -/
def leInt : Amount → Int → Bool
  | .whole m, n => m ≤ n
  | .real x, n => Binary64.leInt x n
  | .truth b, n => (if b then 1 else 0) ≤ n

/-- Whether a count has come up to the amount. -/
def reachedBy (amount : Amount) (count : Nat) : Bool :=
  amount.leInt count

/-- Whether a count has gone beyond the amount. -/
def exceededBy (amount : Amount) (count : Nat) : Bool :=
  match amount with
  | .whole m => m < count
  | .real .nan => false
  | .real x => !Binary64.intLe count x
  | .truth b => (if b then 1 else 0) < count

/-- The amount in words, as messages show it. -/
def text : Amount → String
  | .whole n => toString n
  | .real x => realFormat.write x
  | .truth b => if b then "True" else "False"

theorem reachedBy_whole (n count : Nat) : reachedBy (.whole n) count = decide (n ≤ count) := by
  simp [reachedBy, leInt]

theorem exceededBy_whole (n count : Nat) : exceededBy (.whole n) count = decide (n < count) := by
  simp [exceededBy]

end Amount

end JsxFragment.Number
