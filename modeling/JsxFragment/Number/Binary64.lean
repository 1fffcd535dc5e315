import JsxFragment.Number.Rounding

/-!
Floating-point numbers of 64 bits, each kept as what it is exactly: a sign, a significand and a
power of two. Every operation works on the exact value and rounds once, to the nearest number that
can be represented and on a tie to the one with an even significand.
-/

namespace JsxFragment.Number

/-- A floating-point number. A finite one is its significand times two to the exponent; the
significand has at most 53 bits, and has fewer only under the least exponent. -/
inductive Binary64 where
  | nan
  | infinite (negative : Bool)
  | finite (negative : Bool) (significand : Nat) (exponent : Int)
  deriving DecidableEq, Repr

namespace Binary64

/-- The exponent of the finest numbers. -/
def leastExponent : Int :=
  -1074

/-- The exponent of the coarsest numbers. -/
def greatestExponent : Int :=
  971

/-- Zero, of either sign. -/
def zero (negative : Bool) : Binary64 :=
  .finite negative 0 leastExponent

/-- The product of a natural number and a power of two, as a numerator and a denominator. -/
def scaled (n : Nat) (exponent : Int) : Nat × Nat :=
  if 0 ≤ exponent then (n * Nat.pow 2 exponent.toNat, 1) else (n, Nat.pow 2 (-exponent).toNat)

/-- The number nearest to a quotient of natural numbers. -/
def ofRatio (negative : Bool) (numerator denominator : Nat) : Binary64 :=
  if numerator = 0 then zero negative
  else
    let estimate : Int := (Nat.log2 numerator : Int) - Nat.log2 denominator - 52
    let lowest := scaled (Nat.pow 2 52 * denominator) estimate
    let normal := if numerator * lowest.2 < lowest.1 then estimate - 1 else estimate
    let exponent := max normal leastExponent
    let reduced := scaled numerator (-exponent)
    let significand := roundDiv reduced.1 (reduced.2 * denominator)
    let carried := significand = Nat.pow 2 53
    let exponent := if carried then exponent + 1 else exponent
    if greatestExponent < exponent then .infinite negative
    else .finite negative (if carried then Nat.pow 2 52 else significand) exponent

/-- The number nearest to a natural number times a power of ten. Magnitudes far outside the range
are settled by their size alone. -/
def ofDecimal (negative : Bool) (digits : Nat) (exponent : Int) : Binary64 :=
  let size : Int := (Nat.log2 digits : Int) * 30103 / 100000 + exponent
  if digits = 0 then zero negative
  else if 400 < size then .infinite negative
  else if size < -400 then zero negative
  else if 0 ≤ exponent then ofRatio negative (digits * Nat.pow 10 exponent.toNat) 1
  else ofRatio negative digits (Nat.pow 10 (-exponent).toNat)

/-- The number nearest to an integer. -/
def ofInt (n : Int) : Binary64 :=
  ofRatio (decide (n < 0)) n.natAbs 1

/-- The finite number exactly, as a signed numerator over a denominator. -/
def toRatio (negative : Bool) (significand : Nat) (exponent : Int) : Int × Nat :=
  let magnitude := scaled significand exponent
  (if negative then -(magnitude.1 : Int) else magnitude.1, magnitude.2)

/-- Whether an integer is at most the number. -/
def intLe (n : Int) : Binary64 → Bool
  | .nan => false
  | .infinite negative => !negative
  | .finite negative significand exponent =>
    let ratio := toRatio negative significand exponent
    n * ratio.2 ≤ ratio.1

/-- Whether the number is at most an integer. -/
def leInt : Binary64 → Int → Bool
  | .nan, _ => false
  | .infinite negative, _ => negative
  | .finite negative significand exponent, n =>
    let ratio := toRatio negative significand exponent
    ratio.1 ≤ n * ratio.2

/-- Whether the number is zero, of either sign. -/
def isZero : Binary64 → Bool
  | .finite _ significand _ => significand == 0
  | _ => false

/-- Whether the number carries a minus sign. -/
def isNegative : Binary64 → Bool
  | .nan => false
  | .infinite negative => negative
  | .finite negative _ _ => negative

/-- The product, rounded. -/
def mul : Binary64 → Binary64 → Binary64
  | .nan, _ => .nan
  | _, .nan => .nan
  | .infinite a, y => if y.isZero then .nan else .infinite (a != y.isNegative)
  | x, .infinite b => if x.isZero then .nan else .infinite (x.isNegative != b)
  | .finite a m p, .finite b n q =>
    let product := scaled (m * n) (p + q)
    ofRatio (a != b) product.1 product.2

/-- The quotient, rounded; the divisor is not zero. -/
def div : Binary64 → Binary64 → Binary64
  | .nan, _ => .nan
  | _, .nan => .nan
  | .infinite _, .infinite _ => .nan
  | .infinite a, y => .infinite (a != y.isNegative)
  | x, .infinite b => zero (x.isNegative != b)
  | .finite a m p, .finite b n q =>
    if n = 0 then .nan
    else
      let quotient := scaled m (p - q)
      ofRatio (a != b) quotient.1 (quotient.2 * n)

end Binary64

end JsxFragment.Number
