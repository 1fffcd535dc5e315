import JsxFragment.Number.Binary64

/-!
Decimal text of floating-point numbers: the fewest digits that read back as the same number, and
the text with a fixed number of places.
-/

namespace JsxFragment.Number

/-- A positive decimal number: `digits` as a whole number, times ten to the `exponent`. -/
structure Decimal where
  digits : Nat
  exponent : Int
  deriving DecidableEq, Repr

namespace Binary64

/-- Ten to a power that may be negative, as a numerator and a denominator. -/
def powerOfTen (exponent : Int) : Nat × Nat :=
  if 0 ≤ exponent then (Nat.pow 10 exponent.toNat, 1) else (1, Nat.pow 10 (-exponent).toNat)

/-- The least `p` such that the quotient is less than ten to the `p`. -/
def decimalSize (numerator denominator : Nat) : Int :=
  let estimate : Int :=
    ((Nat.log2 numerator : Int) - Nat.log2 denominator) * 30103 / 100000 - 1
  let isBelow (p : Int) : Bool :=
    let bound := powerOfTen p
    numerator * bound.2 < bound.1 * denominator
  if isBelow estimate then estimate
  else if isBelow (estimate + 1) then estimate + 1
  else if isBelow (estimate + 2) then estimate + 2
  else estimate + 3

/-- The multiple of ten to the `exponent` that reads back as the number, if one of the two
neighbours of its exact value does; of two the nearer, and on a tie the even one. -/
def onGrid? (significand : Nat) (binaryExponent : Int) (exponent : Int) : Option Decimal :=
  let value := scaled significand binaryExponent
  let unit := powerOfTen exponent
  let numerator := value.1 * unit.2
  let denominator := value.2 * unit.1
  let below := numerator / denominator
  let readsBack (digits : Nat) : Bool :=
    ofDecimal false digits exponent = .finite false significand binaryExponent
  let nearest := roundDiv numerator denominator
  if readsBack nearest then some ⟨nearest, exponent⟩
  else if readsBack below then some ⟨below, exponent⟩
  else if readsBack (below + 1) then some ⟨below + 1, exponent⟩
  else none

/-- The decimal with the fewest digits, nearest to the value among those, that reads back. -/
def shortest (significand : Nat) (binaryExponent : Int) : Decimal :=
  let value := scaled significand binaryExponent
  let size := decimalSize value.1 value.2
  let grids := (List.range 17).map fun (k : Nat) => size - 1 - (k : Int)
  (grids.findSome? (onGrid? significand binaryExponent)).getD ⟨significand, binaryExponent⟩

end Binary64

/-- How a decimal number is written: positional where its point stands after more than `least` and
at most `greatest` digits, and with an exponent of at least two digits elsewhere. -/
structure DecimalFormat where
  least : Int
  greatest : Int
  infinity : String
  notANumber : String

namespace DecimalFormat

/-- The digits without trailing zeros. -/
def significantDigits (decimal : Decimal) : List Char :=
  ((Nat.toDigits 10 decimal.digits).reverse.dropWhile (· = '0')).reverse

/-- A number of at least two digits. -/
def twoDigits (n : Nat) : List Char :=
  let digits := Nat.toDigits 10 n
  if digits.length < 2 then '0' :: digits else digits

/-- The text of a positive decimal number. -/
def writeDecimal (format : DecimalFormat) (decimal : Decimal) : List Char :=
  let point : Int := (Nat.toDigits 10 decimal.digits).length + decimal.exponent
  let digits := significantDigits decimal
  if format.least < point && point ≤ format.greatest then
    if point ≤ 0 then '0' :: '.' :: List.replicate (-point).toNat '0' ++ digits
    else
      let whole := digits.take point.toNat
      let places := digits.drop point.toNat
      whole ++ List.replicate (point.toNat - whole.length) '0'
        ++ '.' :: (if places.isEmpty then ['0'] else places)
  else
    let exponent := point - 1
    digits.take 1 ++ (if digits.length ≤ 1 then [] else '.' :: digits.drop 1)
      ++ 'e' :: (if exponent < 0 then '-' else '+') :: twoDigits exponent.natAbs

/-- The text of a floating-point number. -/
def write (format : DecimalFormat) : Binary64 → String
  | .nan => format.notANumber
  | .infinite negative => (if negative then "-" else "") ++ format.infinity
  | .finite negative significand exponent =>
    (if negative then "-" else "")
      ++ String.ofList
        (if significand = 0 then ['0', '.', '0']
        else format.writeDecimal (Binary64.shortest significand exponent))

end DecimalFormat

/-- The text of a floating-point number with exactly six decimal places. -/
def sixPlaces : Binary64 → String
  | .nan => "nan"
  | .infinite negative => if negative then "-inf" else "inf"
  | .finite negative significand exponent =>
    let value := Binary64.scaled significand exponent
    let digits := Nat.toDigits 10 (roundDiv (value.1 * Nat.pow 10 6) value.2)
    let padded := List.replicate (7 - digits.length) '0' ++ digits
    (if negative then "-" else "")
      ++ String.ofList
        (padded.take (padded.length - 6) ++ '.' :: padded.drop (padded.length - 6))

end JsxFragment.Number
