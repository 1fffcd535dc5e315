import JsxFragment.Config
import JsxFragment.Node.Nesting
import JsxFragment.Number.DigitLimit

/-!
Why a conversion has no result. Malformed markup is never a reason.
-/

namespace JsxFragment

open Number

/-- Why a conversion has no result. -/
inductive Failure where
  | inputTooLong (limit : Amount) (length : Nat)
  | nestedTooDeep (fault : NestingFault)
  | fractionalIndent (fault : FractionalIndent)
  /-- A character reference with more decimal digits than are read. -/
  | overlongReference (digitCount : Nat)
  deriving DecidableEq, Repr

/-- What a limit is on, the limit, and how much of it was needed. -/
structure Exhaustion where
  resource : String
  limit : Amount
  observed : Nat
  deriving DecidableEq, Repr

namespace Failure

/-- The failure in words. -/
def message : Failure → String
  | .inputTooLong limit length =>
    "Input of " ++ toString length ++ " characters exceeds the limit of " ++ limit.text
  | .nestedTooDeep fault => "Element nesting exceeds the limit of " ++ fault.limit.text
  | .fractionalIndent fault => fault.message
  | .overlongReference digitCount => overlongMessage digitCount

/-- The limit that was exceeded, if that is why. -/
def exhaustion? : Failure → Option Exhaustion
  | .inputTooLong limit length =>
    some { resource := "input_length", limit, observed := length }
  | .nestedTooDeep fault =>
    some { resource := "nesting_depth", limit := fault.limit, observed := fault.depth }
  | .fractionalIndent _ => none
  | .overlongReference _ => none

end Failure

end JsxFragment
