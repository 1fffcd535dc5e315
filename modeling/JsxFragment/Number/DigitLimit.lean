/-!
The limit on the length of decimal numbers. A longer row of digits is refused rather than read,
since reading takes time that grows faster than the length.
-/

namespace JsxFragment.Number

/-- The most decimal digits that a whole number may have when it is read from a text. -/
def maxDecimalDigits : Nat :=
  4300

/-- The refusal of a number with more digits. -/
def overlongMessage (digitCount : Nat) : String :=
  "Exceeds the limit (" ++ toString maxDecimalDigits
    ++ " digits) for integer string conversion: value has " ++ toString digitCount
    ++ " digits; use sys.set_int_max_str_digits() to increase the limit"

end JsxFragment.Number
