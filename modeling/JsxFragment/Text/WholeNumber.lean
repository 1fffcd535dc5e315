import JsxFragment.Number.DigitLimit
import JsxFragment.Text.Blank
import JsxFragment.Text.Split
import JsxFragment.Text.WordChar

/-!
Whole numbers as people type them: with a sign, with blanks around them, with single underscores
between digits, and in the digits of any script.
-/

namespace JsxFragment.Text

/-- A blank that may stand around a number: any but the four separator controls of ASCII. -/
def isNumberBlank (c : Char) : Bool :=
  isBlank c && !(0x1C ≤ c.toNat && c.toNat ≤ 0x1F)

/-- The value of groups of digits, the most significant digit first. -/
def groupsValue (groups : List (List Char)) : Nat :=
  groups.flatten.foldl (fun value c => value * 10 + (digitValue? c).getD 0) 0

/-- Reads a number without its sign. -/
def readUnsigned? (text : List Char) : Option Nat :=
  let groups := splitOn '_' text
  if groups.all (fun group => !group.isEmpty && group.all isDecimalDigit)
      && groups.flatten.length ≤ Number.maxDecimalDigits then
    some (groupsValue groups)
  else none

/-- Reads a whole number. -/
def readWholeNumber? (s : String) : Option Int :=
  let unpadded := (s.toList.dropWhile isNumberBlank).reverse.dropWhile isNumberBlank
  match unpadded.reverse with
  | '-' :: rest => (readUnsigned? rest).map fun n => -(n : Int)
  | '+' :: rest => (readUnsigned? rest).map fun n => (n : Int)
  | text => (readUnsigned? text).map fun n => (n : Int)

end JsxFragment.Text
