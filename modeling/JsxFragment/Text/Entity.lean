import JsxFragment.Number.DigitLimit
import JsxFragment.Text.EntityTable
import JsxFragment.Text.CodeRange
import JsxFragment.Text.Split

/-!
Character references. What stands between one ampersand and the next is read on its own, since no
reference contains an ampersand.
-/

namespace JsxFragment.Text

/-- A hexadecimal digit. -/
def isHexDigit (c : Char) : Bool :=
  let n := c.toNat
  (0x30 ≤ n && n ≤ 0x39) || (0x41 ≤ n && n ≤ 0x46) || (0x61 ≤ n && n ≤ 0x66)

/-- The value of a hexadecimal digit. -/
def hexValue (c : Char) : Nat :=
  let n := c.toNat
  if n ≤ 0x39 then n - 0x30 else if n ≤ 0x46 then n - 0x37 else n - 0x57

/-- The value of a row of digits in the given base. -/
def digitsValue (base : Nat) (digits : List Char) : Nat :=
  digits.foldl (fun value c => value * base + hexValue c) 0

namespace Entity

/-- What the numbers from 128 to 159 stand for: the characters of the Windows code page there. -/
def codePageCharacters : List Nat :=
  [0x20AC, 0x81, 0x201A, 0x0192, 0x201E, 0x2026, 0x2020, 0x2021, 0x02C6, 0x2030, 0x0160, 0x2039,
   0x0152, 0x8D, 0x017D, 0x8F, 0x90, 0x2018, 0x2019, 0x201C, 0x201D, 0x2022, 0x2013, 0x2014,
   0x02DC, 0x2122, 0x0161, 0x203A, 0x0153, 0x9D, 0x017E, 0x0178]

/-- A number that names no character of a text: a control or a noncharacter. -/
def isForbidden (n : Nat) : Bool :=
  inRanges [(0x01, 0x08), (0x0B, 0x0B), (0x0E, 0x1F), (0x7F, 0x9F), (0xFDD0, 0xFDEF)] n
    || (n % 0x10000) ≥ 0xFFFE

/-- The text that a numeric reference stands for. -/
def ofNumber (n : Nat) : List Char :=
  if n = 0 then ['\uFFFD']
  else if 0x80 ≤ n && n ≤ 0x9F then
    [Char.ofNat (codePageCharacters.getD (n - 0x80) n)]
  else if (0xD800 ≤ n && n ≤ 0xDFFF) || 0x10FFFF < n then ['\uFFFD']
  else if isForbidden n then []
  else [Char.ofNat n]

/-- A text without the semicolon that it may begin with. -/
def dropSemicolon : List Char → List Char
  | ';' :: rest => rest
  | text => text

/-- A character that the name of a reference may hold. -/
def isNameChar (c : Char) : Bool :=
  !(c = '\t' || c = '\n' || c = '\x0C' || c = ' ' || c = '<' || c = '&' || c = '#' || c = ';')

/-- The longest of the names that need no semicolon, among those that the text begins with. -/
def longestBareName (text : List Char) : Option String :=
  bareEntityNames.foldl
    (fun best name =>
      if name.toList.isPrefixOf text && (best.getD "").length < name.length then some name
      else best)
    none

/-- The text that a name stands for. -/
def ofName? (name : String) : Option (List Char) :=
  (entities.lookup name).map fun codes => codes.map Char.ofNat

/-- Reads a named reference: a known name closed by a semicolon, or else the longest name that
needs none; a name has at most 32 characters. -/
def expandNamed (after : List Char) : List Char :=
  let name := (after.takeWhile isNameChar).take 32
  let rest := after.drop name.length
  let closed := if rest.head? = some ';' then ofName? (String.ofList name) else none
  match closed with
  | some characters => characters ++ dropSemicolon rest
  | none =>
    match longestBareName name with
    | some bare => (ofName? bare).getD [] ++ after.drop bare.length
    | none => '&' :: after

/-- Reads a numeric reference whose digits begin `digitsOn`; without a digit, `after` is kept. -/
def expandNumeric (base : Nat) (isDigit : Char → Bool) (after digitsOn : List Char) : List Char :=
  let digits := digitsOn.takeWhile isDigit
  if digits.isEmpty then '&' :: after
  else ofNumber (digitsValue base digits) ++ dropSemicolon (digitsOn.drop digits.length)

/-- What an ampersand and the text `after` it, up to the next ampersand, stand for. -/
def expand (after : List Char) : List Char :=
  match after with
  | '#' :: 'x' :: rest => expandNumeric 16 isHexDigit after rest
  | '#' :: 'X' :: rest => expandNumeric 16 isHexDigit after rest
  | '#' :: rest => expandNumeric 10 Char.isDigit after rest
  | _ => expandNamed after

/-- The text with every character reference replaced by what it stands for. -/
def decodeAll (text : List Char) : List Char :=
  match splitOn '&' text with
  | [] => []
  | first :: others => first ++ others.flatMap expand

/-- The number of digits of a decimal reference that follows an ampersand. -/
def decimalDigitCount : List Char → Nat
  | '#' :: rest => (rest.takeWhile Char.isDigit).length
  | _ => 0

/-- The number of digits of the first decimal reference that is too long to be read. -/
def overlongDecimal? (text : List Char) : Option Nat :=
  ((splitOn '&' text).drop 1).map decimalDigitCount |>.find? (Number.maxDecimalDigits < ·)

end Entity

end JsxFragment.Text
