import JsxFragment.Json
import JsxFragment.Number.DigitLimit
import JsxFragment.Position
import JsxFragment.Text.Entity
import JsxFragment.Text.WordChar

/-!
Reading of JSON. The numbers that are not finite are read by their names, and of two members with
one name the later value counts. A text that is not JSON is refused with the reason and the place.
-/

namespace JsxFragment

open Number Text

/-- Why a text is not JSON. -/
inductive JsonCause where
  | value
  | memberName
  | colon
  | comma
  | moreText
  | openString
  | controlCharacter
  | escape
  | unicodeEscape
  | byteOrderMark
  deriving DecidableEq, Repr

/-- The reason in words. -/
def JsonCause.message : JsonCause → String
  | .value => "Expecting value"
  | .memberName => "Expecting property name enclosed in double quotes"
  | .colon => "Expecting ':' delimiter"
  | .comma => "Expecting ',' delimiter"
  | .moreText => "Extra data"
  | .openString => "Unterminated string starting at"
  | .controlCharacter => "Invalid control character at"
  | .escape => "Invalid \\escape"
  | .unicodeEscape => "Invalid \\uXXXX escape"
  | .byteOrderMark => "Unexpected UTF-8 BOM (decode using utf-8-sig)"

/-- The values that hold others. -/
inductive JsonContainer where
  | array
  | object
  deriving DecidableEq, Repr

/-- The name of a container. -/
def JsonContainer.name : JsonContainer → String
  | .array => "array"
  | .object => "object"

/-- The refusal of a text: it is not JSON at a place, a number in it is too long, or its values are
nested too deep. -/
inductive JsonFault where
  | malformed (cause : JsonCause) (position : Position)
  | overlongNumber (digitCount : Nat)
  | nestedTooDeep (container : JsonContainer)
  deriving DecidableEq, Repr

namespace Json

/-- A refusal met by the reader; the place is told by the rest of the text from there on. -/
inductive Stop where
  | malformed (cause : JsonCause) (rest : List Char)
  | overlongNumber (digitCount : Nat)
  | nestedTooDeep (container : JsonContainer)

/-- What is read from the beginning of a text, and the rest of the text. -/
abbrev Reading (α : Type) : Type :=
  Except Stop (α × List Char)

/-- The blanks that may stand between the parts of a value. -/
def isGap (c : Char) : Bool :=
  c = ' ' || c = '\t' || c = '\n' || c = '\r'

/-- The text from the next part on. -/
def skipGap (text : List Char) : List Char :=
  text.dropWhile isGap

/-- The text after a word, if it begins with the word. -/
def after? (word : String) (text : List Char) : Option (List Char) :=
  if word.toList.isPrefixOf text then some (text.drop word.length) else none

/-! ## Strings -/

/-- The character of a one-letter escape. -/
def unescape? (c : Char) : Option Char :=
  if c = '"' || c = '\\' || c = '/' then some c
  else if c = 'b' then some '\x08'
  else if c = 'f' then some '\x0C'
  else if c = 'n' then some '\n'
  else if c = 'r' then some '\r'
  else if c = 't' then some '\t'
  else none

/-- The four hexadecimal digits at the beginning of a text. -/
def fourDigits? (text : List Char) : Option (Nat × List Char) :=
  let digits := text.take 4
  if digits.length = 4 && digits.all isHexDigit then some (digitsValue 16 digits, text.drop 4)
  else none

/-- The character of a code unit that is no half of a pair; a lone half cannot be kept. -/
def ofUnit (unit : Nat) : Char :=
  if 0xD800 ≤ unit && unit ≤ 0xDFFF then '\uFFFD' else Char.ofNat unit

/-- Reads the escape whose `\u` has been read; a high surrogate takes the low one after it along. -/
def readUnicodeEscape (text : List Char) : Reading Char :=
  if (text.drop 4).isEmpty then .error (.malformed .unicodeEscape ('u' :: text))
  else
    match fourDigits? text with
    | none => .error (.malformed .unicodeEscape ('u' :: text))
    | some (unit, rest) =>
      if 0xD800 ≤ unit && unit ≤ 0xDBFF && !(rest.drop 6).isEmpty then
        match after? "\\u" rest with
        | none => .ok (ofUnit unit, rest)
        | some digits =>
          match fourDigits? digits with
          | none => .error (.malformed .unicodeEscape ('u' :: digits))
          | some (second, further) =>
            if 0xDC00 ≤ second && second ≤ 0xDFFF then
              .ok (Char.ofNat (0x10000 + (unit - 0xD800) * 0x400 + (second - 0xDC00)), further)
            else .ok (ofUnit unit, rest)
      else .ok (ofUnit unit, rest)

/-- Reads the rest of a string that began `start`, with its opening quote; the characters read so far
have the last one first. Each step takes at least one character, so that `fuel` need not exceed the
length of the text. -/
def readString (start : List Char) : Nat → List Char → List Char → Reading String
  | 0, _, _ => .error (.malformed .openString start)
  | fuel + 1, read, text =>
    match text with
    | [] => .error (.malformed .openString start)
    | '"' :: rest => .ok (String.ofList read.reverse, rest)
    | '\\' :: rest =>
      match rest with
      | [] => .error (.malformed .openString start)
      | 'u' :: digits =>
        match readUnicodeEscape digits with
        | .error stop => .error stop
        | .ok (c, further) => readString start fuel (c :: read) further
      | c :: further =>
        match unescape? c with
        | some unescaped => readString start fuel (unescaped :: read) further
        | none => .error (.malformed .escape text)
    | c :: rest =>
      if c.toNat < 0x20 then .error (.malformed .controlCharacter text)
      else readString start fuel (c :: read) rest

/-! ## Numbers -/

/-- The digits of a fraction at the beginning of a text, if there is one. -/
def readFraction (text : List Char) : List Char × List Char :=
  match text with
  | '.' :: rest =>
    let digits := rest.takeWhile isAsciiDigit
    if digits.isEmpty then ([], text) else (digits, rest.drop digits.length)
  | _ => ([], text)

/-- The exponent at the beginning of a text, if there is one. -/
def readExponent? (text : List Char) : Option Int × List Char :=
  match text with
  | letter :: rest =>
    if letter = 'e' || letter = 'E' then
      let isNegative := rest.head? = some '-'
      let unsigned := if isNegative || rest.head? = some '+' then rest.drop 1 else rest
      let digits := unsigned.takeWhile isAsciiDigit
      if digits.isEmpty then (none, text)
      else
        let size : Int := digitsValue 10 digits
        (some (if isNegative then -size else size), unsigned.drop digits.length)
    else (none, text)
  | [] => (none, text)

/-- The whole part at the beginning of a number: a zero alone, or digits that begin with no zero. -/
def wholeDigits (text : List Char) : List Char :=
  match text with
  | '0' :: _ => ['0']
  | _ => text.takeWhile isAsciiDigit

/-- Reads a number. It is a whole number if it has neither a fraction nor an exponent, and then it
may not have more than so many digits. -/
def readNumber (maxDigits : Nat) (text : List Char) : Reading Json :=
  let isNegative := text.head? = some '-'
  let unsigned := if isNegative then text.drop 1 else text
  let whole := wholeDigits unsigned
  if whole.isEmpty then .error (.malformed .value text)
  else
    let fraction := readFraction (unsigned.drop whole.length)
    let exponent := readExponent? fraction.2
    if fraction.1.isEmpty && exponent.1.isNone then
      if maxDigits < whole.length then .error (.overlongNumber whole.length)
      else
        let value : Int := digitsValue 10 whole
        .ok (.whole (if isNegative then -value else value), fraction.2)
    else
      let value :=
        Binary64.ofDecimal isNegative (digitsValue 10 (whole ++ fraction.1))
          (exponent.1.getD 0 - fraction.1.length)
      .ok (.real value, exponent.2)

/-! ## Values -/

/-- The values that are written as words. -/
def words : List (String × Json) :=
  [("null", .null), ("true", .bool true), ("false", .bool false), ("NaN", .real .nan),
   ("Infinity", .real (.infinite false)), ("-Infinity", .real (.infinite true))]

/-- The word at the beginning of a text, as a value. -/
def readWord? (text : List Char) : Option (Json × List Char) :=
  words.findSome? fun word => (after? word.1 text).map fun rest => (word.2, rest)

section
variable (maxDigits : Nat)

mutual

/-- Reads a value with room for so many levels of arrays and objects. A level takes two steps and at
least one character, and so does an item, so that `fuel` need not exceed twice the length of the
text. -/
def readValue : Nat → Nat → List Char → Reading Json
  | 0, _, text => .error (.malformed .value text)
  | fuel + 1, room, text =>
    match text with
    | '"' :: rest =>
      match readString text fuel [] rest with
      | .error stop => .error stop
      | .ok (value, further) => .ok (.string value, further)
    | '[' :: rest =>
      match room with
      | 0 => .error (.nestedTooDeep .array)
      | inner + 1 =>
        match skipGap rest with
        | ']' :: further => .ok (.array [], further)
        | items =>
          match readItems fuel inner [] items with
          | .error stop => .error stop
          | .ok (values, further) => .ok (.array values, further)
    | '\x7b' :: rest =>
      match room with
      | 0 => .error (.nestedTooDeep .object)
      | inner + 1 =>
        match skipGap rest with
        | '\x7d' :: further => .ok (.object [], further)
        | members =>
          match readMembers fuel inner [] members with
          | .error stop => .error stop
          | .ok (fields, further) => .ok (.object fields, further)
    | _ =>
      match readWord? text with
      | some word => .ok word
      | none => readNumber maxDigits text

/-- Reads the items of an array up to its end; those read so far have the last one first. -/
def readItems : Nat → Nat → List Json → List Char → Reading (List Json)
  | 0, _, _, text => .error (.malformed .value text)
  | fuel + 1, room, read, text =>
    match readValue fuel room text with
    | .error stop => .error stop
    | .ok (value, rest) =>
      match skipGap rest with
      | ']' :: further => .ok ((value :: read).reverse, further)
      | ',' :: further => readItems fuel room (value :: read) (skipGap further)
      | other => .error (.malformed .comma other)

/-- Reads the members of an object up to its end, after those that are `read` already. -/
def readMembers : Nat → Nat → List (String × Json) → List Char → Reading (List (String × Json))
  | 0, _, _, text => .error (.malformed .memberName text)
  | fuel + 1, room, read, text =>
    match text with
    | '"' :: quoted =>
      match readString text fuel [] quoted with
      | .error stop => .error stop
      | .ok (name, rest) =>
        match skipGap rest with
        | ':' :: valueText =>
          match readValue fuel room (skipGap valueText) with
          | .error stop => .error stop
          | .ok (value, rest) =>
            match skipGap rest with
            | '\x7d' :: further => .ok (put read name value, further)
            | ',' :: further => readMembers fuel room (put read name value) (skipGap further)
            | other => .error (.malformed .comma other)
        | other => .error (.malformed .colon other)
    | _ => .error (.malformed .memberName text)

end

end

/-- The place in a text from which the rest is left. -/
def placeOf (text rest : List Char) : Position :=
  (text.take (text.length - rest.length)).foldl Position.advance .first

/-- The refusal with its place told from the beginning of the text. -/
def Stop.toFault (text : List Char) : Stop → JsonFault
  | .malformed cause rest => .malformed cause (placeOf text rest)
  | .overlongNumber digitCount => .overlongNumber digitCount
  | .nestedTooDeep container => .nestedTooDeep container

/-- Reads a text that is one value, with gaps at most around it, whose whole numbers have no more
digits than a limit and whose arrays and objects are nested no deeper than another one. -/
def readText (maxDigits maxLevels : Nat) (text : List Char) : Except JsonFault Json :=
  if text.head? = some '\uFEFF' then .error (.malformed .byteOrderMark .first)
  else
    match readValue maxDigits (2 * (text.length + 1)) maxLevels (skipGap text) with
    | .error stop => .error (stop.toFault text)
    | .ok (value, rest) =>
      match skipGap rest with
      | [] => .ok value
      | other => .error ((Stop.malformed .moreText other).toFault text)

/-- Reads a string that is one value, nested no deeper than a limit. -/
def parseWithin (limit : Nat) (s : String) : Except JsonFault Json :=
  readText maxDecimalDigits limit s.toList

/-- Reads a string that is one value, however deep it is nested: each level takes a character at
least, so that there are fewer levels than the limit here. -/
def parse (s : String) : Except JsonFault Json :=
  parseWithin (s.length + 1) s

/-- Reads a string that is one value, however deep it is nested and however long its numbers are. -/
def parseUnbounded (s : String) : Except JsonFault Json :=
  readText s.length (s.length + 1) s.toList

end Json

/-- The refusal in words. -/
def JsonFault.message : JsonFault → String
  | .malformed cause position =>
    cause.message ++ ": line " ++ toString position.line ++ " column "
      ++ toString position.column ++ " (char " ++ toString position.offset ++ ")"
  | .overlongNumber digitCount => overlongMessage digitCount
  | .nestedTooDeep container =>
    "maximum recursion depth exceeded while decoding a JSON " ++ container.name
      ++ " from a unicode string"

end JsxFragment
