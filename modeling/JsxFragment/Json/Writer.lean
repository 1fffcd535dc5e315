import JsxFragment.Json
import JsxFragment.Text.Quoted

/-!
The text of JSON values: over several lines in ASCII alone, or on one line.
-/

namespace JsxFragment.Json

open Number Text

/-! ## Strings -/

/-- A character that every string literal has to escape, by its short form if it has one. -/
def escapeControl (c : Char) : List Char :=
  if c = '\n' then ['\\', 'n']
  else if c = '\r' then ['\\', 'r']
  else if c = '\t' then ['\\', 't']
  else if c = '\x08' then ['\\', 'b']
  else if c = '\x0C' then ['\\', 'f']
  else '\\' :: 'u' :: hexDigits 4 c.toNat

/-- A character of a string literal that may hold any character. -/
def escapeChar (c : Char) : List Char :=
  if c = '"' || c = '\\' then ['\\', c]
  else if c.toNat < 0x20 then escapeControl c
  else [c]

/-- A character of a string literal that holds ASCII alone; beyond the basic plane it takes the two
halves of its surrogate pair. -/
def escapeAsciiChar (c : Char) : List Char :=
  let n := c.toNat
  if c = '"' || c = '\\' then ['\\', c]
  else if n < 0x20 then escapeControl c
  else if n < 0x7F then [c]
  else if n < 0x10000 then '\\' :: 'u' :: hexDigits 4 n
  else
    '\\' :: 'u' :: hexDigits 4 (0xD800 + (n - 0x10000) / 0x400)
      ++ '\\' :: 'u' :: hexDigits 4 (0xDC00 + (n - 0x10000) % 0x400)

/-- The string literal of a text, with no more escapes than it needs. -/
def literal (s : String) : String :=
  String.ofList ('"' :: s.toList.flatMap escapeChar ++ ['"'])

/-- The string literal of a text, in ASCII alone. -/
def asciiLiteral (s : String) : List Char :=
  '"' :: s.toList.flatMap escapeAsciiChar ++ ['"']

/-! ## Values -/

/-- A number of JSON is written like any other, but for what is not finite. -/
def numberFormat : DecimalFormat :=
  { realFormat with infinity := "Infinity", notANumber := "NaN" }

/-- A line end, and the blanks before a value at this depth. -/
def newLine (depth : Nat) : List Char :=
  '\n' :: List.replicate (2 * depth) ' '

/-- The text between two of the items of an array or an object at this depth. -/
def separate (depth : Nat) (items : List (List Char)) : List Char :=
  match items with
  | [] => []
  | first :: rest => first ++ rest.flatMap fun item => ',' :: newLine depth ++ item

mutual

/-- The text of a value that stands at this depth, over several lines in ASCII alone. -/
def prettyAt (depth : Nat) : Json → List Char
  | .null => "null".toList
  | .bool value => (if value then "true" else "false").toList
  | .whole value => (toString value).toList
  | .real value => (numberFormat.write value).toList
  | .string value => asciiLiteral value
  | .array items =>
    if items.isEmpty then ['[', ']']
    else
      '[' :: newLine (depth + 1) ++ separate (depth + 1) (prettyItems (depth + 1) items)
        ++ newLine depth ++ [']']
  | .object members =>
    if members.isEmpty then ['\x7b', '\x7d']
    else
      '\x7b' :: newLine (depth + 1) ++ separate (depth + 1) (prettyMembers (depth + 1) members)
        ++ newLine depth ++ ['\x7d']

/-- The texts of the items of an array. -/
def prettyItems (depth : Nat) : List Json → List (List Char)
  | [] => []
  | item :: rest => prettyAt depth item :: prettyItems depth rest

/-- The texts of the members of an object. -/
def prettyMembers (depth : Nat) : List (String × Json) → List (List Char)
  | [] => []
  | (name, value) :: rest =>
    (asciiLiteral name ++ ':' :: ' ' :: prettyAt depth value) :: prettyMembers depth rest

end

/-- The text of a value over several lines, in ASCII alone. -/
def pretty (value : Json) : String :=
  String.ofList (prettyAt 0 value)

mutual

/-- The text of a value on one line, added to the text before it. -/
def compactOnto (before : String) : Json → String
  | .null => before ++ "null"
  | .bool value => before ++ if value then "true" else "false"
  | .whole value => before ++ toString value
  | .real value => before ++ numberFormat.write value
  | .string value => before ++ String.ofList (asciiLiteral value)
  | .array items => (compactItems (before.push '[') true items).push ']'
  | .object members => (compactMembers (before.push '\x7b') true members).push '\x7d'

/-- The items of an array on one line. -/
def compactItems (before : String) (isFirst : Bool) : List Json → String
  | [] => before
  | item :: rest =>
    compactItems (compactOnto (if isFirst then before else before.push ',') item) false rest

/-- The members of an object on one line. -/
def compactMembers (before : String) (isFirst : Bool) : List (String × Json) → String
  | [] => before
  | (name, value) :: rest =>
    let named := (if isFirst then before else before.push ',') ++ String.ofList (asciiLiteral name)
    compactMembers (compactOnto (named.push ':') value) false rest

end

/-- The text of a value on one line, in ASCII alone. -/
def compact (value : Json) : String :=
  compactOnto "" value

end JsxFragment.Json
