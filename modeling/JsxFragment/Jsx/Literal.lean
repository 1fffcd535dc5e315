import JsxFragment.Json.Writer
import JsxFragment.Text.Blank
import JsxFragment.Text.Case
import JsxFragment.Text.Entity

/-!
The leaves of JSX: text, attribute values, comments, string expressions and template literals, each
written so that its end is where it should be.
-/

namespace JsxFragment.Jsx

open Text

/-- A text in braces, which JSX reads as an expression. -/
def inBraces (s : String) : String :=
  "\x7b" ++ s ++ "\x7d"

/-- A character of text. Braces become string expressions, and angle brackets references. -/
def escapeTextChar (c : Char) : List Char :=
  if c = '\x7b' then "\x7b\"\x7b\"\x7d".toList
  else if c = '\x7d' then "\x7b\"\x7d\"\x7d".toList
  else if c = '<' then "&lt;".toList
  else if c = '>' then "&gt;".toList
  else [c]

/-- A text in which nothing reads as markup. -/
def escapeText (s : String) : String :=
  String.ofList (s.toList.flatMap escapeTextChar)

/-- An attribute value in quotes: double ones unless only single ones spare an escape. -/
def quoteValue (value : String) : String :=
  let characters := value.toList
  if !characters.contains '"' then "\"" ++ value ++ "\""
  else if !characters.contains '\'' then "'" ++ value ++ "'"
  else
    "\"" ++ String.ofList (characters.flatMap fun c => if c = '"' then "&quot;".toList else [c])
      ++ "\""

/-- A comment's text with a space inside every `*/`, so that none of them ends the comment. -/
def breakTerminators (text : List Char) : List Char :=
  text.foldr
    (fun c rest => if c = '*' && rest.head? = some '/' then '*' :: ' ' :: rest else c :: rest) []

/-- A comment, which JSX holds as an expression without a value. -/
def comment (content : String) : String :=
  let body := breakTerminators (trim content.toList)
  if body.isEmpty then inBraces "/* */"
  else inBraces ("/* " ++ String.ofList body ++ " */")

/-- A string expression of a text, with its character references decoded. -/
def stringExpression (text : String) : String :=
  inBraces (Json.literal (String.ofList (Entity.decodeAll text.toList)))

/-- The inside of a template literal: backslashes and backquotes are escaped, and every dollar sign
that would open a substitution. -/
def escapeTemplate (text : List Char) : List Char :=
  text.foldr
    (fun c rest =>
      if c = '\\' || c = '\x60' || (c = '$' && rest.head? = some '\x7b') then '\\' :: c :: rest
      else c :: rest)
    []

/-- A template literal of a text, which is kept as it is. -/
def templateExpression (text : String) : String :=
  inBraces ("\x60" ++ String.ofList (escapeTemplate text.toList) ++ "\x60")

/-- The name of a tag. One in capitals becomes lower case, since JSX would take it for a component. -/
def tagName (tag : String) : String :=
  if upper tag = tag then lower tag else tag

/-- A single space that JSX does not drop. -/
def space : String :=
  inBraces "\" \""

end JsxFragment.Jsx
