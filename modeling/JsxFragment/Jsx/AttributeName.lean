import JsxFragment.Jsx.AttributeNameTable
import JsxFragment.Text.Case
import JsxFragment.Text.Split
import JsxFragment.Text.WordChar

/-!
The names of attributes in JSX: how a name of HTML is spelled there, and which names it has room
for at all.
-/

namespace JsxFragment.Jsx

open Text

/-- The spelling in JSX of an attribute name; a name that is in no table keeps its own. -/
def attributeName (name : String) : String :=
  (attributeNames.lookup (lower name)).getD name

/-- A character after the first one of a name. -/
def isNameRest (c : Char) : Bool :=
  isWordChar c || c = '$' || c = '-'

/-- Part of a name: it begins with a letter of any script, an underscore or a dollar sign. -/
def isNamePart (part : List Char) : Bool :=
  match part with
  | [] => false
  | first :: rest => ((isWordChar first && !isDecimalDigit first) || first = '$') && rest.all isNameRest

/-- A name that an attribute of JSX can have: one part, or two with a colon between them. -/
def isAttributeName (name : String) : Bool :=
  let parts := splitOn ':' name.toList
  parts.length ≤ 2 && parts.all isNamePart

end JsxFragment.Jsx
