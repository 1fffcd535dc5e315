import JsxFragment.Text.Blank
import JsxFragment.Text.Case

/-!
What the name of a tag says about its element: whether it can have content, and how its text is to
be read. Names are compared in lower case.
-/

namespace JsxFragment

open Text

/-- The names of the elements that never have content. -/
def voidTagNames : List String :=
  ["area", "base", "br", "col", "embed", "hr", "img", "input", "link", "meta", "param", "source",
   "track", "wbr"]

/-- A tag name whose element never has content and needs no end tag. -/
def isVoidTag (tag : String) : Bool :=
  voidTagNames.contains (lower tag)

/-- A tag name whose element keeps the blanks of its text. -/
def isPreformattedTag (tag : String) : Bool :=
  ["pre", "textarea", "listing"].contains (lower tag)

/-- The elements whose content is text up to their own end tag, whatever it looks like. -/
inductive RawElement where
  | script
  | style
  deriving DecidableEq, Repr

namespace RawElement

/-- The name of the element, in lower case. -/
def name : RawElement → String
  | .script => "script"
  | .style => "style"

/-- The element that a tag name belongs to, if its content is raw text. -/
def ofTag? (tag : String) : Option RawElement :=
  let name := lower tag
  if name = "script" then some .script
  else if name = "style" then some .style
  else none

/-- Whether a character of an end tag stands for a letter of the name: in either case, or as one of
the characters whose own case mappings lead to that letter. -/
def spells (letter c : Char) : Bool :=
  c.toLower = letter || (letter = 's' && c = 'ſ') || (letter = 'i' && (c = 'İ' || c = 'ı'))

/-- How many characters beside the name an end tag of raw text may have. -/
def endTagSlack : Nat :=
  64

/-- An end tag at the very end of a text: its name as it is spelled, and how much of the text it
takes up. Any number of blanks may follow the name. The text is given with its last character first
and without the `>` that would close the tag. -/
def endTagAtEnd? (element : RawElement) (reversed : List Char) : Option (List Char × Nat) :=
  let letters := element.name.toList
  let blanks := reversed.takeWhile isBlank
  let rest := reversed.drop blanks.length
  let spelling := (rest.take letters.length).reverse
  match rest.drop letters.length with
  | '/' :: '<' :: _ =>
    if spelling.length = letters.length
        && (letters.zip spelling).all fun pair => spells pair.1 pair.2 then
      some (spelling, "</".length + letters.length + blanks.length)
    else none
  | _ => none

/-- How many characters at the end of raw text an end tag is looked for in, its `>` included. -/
def searchedLength (element : RawElement) : Nat :=
  element.name.length + endTagSlack

/-- Looks for the end tag at the end of raw text, in a part of it that does not grow with the text.
The text is given with its last character first and without the `>` that would close the tag. The
result is the content before the end tag, last character first, and the name as it is spelled in the
tag. -/
def endTag? (element : RawElement) (reversed : List Char) : Option (List Char × String) :=
  let searched := reversed.take (element.searchedLength - ">".length)
  (element.endTagAtEnd? searched).map fun (spelling, size) =>
    (reversed.drop size, String.ofList spelling)

end RawElement

end JsxFragment
