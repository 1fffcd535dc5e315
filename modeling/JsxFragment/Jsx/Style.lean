import JsxFragment.Json.Writer
import JsxFragment.Text.Blank
import JsxFragment.Text.Case
import JsxFragment.Text.Split
import JsxFragment.Text.WordChar

/-!
Style attributes. A style is cut into declarations; those that name a property and give it a value
become members of an object, and the others are left out and listed.
-/

namespace JsxFragment.Jsx.Style

open Text

/-! ## Cutting a style into declarations -/

/-- Where a style has been cut so far. All lists have their last element first. -/
structure Cut where
  pieces : List (List Char) := []
  current : List Char := []
  /-- The quote that is open, if there is one. -/
  quote : Option Char := none
  /-- How many parentheses are open. -/
  depth : Nat := 0

/-- The cut after one more character. A semicolon cuts outside quotes and parentheses alone. -/
def Cut.step (cut : Cut) (c : Char) : Cut :=
  let kept := { cut with current := c :: cut.current }
  match cut.quote with
  | some quote => if c = quote then { kept with quote := none } else kept
  | none =>
    if c = '\'' || c = '"' then { kept with quote := some c }
    else if c = '(' then { kept with depth := cut.depth + 1 }
    else if c = ')' then { kept with depth := cut.depth - 1 }
    else if c = ';' && cut.depth = 0 then
      { cut with pieces := cut.current.reverse :: cut.pieces, current := [] }
    else kept

/-- The pieces of a style between the semicolons that separate declarations. -/
def split (style : List Char) : List (List Char) :=
  let cut := style.foldl Cut.step {}
  (cut.current.reverse :: cut.pieces).reverse

/-- The pieces of a style as strings. -/
def splitDeclarations (style : String) : List String :=
  (split style.toList).map String.ofList

/-! ## Property names -/

/-- A letter of ASCII or an underscore. -/
def isNameFirst (c : Char) : Bool :=
  isAsciiLetter c || c = '_'

/-- A property name after the hyphens that it may begin with. -/
def isNameBody (text : List Char) : Bool :=
  match text with
  | [] => false
  | first :: rest =>
    isNameFirst first && rest.all fun c => isNameFirst c || isAsciiDigit c || c = '-'

/-- The name of a property, of a vendor's property, or of a custom property. -/
def isPropertyName (text : List Char) : Bool :=
  match text with
  | '-' :: '-' :: rest => isNameBody rest
  | '-' :: rest => isNameBody rest
  | _ => isNameBody text

/-- A word with a capital as its first letter. -/
def capitalize (word : List Char) : List Char :=
  match word with
  | [] => []
  | first :: rest => upperText [first] ++ rest

/-- The key of a property: a custom property keeps its name, and of any other the hyphens go and the
words after them are capitalized, save that the vendor `ms` stays in small letters. -/
def keyOf (name : List Char) : List Char :=
  let trimmedName := trim name
  if "--".toList.isPrefixOf trimmedName then trimmedName
  else
    let lowered := lowerText trimmedName
    let unprefixed := if "-ms-".toList.isPrefixOf lowered then lowered.drop 1 else lowered
    match splitOn '-' unprefixed with
    | [] => []
    | first :: rest => first ++ rest.flatMap capitalize

/-- The key of a property, given its name as a string. -/
def propertyKey (name : String) : String :=
  String.ofList (keyOf name.toList)

/-! ## Conversion -/

/-- A style, converted: its declarations with their keys, and the pieces that are none. -/
structure Conversion where
  source : String
  declarations : List (String × String) := []
  skipped : List String := []

/-- A declaration in a piece of a style, which has no blanks at its ends. -/
def declaration? (piece : List Char) : Option (String × String) :=
  match cutAt ':' piece with
  | (_, none) => none
  | (before, some after) =>
    let name := trim before
    let value := trim after
    if value.isEmpty || !isPropertyName name then none
    else some (String.ofList (keyOf name), String.ofList value)

/-- Converts a style. Pieces that are blank count for nothing. -/
def convert (source : String) : Conversion :=
  let pieces := ((split source.toList).map trim).filter (!·.isEmpty)
  { source
    declarations := pieces.filterMap declaration?
    skipped := (pieces.filter fun piece => (declaration? piece).isNone).map String.ofList }

namespace Conversion

/-- Whether the source holds nothing but separators and the blanks of HTML. -/
def isEmptySource (conversion : Conversion) : Bool :=
  conversion.source.toList.all fun c =>
    c = ' ' || c = '\t' || c = '\n' || c = '\r' || c = '\x0C' || c = ';'

/-- Whether the style can be written as an object. -/
def succeeded (conversion : Conversion) : Bool :=
  !conversion.declarations.isEmpty || conversion.isEmptySource

end Conversion

/-- A text without the line feed that it may end with. -/
def dropLastLineFeed (text : List Char) : List Char :=
  if text.getLast? = some '\n' then text.dropLast else text

/-- A name that stands as a key without quotes: an identifier of ASCII, be it followed by a line
feed or not. -/
def isBareKey (text : List Char) : Bool :=
  match dropLastLineFeed text with
  | [] => false
  | first :: rest =>
    (isNameFirst first || first = '$')
      && rest.all fun c => isNameFirst c || c = '$' || isAsciiDigit c

/-- A key of an object. -/
def writeKey (key : String) : String :=
  if isBareKey key.toList then key else Json.literal key

/-- The object of a list of declarations, as an expression. -/
def objectExpression (declarations : List (String × String)) : String :=
  let members := declarations.map fun declared =>
    writeKey declared.1 ++ ": " ++ Json.literal declared.2
  "\x7b\x7b" ++ ", ".intercalate members ++ "\x7d\x7d"

/-- The object of a converted style, as an expression. -/
def Conversion.expression (conversion : Conversion) : String :=
  objectExpression conversion.declarations

end JsxFragment.Jsx.Style
