import JsxFragment.Jsx.AttributeName
import JsxFragment.Jsx.Literal
import JsxFragment.Jsx.Style
import JsxFragment.Node

/-!
Attributes of JSX elements, and what there is to tell of those that are lost or not fully
converted.
-/

namespace JsxFragment.Jsx

/-- What is lost of an element's attributes. -/
inductive Notice where
  /-- An attribute whose name JSX has no room for. -/
  | droppedAttribute (tag name : String)
  /-- Part of a style that is no declaration. -/
  | skippedDeclaration (tag declaration : String)
  /-- A style without a single declaration, which stays a string. -/
  | keptStyle (tag style : String)
  deriving DecidableEq, Repr

/-- The notice in words. -/
def Notice.message : Notice → String
  | .droppedAttribute tag _ => "Dropped attribute on <" ++ tag ++ "> with a name JSX cannot express"
  | .skippedDeclaration tag _ => "Skipped invalid style declaration on <" ++ tag ++ ">"
  | .keptStyle tag _ => "Kept style attribute on <" ++ tag ++ "> as a string"

/-- The text that is lost or kept, under the name of what it is. -/
def Notice.detail : Notice → String × String
  | .droppedAttribute _ name => ("attribute", name)
  | .skippedDeclaration _ declaration => ("declaration", declaration)
  | .keptStyle _ style => ("style", style)

/-- The style that an attribute gives, if it is a style attribute with a value. -/
def style? (given : Attribute) : Option String :=
  if Text.lower given.name = "style" then given.value else none

/-- An attribute as it is written in JSX, unless JSX has no room for its name. -/
def writeAttribute? (given : Attribute) : Option String :=
  let name := attributeName given.name
  if !isAttributeName name then none
  else
    match given.value, style? given with
    | none, _ => some name
    | some value, none => some (name ++ "=" ++ quoteValue value)
    | some value, some style =>
      let conversion := Style.convert style
      if conversion.succeeded then some ("style=" ++ conversion.expression)
      else some ("style=" ++ quoteValue value)

/-- What there is to tell of an attribute of an element with this tag. -/
def attributeNotices (tag : String) (given : Attribute) : List Notice :=
  if !isAttributeName (attributeName given.name) then [.droppedAttribute tag given.name]
  else
    match style? given with
    | none => []
    | some style =>
      let conversion := Style.convert style
      conversion.skipped.map (.skippedDeclaration tag)
        ++ if conversion.succeeded then [] else [.keptStyle tag style]

/-- The attributes of an element, each after a space. -/
def writeAttributes (attributes : List Attribute) : String :=
  String.join ((attributes.filterMap writeAttribute?).map (" " ++ ·))

end JsxFragment.Jsx
