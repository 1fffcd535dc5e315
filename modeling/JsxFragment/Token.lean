import JsxFragment.Position

/-!
Tokens: the smallest parts of a markup text that have a meaning of their own.
-/

namespace JsxFragment

/-- The kinds of tokens. -/
inductive TokenKind where
  /-- The `<` of a start tag or the `</` of an end tag. -/
  | tagStart
  | tagName
  | attributeName
  /-- The value of an attribute, without its quotes. -/
  | attributeValue
  /-- The `>` or `/>` of a tag. -/
  | tagEnd
  | text
  | comment
  | cdata
  | doctype
  deriving DecidableEq, Repr

/-- Whether tokens of the kind make up tags. -/
def TokenKind.isTagPart : TokenKind → Bool
  | .tagStart | .tagName | .attributeName | .attributeValue | .tagEnd => true
  | .text | .comment | .cdata | .doctype => false

/-- A token: its kind, its text, and the place where it begins. -/
structure Token where
  kind : TokenKind
  value : String
  position : Position
  deriving DecidableEq, Repr

end JsxFragment
