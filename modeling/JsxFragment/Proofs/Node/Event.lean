import JsxFragment.Proofs.Node.Outline
import JsxFragment.Proofs.Token.Phrase

/-!
# Events

What tokens say about the nodes of their fragment, without a tree: in which order nodes come, and
how many elements are open around each. Only the tags that are open are kept.
-/

namespace JsxFragment

open Text

/-! ## Events -/

/-- A part of a token list that bears on the nodes of the fragment. -/
inductive Event where
  | text (content : String)
  | comment (content : String)
  | doctype
  | startTag (name : String) (selfClosing : Bool)
  | endTag (name : String)
  deriving DecidableEq, Repr

namespace Event

/-- Text right before other text is one text with it. -/
def joinText (content : String) : List Event → List Event
  | .text more :: events => .text (content ++ more) :: events
  | events => .text content :: events

/-- The event of a tag that begins with the marker and has the lexemes after it: its name is that
of the next tag name, and it ends with the next end of a tag. -/
def ofTag (marker : String) (after : List Lexeme) : Event :=
  let name := ((after.find? (·.kind = .tagName)).map (·.value)).getD ""
  if marker = "</" then .endTag name
  else .startTag name ((after.find? (·.kind = .tagEnd)).any (·.value = "/>"))

/-- The events of a token list, in order. -/
def ofLexemes : List Lexeme → List Event
  | [] => []
  | lexeme :: rest =>
      match lexeme.kind with
      | .text | .cdata => joinText lexeme.value (ofLexemes rest)
      | .comment => .comment lexeme.value :: ofLexemes rest
      | .doctype => .doctype :: ofLexemes rest
      | .tagStart => ofTag lexeme.value rest :: ofLexemes rest
      | .tagName | .attributeName | .attributeValue | .tagEnd => ofLexemes rest

end Event

/-! ## Open tags -/

/-- What an event tells of the node that it creates. -/
inductive Label where
  | text (content : String)
  | comment (content : String)
  | element (tag : String)
  deriving DecidableEq, Repr

/-- What is told of a node. -/
def Node.label : Node → Label
  | .text content => .text content
  | .comment content => .comment content
  | .element head _ => .element head.tag

/-- The tags still open after an end tag, the innermost first: it closes the innermost one of its
name, in any case, and all inside it. -/
def closeTag (opened : List String) (name : String) : List String :=
  if isVoidTag name then opened
  else
    match opened.dropWhile fun tag => lower tag ≠ lower name with
    | [] => opened
    | _ :: outer => outer

/-- The nodes that the events create, in order, each with the number of tags that are open where it
stands. The tags open at first are `opened`, the innermost first. -/
def Event.outline (opened : List String) : List Event → List (Nat × Label)
  | [] => []
  | .text content :: rest => (opened.length, .text content) :: outline opened rest
  | .comment content :: rest => (opened.length, .comment content) :: outline opened rest
  | .doctype :: rest => outline opened rest
  | .startTag name selfClosing :: rest =>
      (opened.length, .element name) ::
        outline (if isVoidTag name || selfClosing then opened else name :: opened) rest
  | .endTag name :: rest => outline (closeTag opened name) rest

end JsxFragment
