import JsxFragment.Jsx.Attribute
import JsxFragment.Jsx.Block

/-!
The layout of a document fragment as JSX. Blanks in text that stand for formatting alone are
dropped, and those that separate what is next to them are kept; inside preformatted elements all
text is kept as it is.
-/

namespace JsxFragment.Jsx

open Text

/-- A node among its siblings, once all below it is laid out. -/
inductive Sibling where
  | text (content : String)
  | block (block : Block)

/-- Part of the content of an element: text that could share a line with the tags, or a block. -/
inductive Piece where
  | text (text : String)
  | block (block : Block)

/-- The piece on lines of its own. -/
def Piece.toBlock : Piece → Block
  | .text written => .line written
  | .block laidOut => laidOut

/-! ## Text -/

/-- Joins the texts that are next to each other. -/
def mergeTexts (siblings : List Sibling) : List Sibling :=
  siblings.foldr
    (fun sibling rest =>
      match sibling, rest with
      | .text content, .text next :: others => .text (content ++ next) :: others
      | _, _ => sibling :: rest)
    []

/-- Where a text stands among the siblings that are left. -/
structure Place where
  hasPrevious : Bool
  hasNext : Bool
  /-- The siblings are the content of an element. -/
  nested : Bool

/-- Whether blanks separate what is before and after them: they do unless there is a line end among
them, which is formatting. -/
def separates (blanks : List Char) : Bool :=
  !blanks.isEmpty && !blanks.contains '\n'

/-- The space that a text of blanks alone leaves: between two siblings, or as all the content that
an element has. -/
def blankPieces (place : Place) (content : List Char) : List Piece :=
  let isAlone := place.nested && !place.hasPrevious && !place.hasNext
  if !content.contains '\n' && (isAlone || (place.hasPrevious && place.hasNext)) then [.text space]
  else []

/-- The pieces of a text whose blanks may be collapsed. -/
def flowPieces (place : Place) (content : List Char) : List Piece :=
  if content.all isBlank then blankPieces place content
  else
    let body := escapeText (String.ofList (trim (collapseBlanks content)))
    (if place.hasPrevious && separates (leadingBlanks content) then [.text space] else [])
      ++ .text body
      :: if place.hasNext && separates (trailingBlanks content) then [.text space] else []

/-- The pieces of a text. -/
def textPieces (preformatted : Bool) (place : Place) (content : String) : List Piece :=
  if preformatted then [.text (stringExpression content)] else flowPieces place content.toList

/-- The pieces of a list of siblings. -/
def pieces (nested preformatted : Bool) (siblings : List Sibling) : List Piece :=
  let merged := mergeTexts siblings
  let count := merged.length
  merged.zipIdx.flatMap fun (sibling, index) =>
    match sibling with
    | .block block => [.block block]
    | .text content =>
      textPieces preformatted { hasPrevious := 0 < index, hasNext := index + 1 < count, nested }
        content

/-! ## Elements -/

/-- An element whose content has these pieces. A single text shares the line with the tags. -/
def elementBlock (tag attributes : String) (content : List Piece) : Block :=
  match content with
  | [] => .line (emptyElement tag attributes)
  | [.text written] => .line (openingLine tag attributes ++ written ++ closingLine tag)
  | _ => .nest tag attributes (content.map Piece.toBlock)

/-- An element whose content is raw text. -/
def rawBlock (tag attributes content : String) : Block :=
  if content = "" then .line (emptyElement tag attributes)
  else .line (openingLine tag attributes ++ templateExpression content ++ closingLine tag)

mutual

/-- Lays out a node, or leaves it out if it is a comment that is not kept. -/
def sibling? (keepComments preformatted : Bool) : Node → Option Sibling
  | .text content => some (.text content)
  | .comment content =>
    if keepComments then some (.block (.line (comment content))) else none
  | .element head children =>
    let tag := tagName head.tag
    let attributes := writeAttributes head.attributes
    if head.isVoid then some (.block (.line (emptyElement tag attributes)))
    else if (RawElement.ofTag? head.tag).isSome then
      some (.block (rawBlock tag attributes (Node.textContent children)))
    else
      let within := preformatted || isPreformattedTag head.tag
      let siblings := (siblingsOnto keepComments within [] children).reverse
      some (.block (elementBlock tag attributes (pieces true within siblings)))

/-- Lays out the nodes of a list after those that are laid out already; the last one comes first. -/
def siblingsOnto (keepComments preformatted : Bool) (before : List Sibling) :
    List Node → List Sibling
  | [] => before
  | node :: rest =>
    match sibling? keepComments preformatted node with
    | none => siblingsOnto keepComments preformatted before rest
    | some sibling => siblingsOnto keepComments preformatted (sibling :: before) rest

end

/-- The pieces of a document fragment. -/
def fragmentPieces (keepComments : Bool) (nodes : List Node) : List Piece :=
  pieces false false (siblingsOnto keepComments false [] nodes).reverse

/-- The blocks of a document fragment. Several of them are wrapped into one. -/
def blocks (keepComments : Bool) (nodes : List Node) : List Block :=
  match fragmentPieces keepComments nodes with
  | [] => []
  | [piece] => [piece.toBlock]
  | pieces => [.nest "" "" (pieces.map Piece.toBlock)]

/-! ## Notices -/

mutual

/-- Adds what there is to tell of a node to what was told before; the last notice comes first. -/
def noticesOnto (before : List Notice) : Node → List Notice
  | .element head children =>
    let own := head.attributes.flatMap (attributeNotices head.tag)
    let told := own.reverse ++ before
    if head.isVoid || (RawElement.ofTag? head.tag).isSome then told
    else allNoticesOnto told children
  | _ => before

/-- Adds what there is to tell of the nodes of a list. -/
def allNoticesOnto (before : List Notice) : List Node → List Notice
  | [] => before
  | node :: rest => allNoticesOnto (noticesOnto before node) rest

end

/-- What there is to tell of a document fragment, in document order. -/
def notices (nodes : List Node) : List Notice :=
  (allNoticesOnto [] nodes).reverse

end JsxFragment.Jsx
