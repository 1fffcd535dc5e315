import JsxFragment.Jsx.Layout
import JsxFragment.Proofs.Jsx.Reader

/-!
# The normal form of a fragment

The tree that the JSX of a fragment stands for, told from the nodes alone: what is kept of them, and
how their texts, their attributes and their comments are spelled.
-/

namespace JsxFragment.Jsx

open Text

/-! ## Attributes and comments -/

/-- A character of a value between double quotes, with a double quote as a reference. -/
def referQuote (c : Char) : List Char :=
  if c = '"' then ['&', 'q', 'u', 'o', 't', ';'] else [c]

/-- A value in which no quote of one kind meets one of the other. -/
def plainQuotes (value : List Char) : List Char :=
  if value.contains '"' && value.contains '\'' then value.flatMap referQuote else value

/-- An attribute in normal form, unless JSX has no room for its name. A style is an object if it has
a declaration, or nothing at all. -/
def normalAttribute? (given : Attribute) : Option ChildAttribute :=
  let name := attributeName given.name
  if !isAttributeName name then none
  else
    match given.value, style? given with
    | none, _ => some { name, value := .bare }
    | some value, none =>
      some { name, value := .quoted (String.ofList (plainQuotes value.toList)) }
    | some value, some style =>
      if (Style.convert style).succeeded then
        some { name := "style", value := .object (Style.convert style).declarations }
      else some { name := "style", value := .quoted (String.ofList (plainQuotes value.toList)) }

/-- A comment in normal form: its text between two spaces, or one space if there is none. -/
def normalComment (content : String) : Child :=
  let body := breakTerminators (trim content.toList)
  if body.isEmpty then .comment " " else .comment (String.ofList (' ' :: body ++ [' ']))

/-! ## Text -/

/-- A character of text, with angle brackets as references. -/
def referTextChar (c : Char) : List Char :=
  if c = '<' then ['&', 'l', 't', ';'] else if c = '>' then ['&', 'g', 't', ';'] else [c]

/-- The body of a text whose blanks may be collapsed: it is trimmed, and each run of blanks becomes
a space. -/
def flowBody (content : List Char) : List Char :=
  (trim (collapseBlanks content)).flatMap referTextChar

/-- The space that blanks leave at an edge of a text. -/
def edgeSpace (hasNeighbour : Bool) (blanks : List Char) : List Char :=
  if hasNeighbour && separates blanks then [' '] else []

/-- A text whose blanks may be collapsed, in normal form. Blanks alone count between two siblings
and as all that an element has; otherwise blanks at the edges count beside a sibling. Those among
which there is a line end count for nothing at all. -/
def normalFlow (place : Place) (content : List Char) : List Char :=
  if content.all isBlank then
    let isAlone := place.nested && !place.hasPrevious && !place.hasNext
    let isBetween := place.hasPrevious && place.hasNext
    if !content.contains '\n' && (isAlone || isBetween) then [' '] else []
  else
    edgeSpace place.hasPrevious (leadingBlanks content) ++ flowBody content
      ++ edgeSpace place.hasNext (trailingBlanks content)

/-- A text in normal form. One that is preformatted is kept, with its references decoded. -/
def normalText (preformatted : Bool) (place : Place) (content : String) : List Char :=
  if preformatted then Entity.decodeAll content.toList else normalFlow place content.toList

/-! ## Nodes -/

/-- A node among its siblings: a text as it is in the source, or a child in normal form. -/
inductive Item where
  | text (content : String)
  | child (child : Child)

/-- Joins the texts that are next to each other. -/
def joinTexts (items : List Item) : List Item :=
  items.foldr
    (fun item rest =>
      match item, rest with
      | .text content, .text next :: others => .text (content ++ next) :: others
      | _, _ => item :: rest)
    []

/-- Puts items in normal form, of which none are texts next to each other; empty texts are no
children. -/
def settle (nested preformatted hasPrevious : Bool) : List Item → List Child
  | [] => []
  | .child child :: rest => child :: settle nested preformatted true rest
  | .text content :: rest =>
    let place : Place := { hasPrevious, hasNext := !rest.isEmpty, nested }
    let text := normalText preformatted place content
    if text.isEmpty then settle nested preformatted true rest
    else .text (String.ofList text) :: settle nested preformatted true rest

/-- The content of an element of raw text: its text, if there is any. -/
def rawContent (children : List Node) : List Child :=
  if Node.textContent children = "" then [] else [.text (Node.textContent children)]

mutual

/-- A node as an item, unless it is a comment that is not kept. -/
def normalItem? (keepComments preformatted : Bool) : Node → Option Item
  | .text content => some (.text content)
  | .comment content => if keepComments then some (.child (normalComment content)) else none
  | .element head children =>
    let within := preformatted || isPreformattedTag head.tag
    let content :=
      if head.isVoid then []
      else if (RawElement.ofTag? head.tag).isSome then rawContent children
      else settle true within false (joinTexts (normalItems keepComments within children))
    some
      (.child (.element (tagName head.tag) (head.attributes.filterMap normalAttribute?) content))

/-- The nodes of a list as items. -/
def normalItems (keepComments preformatted : Bool) : List Node → List Item
  | [] => []
  | node :: rest =>
    match normalItem? keepComments preformatted node with
    | none => normalItems keepComments preformatted rest
    | some item => item :: normalItems keepComments preformatted rest

end

/-- The normal form of a fragment. -/
def normalForm (keepComments : Bool) (nodes : List Node) : List Child :=
  settle false false false (joinTexts (normalItems keepComments false nodes))

/-! ## Tags -/

mutual

/-- The heads of the elements that are written for a node, in document order. Elements inside raw
text are not written. -/
def writtenHeads : Node → List Head
  | .element head children =>
    head ::
      if head.isVoid || (RawElement.ofTag? head.tag).isSome then [] else allWrittenHeads children
  | .text _ | .comment _ => []

/-- The heads of the elements that are written for a list of nodes. -/
def allWrittenHeads : List Node → List Head
  | [] => []
  | node :: rest => writtenHeads node ++ allWrittenHeads rest

end

/-- The tags that are written for a list of nodes. -/
def writtenTags (nodes : List Node) : List String :=
  (allWrittenHeads nodes).map fun head => tagName head.tag

theorem writtenTags_element (head : Head) (children rest : List Node) :
    writtenTags (.element head children :: rest) =
      tagName head.tag ::
        ((if head.isVoid || (RawElement.ofTag? head.tag).isSome then []
          else writtenTags children) ++ writtenTags rest) := by
  rw [writtenTags, allWrittenHeads, writtenHeads, List.map_append, List.map_cons, List.cons_append]
  split <;> rfl

mutual

/-- A node all of whose tags are plain. -/
def hasPlainTags : Node → Bool
  | .element head children => isPlainTag head.tag.toList && allHavePlainTags children
  | _ => true

/-- A list of nodes all of whose tags are plain. -/
def allHavePlainTags : List Node → Bool
  | [] => true
  | node :: rest => hasPlainTags node && allHavePlainTags rest

end

end JsxFragment.Jsx
