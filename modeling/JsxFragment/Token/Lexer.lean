import JsxFragment.Text.WordChar
import JsxFragment.Token
import JsxFragment.Token.Repair

/-!
Cutting a text into tokens, one character at a time. Every text has tokens: what begins like markup
but is none is text, and what the end of the text cuts off is repaired. The tokens of a tag are held
back until its `>`, so that a tag that is never closed can still become text.
-/

namespace JsxFragment

open Text

namespace Lexer

/-! ## What has been read so far -/

/-- A stretch of text under way: where it begins, and its characters, the last one first. -/
structure Stretch where
  start : Position
  reversed : List Char

/-- The characters of the stretch as a string. -/
def Stretch.text (stretch : Stretch) : String :=
  String.ofList stretch.reversed.reverse

/-- The stretch with one more character. -/
def Stretch.push (stretch : Stretch) (c : Char) : Stretch :=
  { stretch with reversed := c :: stretch.reversed }

/-- A tag under way: where its `<` stands, its characters and its tokens, the last ones first, and
the raw text element that it opens if it is a start tag of one. -/
structure TagSource where
  start : Position
  reversed : List Char
  parts : List Token
  raw : Option RawElement

namespace TagSource

/-- The tag that a `<` begins. -/
def opened (start : Position) : TagSource :=
  { start, reversed := ['<'], parts := [], raw := none }

/-- The tag with one more character. -/
def push (source : TagSource) (c : Char) : TagSource :=
  { source with reversed := c :: source.reversed }

/-- The tag with a stretch of its characters made a token. -/
def addPart (source : TagSource) (kind : TokenKind) (stretch : Stretch) : TagSource :=
  { source with parts := ⟨kind, stretch.text, stretch.start⟩ :: source.parts }

/-- The tag with the token of its `<` or `</`, which comes before all others. -/
def beginParts (source : TagSource) (value : String) : TagSource :=
  { source with parts := [⟨.tagStart, value, source.start⟩] }

/-- The tag with the token of its name. A start tag by that name may open raw text. -/
def addName (source : TagSource) (stretch : Stretch) : TagSource :=
  { source.addPart .tagName stretch with raw := RawElement.ofTag? stretch.text }

end TagSource

/-- Where in a tag the next character stands. -/
inductive TagMode where
  /-- After `<`. -/
  | opening
  /-- After `</`. -/
  | closing
  | name (stretch : Stretch)
  | endName (stretch : Stretch)
  /-- In an end tag, where all up to `>` is ignored. -/
  | afterEndName
  | beforeAttribute
  | attributeName (stretch : Stretch)
  | afterAttributeName
  | beforeValue
  | quotedValue (quote : Char) (stretch : Stretch)
  | unquotedValue (stretch : Stretch)
  /-- After a `/` in a start tag. -/
  | slash

/-- The markup that is neither a tag nor text. -/
inductive MarkupKind where
  /-- After `<!`, where it is still open what is declared. -/
  | declaration
  | comment
  /-- Markup that reads as a comment up to the first `>`. -/
  | bogusComment
  | doctype
  | cdata
  deriving DecidableEq

/-- Where in the text the next character stands. -/
inductive Mode where
  /-- Between two constructs, where no text is under way. -/
  | between
  | text (stretch : Stretch)
  | tag (source : TagSource) (mode : TagMode)
  /-- In markup that began at `start`; its characters so far, the last one first. -/
  | markup (start : Position) (kind : MarkupKind) (reversed : List Char)
  /-- In raw text of an element whose start tag began at `tagStart`. -/
  | rawText (element : RawElement) (tagStart : Position) (stretch : Stretch)

/-- What a character brings about: the mode after it, and the tokens and repairs settled by it. -/
structure Turn where
  mode : Mode
  tokens : List Token := []
  repairs : List TokenRepair := []

/-! ## Text and tags -/

/-- The character that follows the text `stretch`. -/
def inText (stretch : Stretch) (position : Position) (c : Char) : Turn :=
  if c = '<' then
    { mode := .tag (.opened position) .opening
      tokens := [⟨.text, stretch.text, stretch.start⟩] }
  else { mode := .text (stretch.push c) }

/-- Closes the tag with `marker`. A start tag of a raw text element is followed by raw text. -/
def commit (source : TagSource) (marker : String) (position : Position) : Turn :=
  let tokens := (⟨.tagEnd, marker, position⟩ :: source.parts).reverse
  match source.raw with
  | some element =>
    if marker = ">" then
      { mode := .rawText element source.start ⟨position.advance '>', []⟩, tokens }
    else { mode := .between, tokens }
  | none => { mode := .between, tokens }

/-- The character where an attribute may begin. -/
def beforeAttribute (source : TagSource) (position : Position) (c : Char) : Turn :=
  if isBlank c then { mode := .tag source .beforeAttribute }
  else if c = '/' then { mode := .tag source .slash }
  else if c = '>' then commit source ">" position
  else { mode := .tag source (.attributeName ⟨position, [c]⟩) }

/-- The character after `<`. -/
def afterLess (source : TagSource) (position : Position) (c : Char) : Turn :=
  if c = '/' then { mode := .tag source .closing }
  else if c = '!' then { mode := .markup source.start .declaration [] }
  else if c = '?' then { mode := .markup source.start .bogusComment ['?'] }
  else if isAsciiLetter c then
    { mode := .tag (source.beginParts "<") (.name ⟨position, [c]⟩) }
  else inText ⟨source.start, ['<']⟩ position c

/-- The character after `</`. -/
def afterLessSlash (source : TagSource) (position : Position) (c : Char) : Turn :=
  if isAsciiLetter c then
    { mode := .tag (source.beginParts "</") (.endName ⟨position, [c]⟩) }
  else if c = '>' then { mode := .between, repairs := [⟨.emptyEndTag, source.start⟩] }
  else inText ⟨source.start, ['/', '<']⟩ position c

/-- A character of a tag; `source` already holds it. -/
def inTag (source : TagSource) (position : Position) (c : Char) : TagMode → Turn
  | .opening => afterLess source position c
  | .closing => afterLessSlash source position c
  | .name stretch =>
    if isBlank c then { mode := .tag (source.addName stretch) .beforeAttribute }
    else if c = '/' then { mode := .tag (source.addName stretch) .slash }
    else if c = '>' then commit (source.addName stretch) ">" position
    else { mode := .tag source (.name (stretch.push c)) }
  | .endName stretch =>
    if isBlank c || c = '/' then { mode := .tag (source.addPart .tagName stretch) .afterEndName }
    else if c = '>' then commit (source.addPart .tagName stretch) ">" position
    else { mode := .tag source (.endName (stretch.push c)) }
  | .afterEndName =>
    if c = '>' then commit source ">" position else { mode := .tag source .afterEndName }
  | .beforeAttribute => beforeAttribute source position c
  | .attributeName stretch =>
    let named := source.addPart .attributeName stretch
    if isBlank c then { mode := .tag named .afterAttributeName }
    else if c = '/' then { mode := .tag named .slash }
    else if c = '=' then { mode := .tag named .beforeValue }
    else if c = '>' then commit named ">" position
    else { mode := .tag source (.attributeName (stretch.push c)) }
  | .afterAttributeName =>
    if isBlank c then { mode := .tag source .afterAttributeName }
    else if c = '=' then { mode := .tag source .beforeValue }
    else beforeAttribute source position c
  | .beforeValue =>
    if isBlank c then { mode := .tag source .beforeValue }
    else if c = '"' || c = '\'' then { mode := .tag source (.quotedValue c ⟨position, []⟩) }
    else if c = '>' then commit (source.addPart .attributeValue ⟨position, []⟩) ">" position
    else { mode := .tag source (.unquotedValue ⟨position, [c]⟩) }
  | .quotedValue quote stretch =>
    if c = quote then { mode := .tag (source.addPart .attributeValue stretch) .beforeAttribute }
    else { mode := .tag source (.quotedValue quote (stretch.push c)) }
  | .unquotedValue stretch =>
    let valued := source.addPart .attributeValue stretch
    if isBlank c then { mode := .tag valued .beforeAttribute }
    else if c = '>' then commit valued ">" position
    else { mode := .tag source (.unquotedValue (stretch.push c)) }
  | .slash =>
    if c = '>' then commit source "/>" position else beforeAttribute source position c

/-! ## Comments, declarations and raw text -/

/-- The token that a piece of markup becomes, after which nothing is under way. -/
def settle (start : Position) (kind : TokenKind) (characters : List Char) : Turn :=
  { mode := .between, tokens := [⟨kind, String.ofList characters, start⟩] }

/-- The kind of markup that begins with `<!` and these characters. -/
def declared (characters : List Char) : MarkupKind :=
  let capitals := characters.map Char.toUpper
  if characters = "--".toList then .comment
  else if characters = "[CDATA[".toList then .cdata
  else if capitals = "DOCTYPE".toList then .doctype
  else if characters.isPrefixOf "--".toList || characters.isPrefixOf "[CDATA[".toList
      || capitals.isPrefixOf "DOCTYPE".toList then .declaration
  else .bogusComment

/-- A character of a comment, a declaration or a CDATA section. -/
def inMarkup (start : Position) (reversed : List Char) (c : Char) : MarkupKind → Turn
  | .declaration =>
    if c = '>' then settle start .comment reversed.reverse
    else
      let characters := (c :: reversed).reverse
      match declared characters with
      | .declaration => { mode := .markup start .declaration (c :: reversed) }
      | .bogusComment => { mode := .markup start .bogusComment (c :: reversed) }
      | kind => { mode := .markup start kind [] }
  | .comment =>
    if c = '>' then
      match reversed with
      | [] =>
        { settle start .comment [] with repairs := [⟨.abruptComment ">", start⟩] }
      | ['-'] =>
        { settle start .comment [] with repairs := [⟨.abruptComment "->", start⟩] }
      | '-' :: '-' :: content => settle start .comment content.reverse
      | _ => { mode := .markup start .comment (c :: reversed) }
    else { mode := .markup start .comment (c :: reversed) }
  | .bogusComment =>
    if c = '>' then settle start .comment reversed.reverse
    else { mode := .markup start .bogusComment (c :: reversed) }
  | .doctype =>
    if c = '>' then settle start .doctype (trim reversed.reverse)
    else { mode := .markup start .doctype (c :: reversed) }
  | .cdata =>
    if c = '>' then
      match reversed with
      | ']' :: ']' :: content => settle start .cdata content.reverse
      | _ => { mode := .markup start .cdata (c :: reversed) }
    else { mode := .markup start .cdata (c :: reversed) }

/-- A character of raw text. The tokens of the end tag all stand where it is closed. -/
def inRawText (element : RawElement) (tagStart : Position) (stretch : Stretch)
    (position : Position) (c : Char) : Turn :=
  let more : Turn := { mode := .rawText element tagStart (stretch.push c) }
  if c = '>' then
    match element.endTag? stretch.reversed with
    | some (content, spelling) =>
      { mode := .between
        tokens :=
          (if content.isEmpty then []
            else [⟨.text, String.ofList content.reverse, stretch.start⟩])
          ++ [⟨.tagStart, "</", position⟩, ⟨.tagName, spelling, position⟩,
            ⟨.tagEnd, ">", position⟩] }
    | none => more
  else more

/-! ## The whole text -/

/-- What the character at `position` brings about. -/
def react (mode : Mode) (position : Position) (c : Char) : Turn :=
  match mode with
  | .between =>
    if c = '<' then { mode := .tag (.opened position) .opening }
    else { mode := .text ⟨position, [c]⟩ }
  | .text stretch => inText stretch position c
  | .tag source tagMode => inTag (source.push c) position c tagMode
  | .markup start kind reversed => inMarkup start reversed c kind
  | .rawText element tagStart stretch => inRawText element tagStart stretch position c

/-- What the end of the text brings about. -/
def finish : Mode → Turn
  | .between => { mode := .between }
  | .text stretch => { mode := .between, tokens := [⟨.text, stretch.text, stretch.start⟩] }
  | .tag source _ =>
    let characters := String.ofList source.reversed.reverse
    { mode := .between
      tokens := [⟨.text, characters, source.start⟩]
      repairs := [⟨.unterminatedTag characters, source.start⟩] }
  | .markup start .doctype reversed => settle start .doctype (trim reversed.reverse)
  | .markup start .cdata reversed =>
    { settle start .cdata reversed.reverse with
      repairs := [⟨.unterminatedCdata (String.ofList reversed.reverse), start⟩] }
  | .markup start _ reversed =>
    { settle start .comment reversed.reverse with
      repairs := [⟨.unterminatedComment (String.ofList reversed.reverse), start⟩] }
  | .rawText element tagStart stretch =>
    if stretch.reversed.isEmpty then { mode := .between }
    else
      { mode := .between
        tokens := [⟨.text, stretch.text, stretch.start⟩]
        repairs := [⟨.unterminatedRawText element stretch.text, tagStart⟩] }

/-- A lexer in the middle of a text: the place of the next character, its mode, and the tokens and
repairs so far, the last ones first. -/
structure State where
  position : Position
  mode : Mode
  tokens : List Token
  repairs : List TokenRepair

namespace State

/-- The lexer at the beginning of a text. -/
def initial : State :=
  { position := .first, mode := .between, tokens := [], repairs := [] }

/-- The lexer after one more turn. -/
def record (state : State) (turn : Turn) : State :=
  { state with
    mode := turn.mode
    tokens := turn.tokens.reverse ++ state.tokens
    repairs := turn.repairs.reverse ++ state.repairs }

/-- The lexer after one more character. -/
def step (state : State) (c : Char) : State :=
  { state.record (react state.mode state.position c) with
    position := state.position.advance c }

/-- The lexer after more characters. -/
def run (state : State) (text : List Char) : State :=
  text.foldl step state

end State

end Lexer

/-- A text cut into tokens, with the repairs that it took. -/
structure Tokenization where
  tokens : List Token
  repairs : List TokenRepair
  /-- How many characters the text has. -/
  characterCount : Nat
  deriving DecidableEq, Repr

/-- Cuts a text into tokens. -/
def tokenize (text : String) : Tokenization :=
  let read := Lexer.State.initial.run text.toList
  let ended := read.record (Lexer.finish read.mode)
  { tokens := ended.tokens.reverse
    repairs := ended.repairs.reverse
    characterCount := text.length }

end JsxFragment
