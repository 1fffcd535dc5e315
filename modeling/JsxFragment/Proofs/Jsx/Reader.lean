import JsxFragment.Json.Reader
import JsxFragment.Jsx.AttributeName

/-!
# A reader of JSX

The tree that a text stands for as the children of a JSX element: elements, comments, texts in
braces, and the text around them, of whose blanks JSX keeps those that no line break touches.
References in text and in attribute values stay as they are written.
-/

namespace JsxFragment.Jsx

open Text

/-! ## Trees -/

/-- What an attribute gives: nothing but its name, a string, or an object of strings. -/
inductive AttributeValue where
  | bare
  | quoted (value : String)
  | object (members : List (String × String))
  deriving DecidableEq, Repr

/-- An attribute of an element of JSX. -/
structure ChildAttribute where
  name : String
  value : AttributeValue
  deriving DecidableEq, Repr

/-- A child of an element of JSX. -/
inductive Child where
  | element (tag : String) (attributes : List ChildAttribute) (children : List Child)
  | text (content : String)
  | comment (content : String)
  deriving Repr

/-! ## Symbols -/

/-- What a text of JSX is made of: characters of text, texts and comments in braces, and tags. A
start tag is closed if it ends with a slash. -/
inductive Symbol where
  | char (c : Char)
  | text (content : String)
  | comment (content : String)
  | start (tag : String) (attributes : List ChildAttribute) (isClosed : Bool)
  | closing (tag : String)

/-- The rest of a string literal of JSON, whose opening quote has been read. -/
def scanLiteral? (text : List Char) : Option (String × List Char) :=
  match Json.readString text (text.length + 1) [] text with
  | .ok result => some result
  | .error _ => none

/-- The rest of a template literal. It holds no substitution, and a backslash escapes a character
that means something there. -/
def scanTemplate? : List Char → Option (List Char × List Char)
  | [] => none
  | '\x60' :: rest => some ([], rest)
  | '\\' :: c :: rest =>
    if c = '\\' || c = '\x60' || c = '$' then
      (scanTemplate? rest).map fun (content, further) => (c :: content, further)
    else none
  | '$' :: '\x7b' :: _ => none
  | c :: rest => (scanTemplate? rest).map fun (content, further) => (c :: content, further)

/-- The rest of a comment, which ends at the first `*/`. -/
def scanComment? : List Char → Option (List Char × List Char)
  | [] => none
  | '*' :: '/' :: rest => some ([], rest)
  | c :: rest => (scanComment? rest).map fun (content, further) => (c :: content, further)

/-- The rest of an expression, whose opening brace has been read. -/
def scanExpression? (text : List Char) : Option (Symbol × List Char) :=
  match text with
  | '"' :: rest =>
    match scanLiteral? rest with
    | some (content, '\x7d' :: further) => some (.text content, further)
    | _ => none
  | '\x60' :: rest =>
    match scanTemplate? rest with
    | some (content, '\x7d' :: further) => some (.text (String.ofList content), further)
    | _ => none
  | '/' :: '*' :: rest =>
    match scanComment? rest with
    | some (content, '\x7d' :: further) => some (.comment (String.ofList content), further)
    | _ => none
  | _ => none

/-! ## Attributes -/

/-- A character of a key without quotes. -/
def isKeyChar (c : Char) : Bool :=
  isAsciiLetter c || isAsciiDigit c || c = '_' || c = '$'

/-- A key of an object: a name, or a string literal. -/
def scanKey? (text : List Char) : Option (String × List Char) :=
  match text with
  | '"' :: rest => scanLiteral? rest
  | _ =>
    let key := text.takeWhile isKeyChar
    if key.head?.any fun first => !isAsciiDigit first then
      some (String.ofList key, text.drop key.length)
    else none

/-- A member of an object: a key with a string literal. -/
def scanMember? (text : List Char) : Option ((String × String) × List Char) :=
  match scanKey? text with
  | some (key, ':' :: ' ' :: '"' :: rest) =>
    (scanLiteral? rest).map fun (value, further) => ((key, value), further)
  | _ => none

/-- The members of an object, and its end. -/
def scanMembers? (text : List Char) : Option (List (String × String) × List Char) :=
  match scanMember? text with
  | some (member, '\x7d' :: '\x7d' :: rest) => some ([member], rest)
  | some (member, ',' :: ' ' :: rest) =>
    if rest.length < text.length then
      (scanMembers? rest).map fun (members, further) => (member :: members, further)
    else none
  | _ => none
termination_by text.length

/-- The rest of an object, whose opening braces have been read. -/
def scanObject? (text : List Char) : Option (List (String × String) × List Char) :=
  match text with
  | '\x7d' :: '\x7d' :: rest => some ([], rest)
  | _ => scanMembers? text

/-- The rest of a string in quotes. -/
def scanQuoted? (quote : Char) (text : List Char) : Option (AttributeValue × List Char) :=
  match cutAt quote text with
  | (value, some rest) => some (.quoted (String.ofList value), rest)
  | (_, none) => none

/-- What follows the name of an attribute. -/
def scanValue? (text : List Char) : Option (AttributeValue × List Char) :=
  match text with
  | '=' :: '"' :: rest => scanQuoted? '"' rest
  | '=' :: '\'' :: rest => scanQuoted? '\'' rest
  | '=' :: '\x7b' :: '\x7b' :: rest =>
    (scanObject? rest).map fun (members, further) => (.object members, further)
  | '=' :: _ => none
  | _ => some (.bare, text)

/-- A character that the name of an attribute may hold. -/
def isAttributeChar (c : Char) : Bool :=
  isNameRest c || c = ':'

/-- An attribute. -/
def scanAttribute? (text : List Char) : Option (ChildAttribute × List Char) :=
  let name := text.takeWhile isAttributeChar
  if isAttributeName (String.ofList name) then
    (scanValue? (text.drop name.length)).map fun (value, rest) =>
      ({ name := String.ofList name, value }, rest)
  else none

/-! ## Tags -/

/-- A character of a tag name after the first. -/
def isTagChar (c : Char) : Bool :=
  isAsciiLetter c || isAsciiDigit c || c = '-'

/-- A tag name that JSX takes as it is: a letter of ASCII, then letters, digits and hyphens. -/
def isPlainTag (tag : List Char) : Bool :=
  match tag with
  | [] => false
  | first :: rest => isAsciiLetter first && rest.all isTagChar

/-- The rest of a start tag after its name: its attributes, and whether a slash closes it. -/
def scanHead? (text : List Char) : Option ((List ChildAttribute × Bool) × List Char) :=
  match text with
  | '>' :: rest => some (([], false), rest)
  | ' ' :: '/' :: '>' :: rest => some (([], true), rest)
  | ' ' :: rest =>
    match scanAttribute? rest with
    | some (given, further) =>
      if further.length < rest.length then
        (scanHead? further).map fun ((attributes, isClosed), after) =>
          ((given :: attributes, isClosed), after)
      else none
    | none => none
  | _ => none
termination_by text.length

/-- The rest of a tag, whose opening bracket has been read. -/
def scanTag? (text : List Char) : Option (Symbol × List Char) :=
  match text with
  | '/' :: rest =>
    let tag := rest.takeWhile isTagChar
    match rest.drop tag.length with
    | '>' :: further =>
      if isPlainTag tag then some (.closing (String.ofList tag), further) else none
    | _ => none
  | _ =>
    let tag := text.takeWhile isTagChar
    if isPlainTag tag then
      (scanHead? (text.drop tag.length)).map fun ((attributes, isClosed), rest) =>
        (.start (String.ofList tag) attributes isClosed, rest)
    else none

/-- The first symbol of a text. -/
def scanSymbol? (text : List Char) : Option (Symbol × List Char) :=
  match text with
  | [] => none
  | '<' :: rest => scanTag? rest
  | '\x7b' :: rest => scanExpression? rest
  | c :: rest => if c = '>' || c = '\x7d' then none else some (.char c, rest)

/-! ## Text -/

/-- A blank that JSX drops beside a line break. -/
def isLineBlank (c : Char) : Bool :=
  c = ' ' || c = '\t'

/-- The lines of a text. -/
def textLines (text : List Char) : List (List Char) :=
  splitOn '\n' (text.map fun c => if c = '\r' then '\n' else c)

/-- A line without the blanks that a line break touches. -/
def trimLine (isFirst isLast : Bool) (line : List Char) : List Char :=
  let started := if isFirst then line else line.dropWhile isLineBlank
  if isLast then started else (started.reverse.dropWhile isLineBlank).reverse

/-- The lines from one on, each trimmed. -/
def trimLines (isFirst : Bool) : List (List Char) → List (List Char)
  | [] => []
  | [line] => [trimLine isFirst true line]
  | line :: rest => trimLine isFirst false line :: trimLines false rest

/-- What JSX makes of text: its lines without the blank ones, joined by single spaces. -/
def cleanText (text : List Char) : List Char :=
  [' '].intercalate ((trimLines true (textLines text)).filter fun line => !line.isEmpty)

/-- Adds a text to children, of which the last one comes first. -/
def addText (content : List Char) (before : List Child) : List Child :=
  if content.isEmpty then before
  else
    match before with
    | .text earlier :: rest => .text (earlier ++ String.ofList content) :: rest
    | _ => .text (String.ofList content) :: before

/-! ## Nesting -/

/-- An element whose end has not been read, with the children before it. -/
structure OpenChild where
  tag : String
  attributes : List ChildAttribute
  before : List Child

/-- How far a text has been read: the children of the innermost open element, the last one first,
the open elements, the innermost one first, and the text after the last child. -/
structure ReaderState where
  children : List Child := []
  outer : List OpenChild := []
  run : List Char := []

namespace ReaderState

/-- The children once the text after them has ended. -/
def settled (state : ReaderState) : List Child :=
  addText (cleanText state.run) state.children

/-- The state after one more symbol. -/
def step? (state : ReaderState) (symbol : Symbol) : Option ReaderState :=
  match symbol with
  | .char c => some { state with run := state.run ++ [c] }
  | .text content =>
    some { state with children := addText content.toList state.settled, run := [] }
  | .comment content => some { state with children := .comment content :: state.settled, run := [] }
  | .start tag attributes true =>
    some { state with children := .element tag attributes [] :: state.settled, run := [] }
  | .start tag attributes false =>
    some { children := [], outer := ⟨tag, attributes, state.settled⟩ :: state.outer, run := [] }
  | .closing tag =>
    match state.outer with
    | [] => none
    | opened :: outer =>
      if opened.tag = tag then
        some
          { children := .element tag opened.attributes state.settled.reverse :: opened.before
            outer
            run := [] }
      else none

/-- The state after a whole text. -/
def readFrom? (state : ReaderState) (text : List Char) : Option ReaderState :=
  if text.isEmpty then some state
  else
    match scanSymbol? text with
    | some (symbol, rest) =>
      if rest.length < text.length then
        match state.step? symbol with
        | some next => readFrom? next rest
        | none => none
      else none
    | none => none
termination_by text.length

end ReaderState

/-- A text without the outer fragment, if there is one. -/
def unwrap (text : List Char) : List Char :=
  match text with
  | '<' :: '>' :: rest =>
    if ['<', '/', '>'].isSuffixOf rest then rest.take (rest.length - 3) else text
  | _ => text

/-- The tree that a text of JSX stands for, if it is one. -/
def read? (jsx : String) : Option (List Child) :=
  match ReaderState.readFrom? {} (unwrap jsx.toList) with
  | some state => if state.outer.isEmpty then some state.settled.reverse else none
  | none => none

end JsxFragment.Jsx
