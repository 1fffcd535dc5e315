import JsxFragment.Node.Recovery
import JsxFragment.Number.Amount
import JsxFragment.Token

/-!
Nesting the elements of a token list. Open elements are kept on a stack; an end tag closes the
innermost open element of its name and all that are open inside it, and tags that do not fit are
put right by a fixed rule and noted. Any token list has a reading, up to a limit on the nesting.
-/

namespace JsxFragment

open Number

/-- Elements nested deeper than allowed: the limit, the element that would exceed it, and the depth
that it would have. -/
structure NestingFault where
  limit : Amount
  tag : String
  depth : Nat
  deriving DecidableEq, Repr

namespace Nesting

/-- An element whose end is still to come; its children so far, the last one first. -/
structure OpenElement where
  tag : String
  attributes : List Attribute
  position : Position
  children : List Node
  /-- The name by which an end tag closes the element. -/
  key : String := Text.lower tag
  key_eq : key = Text.lower tag := by rfl

/-- The element, once it is complete. -/
def OpenElement.close (element : OpenElement) : Node :=
  .element { tag := element.tag, attributes := element.attributes } element.children.reverse

/-- A tag whose end is still to come; its attributes so far, the last one first. -/
structure PendingTag where
  isEndTag : Bool
  position : Position
  name : String := ""
  attributes : List Attribute := []

/-- Gives the last attribute of a tag its value. -/
def PendingTag.setValue (tag : PendingTag) (value : String) : PendingTag :=
  match tag.attributes with
  | [] => tag
  | last :: before => { tag with attributes := { last with value := some value } :: before }

/-- A fragment under construction. All lists have their last element first; the text is that of the
text tokens since the last node. -/
structure State where
  roots : List Node := []
  stack : List OpenElement := []
  text : List String := []
  pending : Option PendingTag := none
  notes : List Note := []

namespace State

/-- Adds a node to the innermost open element, or at the top. -/
def append (state : State) (node : Node) : State :=
  match state.stack with
  | [] => { state with roots := node :: state.roots }
  | innermost :: outer =>
    { state with stack := { innermost with children := node :: innermost.children } :: outer }

/-- Notes a recovery. -/
def recover (state : State) (cause : RecoveryCause) (position : Position) : State :=
  { state with notes := .recovered ⟨cause, position⟩ :: state.notes }

/-- Makes the text since the last node a node, if there was a text token. -/
def flush (state : State) : State :=
  match state.text with
  | [] => state
  | pieces => { state with text := [] }.append (.text (String.join pieces.reverse))

/-- Closes the innermost open element. -/
def closeInnermost (state : State) : State :=
  match state.stack with
  | [] => state
  | innermost :: outer => { state with stack := outer }.append innermost.close

/-- Closes an open element for each of the list, which are the innermost ones, and notes for each
why it is closed. -/
def closeEach (state : State) (elements : List OpenElement) (cause : OpenElement → RecoveryCause) :
    State :=
  elements.foldl
    (fun state element => (state.recover (cause element) element.position).closeInnermost) state

/-! ## Tags -/

/-- The attributes of a tag in order: those whose name comes first, and those that repeat one. -/
def splitRepeated (attributes : List Attribute) : List Attribute × List Attribute :=
  let sorted :=
    attributes.foldl
      (fun (seen, kept, repeated) given =>
        let key := Text.lower given.name
        if seen.contains key then (seen, kept, given :: repeated)
        else (key :: seen, given :: kept, repeated))
      (([] : List String), ([] : List Attribute), ([] : List Attribute))
  (sorted.2.1.reverse, sorted.2.2.reverse)

/-- A start tag. Its element is complete at once if it is void or the tag is self-closing, and is
left open otherwise. -/
def startTag (maxDepth : Amount) (state : State) (tag : PendingTag) (selfClosing : Bool) :
    Except NestingFault State :=
  let attributes := splitRepeated tag.attributes.reverse
  let state :=
    attributes.2.foldl
      (fun state given =>
        state.recover (.duplicateAttribute given.name tag.name) tag.position)
      state
  if isVoidTag tag.name || selfClosing then
    .ok (state.append
      (.element
        { tag := tag.name, attributes := attributes.1, isVoid := isVoidTag tag.name, selfClosing }
        []))
  else if maxDepth.reachedBy state.stack.length then
    .error { limit := maxDepth, tag := tag.name, depth := state.stack.length + 1 }
  else
    .ok { state with
      stack :=
        { tag := tag.name, attributes := attributes.1, position := tag.position, children := [] }
          :: state.stack }

/-- An end tag. -/
def endTag (state : State) (tag : PendingTag) : State :=
  if isVoidTag tag.name then state.recover (.voidEndTag tag.name) tag.position
  else
    let key := Text.lower tag.name
    let inner := state.stack.takeWhile (·.key ≠ key)
    if inner.length < state.stack.length then
      (state.closeEach inner fun element => .implicitlyClosed element.tag tag.name).closeInnermost
    else state.recover (.unmatchedEndTag tag.name) tag.position

/-- The end of a tag. A tag without a name is ignored. -/
def finishTag (maxDepth : Amount) (state : State) (selfClosing : Bool) :
    Except NestingFault State :=
  match state.pending with
  | none => .ok state
  | some tag =>
    let state := { state with pending := none }
    if tag.name = "" then .ok state
    else if tag.isEndTag then .ok (state.endTag tag)
    else startTag maxDepth state tag selfClosing

/-! ## Tokens -/

/-- The fragment after one more token. -/
def step (maxDepth : Amount) (state : State) (token : Token) : Except NestingFault State :=
  match token.kind with
  | .text | .cdata => .ok { state with text := token.value :: state.text }
  | .tagStart =>
    let tag : PendingTag := { isEndTag := token.value = "</", position := token.position }
    .ok { state.flush with pending := some tag }
  | .tagName =>
    .ok { state with pending := state.pending.map ({ · with name := token.value }) }
  | .attributeName =>
    let add (tag : PendingTag) : PendingTag :=
      { tag with attributes := { name := token.value } :: tag.attributes }
    .ok { state with pending := state.pending.map add }
  | .attributeValue =>
    .ok { state with pending := state.pending.map (·.setValue token.value) }
  | .tagEnd => state.finishTag maxDepth (token.value = "/>")
  | .comment => .ok (state.flush.append (.comment token.value))
  | .doctype =>
    let flushed := state.flush
    .ok { flushed with notes := .doctypeDropped token.value token.position :: flushed.notes }

/-- The fragment after more tokens. -/
def run (maxDepth : Amount) (state : State) : List Token → Except NestingFault State
  | [] => .ok state
  | token :: rest =>
    match state.step maxDepth token with
    | .error fault => .error fault
    | .ok next => next.run maxDepth rest

/-- The fragment at the end of the tokens, where every element is closed. -/
def finish (state : State) : State :=
  let flushed := state.flush
  flushed.closeEach flushed.stack fun element => .unclosedElement element.tag

end State

end Nesting

/-- A fragment read from tokens, with what the reading has to tell. -/
structure Fragment where
  nodes : List Node
  notes : List Note

/-- The recoveries that the reading took, in order. -/
def Fragment.recoveries (fragment : Fragment) : List Recovery :=
  fragment.notes.filterMap Note.recovery?

/-- Nests the elements of a token list. -/
def Fragment.ofTokens (maxDepth : Amount) (tokens : List Token) : Except NestingFault Fragment :=
  match Nesting.State.run maxDepth {} tokens with
  | .error fault => .error fault
  | .ok state =>
    let finished := state.finish
    .ok { nodes := finished.roots.reverse, notes := finished.notes.reverse }

end JsxFragment
