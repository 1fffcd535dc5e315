import JsxFragment.Node
import JsxFragment.Number.Amount
import JsxFragment.Proofs.Token.Construct

/-!
# Canonical text

The plainest text of a fragment: every attribute after one blank, every value between quotes, an end
tag for every element that can have content. It exists for the fragments that have no two texts side
by side and hold nothing that would be read as markup.
-/

namespace JsxFragment

open Text

/-! ## Writing -/

/-- The quote around a value: a double one unless the value has one itself. -/
def quoteFor (value : List Char) : Char :=
  if '"' ∈ value then '\'' else '"'

/-- The text of an attribute. -/
def Attribute.markup (given : Attribute) : List Char :=
  ' ' :: given.name.toList ++
    match given.value with
    | none => []
    | some value => '=' :: quoteFor value.toList :: (value.toList ++ [quoteFor value.toList])

/-- The text of a start tag. The slash of one that closes itself may have a blank before it. -/
def Head.markup (spaced : Bool) (head : Head) : List Char :=
  '<' :: (head.tag.toList ++ head.attributes.flatMap Attribute.markup ++
    (if head.selfClosing then if spaced then [' ', '/'] else ['/'] else []) ++ ['>'])

mutual

/-- The text of a node. -/
def Node.markup (spaced : Bool) : Node → List Char
  | .element head children =>
      head.markup spaced ++
        if head.isVoid || head.selfClosing then []
        else Node.markupAll spaced children ++ ['<', '/'] ++ head.tag.toList ++ ['>']
  | .text content => content.toList
  | .comment content => ['<', '!', '-', '-'] ++ content.toList ++ ['-', '-', '>']

/-- The text of a fragment. -/
def Node.markupAll (spaced : Bool) : List Node → List Char
  | [] => []
  | node :: rest => Node.markup spaced node ++ Node.markupAll spaced rest

end

/-! ## What can be written -/

/-- An attribute whose text is read back. -/
structure Attribute.IsCanonical (given : Attribute) : Prop where
  nonempty : given.name.toList ≠ []
  name : ∀ c ∈ given.name.toList, isTagNameChar c = true ∧ c ≠ '='
  value : ∀ value ∈ given.value, '"' ∈ value.toList → '\'' ∉ value.toList

/-- A start tag whose text is read back. -/
structure Head.IsCanonical (head : Head) : Prop where
  tag : IsTagName head.tag.toList
  isVoid : head.isVoid = isVoidTag head.tag
  attributes : ∀ given ∈ head.attributes, given.IsCanonical
  distinct : (head.attributes.map fun given => lower given.name).Nodup

/-- The fragment begins with text. -/
def Node.BeginsWithText : List Node → Prop
  | .text _ :: _ => True
  | _ => False

mutual

/-- A node whose text is read back. -/
def Node.IsCanonical : Node → Prop
  | .element head children =>
      head.IsCanonical ∧ ((head.isVoid || head.selfClosing) = true → children = []) ∧
        match RawElement.ofTag? head.tag with
        | some raw =>
            children = [] ∨ ∃ content, children = [.text content] ∧ content ≠ "" ∧
              LacksEndTag raw content.toList
        | none => Node.AllCanonical children
  | .text content => content ≠ "" ∧ '<' ∉ content.toList
  | .comment content => IsCommentContent content.toList

/-- A fragment whose text is read back. -/
def Node.AllCanonical : List Node → Prop
  | [] => True
  | node :: rest =>
      Node.IsCanonical node ∧ (Node.BeginsWithText [node] → ¬ Node.BeginsWithText rest) ∧
        Node.AllCanonical rest

end

mutual

/-- How deep the elements that wait for an end tag are nested in a node. -/
def Node.openNesting : Node → Nat
  | .element head children =>
      if head.isVoid || head.selfClosing then 0 else Node.openNestingAll children + 1
  | .text _ => 0
  | .comment _ => 0

/-- How deep the elements that wait for an end tag are nested in a fragment. -/
def Node.openNestingAll : List Node → Nat
  | [] => 0
  | node :: rest => max (Node.openNesting node) (Node.openNestingAll rest)

end

/-! ## The phrases of a fragment -/

mutual

/-- The phrases that the text of a node consists of. -/
def Node.phrases : Node → List Phrase
  | .element head children =>
      .startTag head.tag head.attributes head.selfClosing ::
        if head.isVoid || head.selfClosing then []
        else Node.phrasesAll children ++ [.endTag head.tag]
  | .text content => [.text content]
  | .comment content => [.comment content]

/-- The phrases that the text of a fragment consists of. -/
def Node.phrasesAll : List Node → List Phrase
  | [] => []
  | node :: rest => Node.phrases node ++ Node.phrasesAll rest

end

end JsxFragment
