import JsxFragment.TagName

/-!
The nodes of a document fragment: elements, text and comments. A fragment is a list of nodes.
-/

namespace JsxFragment

/-- An attribute as it is written. It may have no value at all, which is not the empty value. -/
structure Attribute where
  name : String
  value : Option String := none
  deriving DecidableEq, Repr

/-- What a start tag says about its element. -/
structure Head where
  tag : String
  attributes : List Attribute := []
  /-- The element can have no content. -/
  isVoid : Bool := false
  /-- The start tag was closed by `/>`. -/
  selfClosing : Bool := false
  deriving DecidableEq, Repr, Inhabited

/-- A node of a fragment. References in text are kept as they are written. -/
inductive Node where
  | element (head : Head) (children : List Node)
  | text (content : String)
  | comment (content : String)
  deriving Repr, Inhabited

/-- Why an element cannot be made. -/
inductive NodeFault where
  | emptyTag
  | voidWithChildren
  deriving DecidableEq, Repr

/-- The fault in words. -/
def NodeFault.message : NodeFault → String
  | .emptyTag => "Element tag cannot be empty"
  | .voidWithChildren => "Void elements cannot have children"

/-- The element with this head and these children, if there is one. -/
def Node.element? (head : Head) (children : List Node) : Except NodeFault Node :=
  if head.tag = "" then .error .emptyTag
  else if head.isVoid && !children.isEmpty then .error .voidWithChildren
  else .ok (.element head children)

/-! ## Attributes -/

/-- The value of the first attribute with this name, in any case; the outer option tells whether
there is one. -/
def Head.find? (head : Head) (name : String) : Option (Option String) :=
  let key := Text.lower name
  (head.attributes.find? fun given => Text.lower given.name = key).map (·.value)

/-! ## Walks -/

mutual

/-- Visits a node and all below it in document order, with the number of ancestors of each. -/
def Node.walk {α : Type _} (visit : α → Nat → Node → α) (depth : Nat) (start : α) : Node → α
  | .element head children =>
    Node.walkAll visit (depth + 1) (visit start depth (.element head children)) children
  | .text content => visit start depth (.text content)
  | .comment content => visit start depth (.comment content)

/-- Visits the nodes of a fragment, each with all below it. -/
def Node.walkAll {α : Type _} (visit : α → Nat → Node → α) (depth : Nat) (start : α) :
    List Node → α
  | [] => start
  | node :: rest => Node.walkAll visit depth (Node.walk visit depth start node) rest

end

namespace Node

/-- Whether the node is an element. -/
def isElement : Node → Bool
  | .element _ _ => true
  | _ => false

/-- All nodes of a fragment in document order, each with the number of its ancestors. -/
def outline (fragment : List Node) : List (Nat × Node) :=
  (walkAll (fun visited depth node => (depth, node) :: visited) 0 [] fragment).reverse

/-- All nodes of a fragment in document order. -/
def preorder (fragment : List Node) : List Node :=
  (walkAll (fun visited _ node => node :: visited) 0 [] fragment).reverse

/-- The number of nodes of a fragment. -/
def count (fragment : List Node) : Nat :=
  walkAll (fun n _ _ => n + 1) 0 0 fragment

/-- The number of elements of a fragment. -/
def countElements (fragment : List Node) : Nat :=
  walkAll (fun n _ node => if node.isElement then n + 1 else n) 0 0 fragment

/-- How deep the elements of a fragment are nested; one that stands alone has depth one. -/
def nesting (fragment : List Node) : Nat :=
  walkAll (fun deepest depth node => if node.isElement then max deepest (depth + 1) else deepest)
    0 0 fragment

/-- The text of a fragment, in document order. -/
def textContent (fragment : List Node) : String :=
  walkAll
    (fun text _ node =>
      match node with
      | .text content => text ++ content
      | _ => text)
    0 "" fragment

end Node

end JsxFragment
