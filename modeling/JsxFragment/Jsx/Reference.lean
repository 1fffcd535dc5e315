import JsxFragment.Jsx.Layout

/-!
The character references that a layout has to decode. They stand in preformatted text alone; one
with too many decimal digits is not read, and the text that holds it cannot be written. The layout
ends at the element that has this text, and nothing is told of what comes after it.
-/

namespace JsxFragment.Jsx

open Text

/-- The texts directly among these nodes, joined where they are next to each other once comments
that are not kept are left out. -/
def directTexts (keepComments : Bool) (nodes : List Node) : List String :=
  let siblings :=
    nodes.filterMap fun node =>
      match node with
      | .text content => some (Sibling.text content)
      | .comment _ => if keepComments then some (.block (.line "")) else none
      | .element _ _ => some (.block (.line ""))
  (mergeTexts siblings).filterMap fun sibling =>
    match sibling with
    | .text content => some content
    | .block _ => none

/-- The digit count of the first reference too long to be read among these nodes' own texts. -/
def overlongAmong? (keepComments : Bool) (nodes : List Node) : Option Nat :=
  (directTexts keepComments nodes).findSome? fun text => Entity.overlongDecimal? text.toList

mutual

/-- The digit count of the first reference in a node that is too long to be read. -/
def overlongIn? (keepComments preformatted : Bool) : Node → Option Nat
  | .element head children =>
    if head.isVoid || (RawElement.ofTag? head.tag).isSome then none
    else
      let within := preformatted || isPreformattedTag head.tag
      match if within then overlongAmong? keepComments children else none with
      | some digitCount => some digitCount
      | none => overlongInAll? keepComments within children
  | _ => none

/-- The digit count of the first reference in a list of nodes that is too long to be read. -/
def overlongInAll? (keepComments preformatted : Bool) : List Node → Option Nat
  | [] => none
  | node :: rest =>
    match overlongIn? keepComments preformatted node with
    | some digitCount => some digitCount
    | none => overlongInAll? keepComments preformatted rest

end

/-- The digit count of the first reference of a document fragment that is too long to be read. -/
def overlongReference? (keepComments : Bool) (nodes : List Node) : Option Nat :=
  overlongInAll? keepComments false nodes

/-! ## Notices until then -/

mutual

/-- Adds what there is to tell of a node to what was told before; the last notice comes first. It is
an error, with all that has been told, once an element's own texts hold a reference too long to be
read; the element's attributes come before its texts. -/
def toldOnto (keepComments preformatted : Bool) (before : List Notice) :
    Node → Except (List Notice) (List Notice)
  | .element head children =>
    let own := head.attributes.flatMap (attributeNotices head.tag)
    let told := own.reverse ++ before
    if head.isVoid || (RawElement.ofTag? head.tag).isSome then .ok told
    else
      let within := preformatted || isPreformattedTag head.tag
      if within && (overlongAmong? keepComments children).isSome then .error told
      else allToldOnto keepComments within told children
  | _ => .ok before

/-- Adds what there is to tell of the nodes of a list. -/
def allToldOnto (keepComments preformatted : Bool) (before : List Notice) :
    List Node → Except (List Notice) (List Notice)
  | [] => .ok before
  | node :: rest =>
    match toldOnto keepComments preformatted before node with
    | .error told => .error told
    | .ok told => allToldOnto keepComments preformatted told rest

end

/-- What there is to tell of a document fragment, in document order, up to the first element whose
own texts hold a reference too long to be read, that element included. -/
def noticesUntilOverlong (keepComments : Bool) (nodes : List Node) : List Notice :=
  match allToldOnto keepComments false [] nodes with
  | .error told => told.reverse
  | .ok told => told.reverse

mutual

theorem toldOnto_eq_ok (keepComments preformatted : Bool) (before : List Notice) :
    ∀ node, overlongIn? keepComments preformatted node = none →
      toldOnto keepComments preformatted before node = .ok (noticesOnto before node)
  | .text _, _ => by simp [toldOnto, noticesOnto]
  | .comment _, _ => by simp [toldOnto, noticesOnto]
  | .element head children, readable => by
      have below := allToldOnto_eq_ok keepComments (preformatted || isPreformattedTag head.tag)
        ((head.attributes.flatMap (attributeNotices head.tag)).reverse ++ before) children
      unfold overlongIn? at readable
      unfold toldOnto noticesOnto
      grind

theorem allToldOnto_eq_ok (keepComments preformatted : Bool) (before : List Notice) :
    ∀ nodes, overlongInAll? keepComments preformatted nodes = none →
      allToldOnto keepComments preformatted before nodes = .ok (allNoticesOnto before nodes)
  | [], _ => by simp [allToldOnto, allNoticesOnto]
  | node :: rest, readable => by
      have first := toldOnto_eq_ok keepComments preformatted before node
      have others := allToldOnto_eq_ok keepComments preformatted (noticesOnto before node) rest
      unfold overlongInAll? at readable
      unfold allToldOnto allNoticesOnto
      grind

end

/-- Where all references can be read, all there is to tell is told. -/
theorem noticesUntilOverlong_eq_notices {keepComments : Bool} {nodes : List Node}
    (readable : overlongReference? keepComments nodes = none) :
    noticesUntilOverlong keepComments nodes = notices nodes := by
  unfold noticesUntilOverlong notices
  rw [allToldOnto_eq_ok keepComments false [] nodes readable]

end JsxFragment.Jsx
