import JsxFragment.Conversion
import JsxFragment.Proofs.Jsx.WrittenTags

/-!
# Elements in the order of the layout

A layout comes by the elements that it writes in document order. All that it has to tell belongs to
one of them, and so does a reference too long to be read, at which it ends. Two layouts that write
the same elements and the same pieces are the same, what they tell and where they fail included.
-/

namespace JsxFragment.Jsx

/-! ## Elements -/

/-- An element that is written. -/
structure WrittenElement where
  head : Head
  /-- The digit count of the first reference too long to be read, if the element's own texts have to
  be decoded. -/
  overlong : Option Nat

mutual

/-- The elements that are written for a node, in document order. -/
def writtenElements (keepComments preformatted : Bool) : Node → List WrittenElement
  | .element head children =>
    if head.isVoid || (RawElement.ofTag? head.tag).isSome then [{ head, overlong := none }]
    else
      let within := preformatted || isPreformattedTag head.tag
      { head, overlong := if within then overlongAmong? keepComments children else none }
        :: allWrittenElements keepComments within children
  | .text _ | .comment _ => []

/-- The elements that are written for a list of nodes. -/
def allWrittenElements (keepComments preformatted : Bool) : List Node → List WrittenElement
  | [] => []
  | node :: rest =>
    writtenElements keepComments preformatted node
      ++ allWrittenElements keepComments preformatted rest

end

theorem allWrittenElements_append (keepComments preformatted : Bool) (first second : List Node) :
    allWrittenElements keepComments preformatted (first ++ second) =
      allWrittenElements keepComments preformatted first
        ++ allWrittenElements keepComments preformatted second := by
  induction first with
  | nil => rfl
  | cons node rest inductionHypothesis =>
      rw [List.cons_append, allWrittenElements, allWrittenElements, inductionHypothesis,
        List.append_assoc]

/-- The elements are those with the heads that are written. -/
theorem map_head_allWrittenElements (keepComments : Bool) (nodes : List Node) :
    ∀ preformatted, (allWrittenElements keepComments preformatted nodes).map (·.head) =
      allWrittenHeads nodes := by
  induction nodes using Node.fragmentInduction with
  | nil => exact fun _ => rfl
  | text content rest forRest => exact fun preformatted => forRest preformatted
  | comment content rest forRest => exact fun preformatted => forRest preformatted
  | element head children rest forChildren forRest =>
      intro preformatted
      rw [allWrittenElements, allWrittenHeads, List.map_append, forRest, writtenElements,
        writtenHeads]
      split
      · rfl
      · rw [List.map_cons, forChildren]

/-- The first reference too long to be read stands in the first element that has one. -/
theorem overlongInAll?_eq_findSome? (keepComments : Bool) (nodes : List Node) :
    ∀ preformatted, overlongInAll? keepComments preformatted nodes =
      (allWrittenElements keepComments preformatted nodes).findSome? (·.overlong) := by
  induction nodes using Node.fragmentInduction with
  | nil => exact fun _ => rfl
  | text content rest forRest => exact fun preformatted => forRest preformatted
  | comment content rest forRest => exact fun preformatted => forRest preformatted
  | element head children rest forChildren forRest =>
      intro preformatted
      have first : overlongIn? keepComments preformatted (.element head children) =
          (writtenElements keepComments preformatted (.element head children)).findSome?
            (·.overlong) := by
        rw [overlongIn?, writtenElements]
        split
        · rfl
        · rw [List.findSome?_cons]
          cases preformatted || isPreformattedTag head.tag with
          | false => exact forChildren false
          | true =>
              cases overlongAmong? keepComments children with
              | none => exact forChildren true
              | some digitCount => rfl
      rw [allWrittenElements, List.findSome?_append, ← first, ← forRest, overlongInAll?]
      cases overlongIn? keepComments preformatted (.element head children) with
      | none => rfl
      | some digitCount => rfl

/-! ## What is told -/

/-- What there is to tell of an element. -/
def losses (head : Head) : List Notice :=
  head.attributes.flatMap (attributeNotices head.tag)

/-- What has been told after one more element, at which the layout may end. -/
def WrittenElement.tell (told : List Notice) (element : WrittenElement) :
    Except (List Notice) (List Notice) :=
  let all := (losses element.head).reverse ++ told
  if element.overlong.isSome then .error all else .ok all

theorem allToldOnto_eq_foldlM (keepComments : Bool) (nodes : List Node) :
    ∀ preformatted before, allToldOnto keepComments preformatted before nodes =
      (allWrittenElements keepComments preformatted nodes).foldlM WrittenElement.tell before := by
  induction nodes using Node.fragmentInduction with
  | nil => exact fun _ _ => rfl
  | text content rest forRest => exact fun preformatted before => forRest preformatted before
  | comment content rest forRest => exact fun preformatted before => forRest preformatted before
  | element head children rest forChildren forRest =>
      intro preformatted before
      have first : toldOnto keepComments preformatted before (.element head children) =
          (writtenElements keepComments preformatted (.element head children)).foldlM
            WrittenElement.tell before := by
        rw [toldOnto, writtenElements]
        split
        · rfl
        · rw [List.foldlM_cons, WrittenElement.tell]
          cases preformatted || isPreformattedTag head.tag with
          | false => exact forChildren false _
          | true =>
              cases overlongAmong? keepComments children with
              | none => exact forChildren true _
              | some digitCount => rfl
      rw [allWrittenElements, List.foldlM_append, ← first, allToldOnto]
      cases toldOnto keepComments preformatted before (.element head children) with
      | error told => rfl
      | ok told => exact forRest preformatted told

/-- The heads of the elements up to the first one with a reference too long to be read. -/
def reachedHeads : List WrittenElement → List Head
  | [] => []
  | element :: rest =>
    element.head :: if element.overlong.isSome then [] else reachedHeads rest

/-- The heads of the elements after the first one with a reference too long to be read. -/
def unreachedHeads : List WrittenElement → List Head
  | [] => []
  | element :: rest =>
    if element.overlong.isSome then rest.map (·.head) else unreachedHeads rest

theorem reachedHeads_append_unreachedHeads (elements : List WrittenElement) :
    reachedHeads elements ++ unreachedHeads elements = elements.map (·.head) := by
  induction elements with
  | nil => rfl
  | cons element rest inductionHypothesis =>
      rw [reachedHeads, unreachedHeads, List.map_cons, List.cons_append]
      split
      · rfl
      · rw [inductionHypothesis]

theorem unreachedHeads_of_findSome?_eq_none {elements : List WrittenElement}
    (readable : elements.findSome? (·.overlong) = none) : unreachedHeads elements = [] := by
  induction elements with
  | nil => rfl
  | cons element rest inductionHypothesis =>
      rw [List.findSome?_cons] at readable
      cases own : element.overlong with
      | none =>
          rw [own] at readable
          simpa [unreachedHeads, own] using inductionHypothesis readable
      | some digitCount =>
          rw [own] at readable
          exact absurd readable (by simp)

/-- All that is told belongs to the elements that the layout reaches. -/
theorem foldlM_tell (elements : List WrittenElement) :
    ∀ before, elements.foldlM WrittenElement.tell before =
      let told := ((reachedHeads elements).flatMap losses).reverse ++ before
      if (elements.findSome? (·.overlong)).isSome then .error told else .ok told := by
  induction elements with
  | nil => exact fun _ => rfl
  | cons element rest inductionHypothesis =>
      intro before
      rw [List.foldlM_cons, List.findSome?_cons, reachedHeads, WrittenElement.tell]
      cases element.overlong with
      | none =>
          refine (inductionHypothesis _).trans ?_
          simp
      | some digitCount =>
          -- What the element itself has to tell comes before its texts are read.
          simp only [Option.isSome_some, if_true, List.flatMap_singleton]
          rfl

theorem noticesUntilOverlong_eq_flatMap (keepComments : Bool) (nodes : List Node) :
    noticesUntilOverlong keepComments nodes =
      (reachedHeads (allWrittenElements keepComments false nodes)).flatMap losses := by
  rw [noticesUntilOverlong, allToldOnto_eq_foldlM, foldlM_tell]
  dsimp only
  split
  · next told stopped =>
      split at stopped <;> cases stopped
      simp
  · next told finished =>
      split at finished <;> cases finished
      simp

end JsxFragment.Jsx

namespace JsxFragment

open Jsx

/-- What is told of a fragment belongs to the elements that the layout reaches. -/
theorem renderNotices_eq_flatMap {options : LayoutOptions} {unit : String} (nodes : List Node)
    (indents : options.indentUnit = .ok unit) :
    renderNotices options nodes =
      (reachedHeads (allWrittenElements options.keepsComments false nodes)).flatMap losses := by
  rw [renderNotices, indents, ← noticesUntilOverlong_eq_flatMap]
  cases readable : overlongReference? options.keepsComments nodes with
  | none => exact (noticesUntilOverlong_eq_notices readable).symm
  | some digitCount => rfl

/-- Fragments with the same elements have the same first overlong reference. -/
theorem overlongReference?_congr {keepComments keepOthers : Bool} {nodes others : List Node}
    (elements : allWrittenElements keepComments false nodes =
      allWrittenElements keepOthers false others) :
    overlongReference? keepComments nodes = overlongReference? keepOthers others := by
  rw [overlongReference?, overlongReference?, overlongInAll?_eq_findSome?, elements,
    ← overlongInAll?_eq_findSome?]

section Congruence

variable {options others : LayoutOptions} {nodes replaced : List Node}
  (sameUnit : options.indentUnit = others.indentUnit)
  (elements : allWrittenElements options.keepsComments false nodes =
    allWrittenElements others.keepsComments false replaced)

include sameUnit elements

/-- Layouts with the same elements and the same pieces are the same, or fail alike. -/
theorem render_congr
    (samePieces :
      pieces false false (nodes.filterMap (sibling? options.keepsComments false)) =
        pieces false false (replaced.filterMap (sibling? others.keepsComments false))) :
    render options nodes = render others replaced := by
  have sameBlocks : blocks options.keepsComments nodes = blocks others.keepsComments replaced := by
    rw [blocks, blocks, fragmentPieces, fragmentPieces, reverse_siblingsOnto, reverse_siblingsOnto,
      samePieces]
  rw [render, render, sameUnit, overlongReference?_congr elements, sameBlocks]

/-- Of layouts with the same elements the same is told. -/
theorem renderNotices_congr : renderNotices options nodes = renderNotices others replaced := by
  cases indents : others.indentUnit with
  | error fault => rw [renderNotices, renderNotices, sameUnit, indents]
  | ok unit =>
      rw [renderNotices_eq_flatMap nodes (sameUnit.trans indents),
        renderNotices_eq_flatMap replaced indents, elements]

end Congruence

end JsxFragment
