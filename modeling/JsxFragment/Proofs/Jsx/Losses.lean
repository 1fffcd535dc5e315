import JsxFragment.Diagnostic
import JsxFragment.Proofs.Jsx.Indentation
import JsxFragment.Proofs.Jsx.WrittenAttributes
import JsxFragment.Proofs.Jsx.WrittenElements

/-!
# Reports of what is lost

What a layout reports is told element by element, in document order, and attribute by attribute: one
that is left out, the parts of a style that are no declarations, a style that stays a string. All
that is not left out stands in the tag of its element, in the same order.
-/

namespace JsxFragment.Jsx

open Text

/-! ## Reports on attributes -/

/-- A warning of something lost, under the name of what it is. -/
def lossWarning (correlationId : Option String) (message name lost : String) : Diagnostic :=
  { severity := .warning
    message
    component := "jsx_renderer"
    details := [(name, .string lost)]
    correlationId }

/-- The reports on the style of an element with this tag: one for each part that is no declaration,
and one if the style is no object. -/
def styleReports (correlationId : Option String) (tag style : String) : List Diagnostic :=
  ((Style.convert style).skipped.map fun declaration =>
      lossWarning correlationId ("Skipped invalid style declaration on <" ++ tag ++ ">")
        "declaration" declaration)
    ++ if (Style.convert style).succeeded then []
      else
        [lossWarning correlationId ("Kept style attribute on <" ++ tag ++ "> as a string")
          "style" style]

/-- The reports on an attribute of an element with this tag. -/
def attributeReports (correlationId : Option String) (tag : String) (given : Attribute) :
    List Diagnostic :=
  if isAttributeName (attributeName given.name) then
    match given.value with
    | none => []
    | some value =>
      if lower given.name = "style" then styleReports correlationId tag value else []
  else
    [lossWarning correlationId
      ("Dropped attribute on <" ++ tag ++ "> with a name JSX cannot express")
      "attribute" given.name]

/-- The reports on an element. -/
def reportsOn (correlationId : Option String) (head : Head) : List Diagnostic :=
  head.attributes.flatMap (attributeReports correlationId head.tag)

theorem map_ofNotice_style (correlationId : Option String) (tag style : String) :
    ((Style.convert style).skipped.map (Notice.skippedDeclaration tag)
        ++ if (Style.convert style).succeeded then [] else [Notice.keptStyle tag style]).map
          (.ofNotice correlationId) =
      styleReports correlationId tag style := by
  rw [styleReports, List.map_append, List.map_map]
  cases (Style.convert style).succeeded with
  | true => rfl
  | false => rfl

/-- What is told of an attribute is reported of it. -/
theorem map_ofNotice_attributeNotices (correlationId : Option String) (tag : String)
    (given : Attribute) :
    (attributeNotices tag given).map (.ofNotice correlationId) =
      attributeReports correlationId tag given := by
  unfold attributeNotices attributeReports style?
  cases isAttributeName (attributeName given.name) with
  | false => rfl
  | true =>
      cases given.value with
      | none => simp
      | some value =>
          by_cases isStyle : lower given.name = "style"
          · simpa [isStyle] using map_ofNotice_style correlationId tag value
          · simp [isStyle]

theorem map_ofNotice_losses (correlationId : Option String) (head : Head) :
    (losses head).map (.ofNotice correlationId) = reportsOn correlationId head := by
  rw [losses, List.map_flatMap]
  exact List.flatMap_congr fun given _ => map_ofNotice_attributeNotices correlationId _ given

/-! ## Attributes in tags -/

/-- The text begins the element: its tag has all attributes of the element that JSX can express, in
normal form and in their order. -/
def Begins (head : Head) (text : String) : Prop :=
  ∃ following written isClosed rest,
    text.toList = '<' :: ((tagName head.tag).toList ++ following) ∧
      scanHead? following = some ((written, isClosed), rest) ∧
      List.Forall₂ (fun given normal => normalAttribute? given = some normal)
        (head.attributes.filter fun given => isAttributeName (attributeName given.name)) written

theorem forall₂_normalAttribute? (attributes : List Attribute) :
    List.Forall₂ (fun given normal => normalAttribute? given = some normal)
      (attributes.filter fun given => isAttributeName (attributeName given.name))
      (attributes.filterMap normalAttribute?) := by
  induction attributes with
  | nil => exact .nil
  | cons given rest inductionHypothesis =>
      cases isName : isAttributeName (attributeName given.name) with
      | false =>
          have leftOut : normalAttribute? given = none := by simp [normalAttribute?, isName]
          rw [List.filter_cons_of_neg (by simp [isName]), List.filterMap_cons_none leftOut]
          exact inductionHypothesis
      | true =>
          obtain ⟨normal, form⟩ := exists_normalAttribute? isName
          rw [List.filter_cons_of_pos (by exact isName), List.filterMap_cons_some form]
          exact .cons form inductionHypothesis

theorem begins_of_tagEnd {head : Head} {text : String} (isClosed : Bool) (rest : List Char)
    (isText : text.toList = '<' :: ((tagName head.tag).toList
      ++ ((writeAttributes head.attributes).toList ++ (tagEnd isClosed ++ rest)))) :
    Begins head text :=
  ⟨_, _, isClosed, rest, isText, scanHead?_writeAttributes head.attributes _ _,
    forall₂_normalAttribute? head.attributes⟩

/-- A part in which an element begins has the attributes of that element. -/
theorem begins_of_head?_eq {part : Part} {head : Head} (isHead : part.head? = some head) :
    Begins head part.text := by
  cases part with
  | opening own =>
      cases isHead
      exact begins_of_tagEnd false [] (by simp [Part.text, openingLine, tagEnd])
  | element own content =>
      cases isHead
      cases content with
      | none =>
          exact begins_of_tagEnd true [] (by simp [Part.text, emptyElement, tagEnd])
      | some content =>
          exact begins_of_tagEnd false (content ++ closingLine (tagName head.tag)).toList
            (by simp [Part.text, openingLine, tagEnd])
  | closing own => cases isHead
  | leaf text => cases isHead
  | fragmentOpening => cases isHead
  | fragmentClosing => cases isHead

/-! ## Elements that the layout does not reach -/

/-- The elements that are written after the first one whose own texts have a reference too long to
be read. -/
def unreached (keepComments : Bool) (nodes : List Node) : List Head :=
  unreachedHeads (allWrittenElements keepComments false nodes)

theorem unreached_eq_nil {keepComments : Bool} {nodes : List Node}
    (readable : ∀ text ∈ preformattedTexts keepComments nodes, ¬HasOverlongDecimal text.toList) :
    unreached keepComments nodes = [] := by
  apply unreachedHeads_of_findSome?_eq_none
  rw [← overlongInAll?_eq_findSome?, overlongInAll?_eq_none_iff]
  exact readable

end JsxFragment.Jsx

namespace JsxFragment

open Jsx

/-- The reports on a layout are those on the elements that are written, in document order, if and
only if there is nothing to report of the elements that it does not reach; it reaches all of them
unless a preformatted text has a reference with too many digits. Each element begins with a tag in
which all attributes stand that are not reported as dropped. -/
theorem reports_of_renderNotices (options : LayoutOptions) (nodes : List Node)
    (correlationId : Option String) (whole : ∀ size, options.indentSize ≠ .real size) :
    ((renderNotices options nodes).map (.ofNotice correlationId) =
        (allWrittenHeads nodes).flatMap (reportsOn correlationId) ↔
      ∀ head ∈ unreached options.keepsComments nodes, reportsOn correlationId head = []) ∧
    ((∀ text ∈ preformattedTexts options.keepsComments nodes, ¬HasOverlongDecimal text.toList) →
      unreached options.keepsComments nodes = []) ∧
    ∃ parts, IsLayout parts ∧ headsOf parts = allWrittenHeads nodes ∧
      (∀ part ∈ parts, ∀ head ∈ part.2.head?, Begins head part.2.text) ∧
      ∀ jsx, render options nodes = .ok jsx →
        ∃ unit, options.indentUnit = .ok unit ∧ jsx = writeParts unit parts := by
  obtain ⟨unit, indents, _⟩ := LayoutOptions.indentUnit_isIndent whole
  obtain ⟨parts, layout, areLines, areHeads⟩ := exists_parts_of_blocks options.keepsComments nodes
  refine ⟨?_, unreached_eq_nil, parts, layout, areHeads, ?_, ?_⟩
  · have reached : (renderNotices options nodes).map (.ofNotice correlationId) =
        (reachedHeads (allWrittenElements options.keepsComments false nodes)).flatMap
          (reportsOn correlationId) := by
      rw [renderNotices_eq_flatMap nodes indents, List.map_flatMap]
      exact List.flatMap_congr fun head _ => map_ofNotice_losses correlationId head
    -- The written elements are those that are reached and then those that are not.
    rw [reached, ← map_head_allWrittenElements options.keepsComments nodes false,
      ← reachedHeads_append_unreachedHeads, List.flatMap_append, ← List.flatMap_eq_nil_iff,
      unreached]
    exact List.self_eq_append_right
  · exact fun part _ head isHead => begins_of_head?_eq isHead
  · intro jsx succeeds
    rw [render, indents] at succeeds
    dsimp only at succeeds
    split at succeeds
    · exact absurd succeeds (by simp)
    · refine ⟨unit, indents, (Except.ok.inj succeeds).symm.trans ?_⟩
      rw [areLines, indent_map_line]

/-- A division with a paragraph in it, both with attributes that are lost or stay strings. -/
def lossyFragment : List Node :=
  [.element { tag := "div", attributes := [⟨"@x", some "1"⟩, ⟨"class", some "a"⟩] }
    [.element { tag := "p", attributes := [⟨"style", some "bad"⟩] } []]]

theorem reports_of_renderNotices_lossyFragment :
    (∀ size, ({} : LayoutOptions).indentSize ≠ .real size) ∧
      (∀ text ∈ preformattedTexts true lossyFragment, ¬HasOverlongDecimal text.toList) ∧
      (renderNotices {} lossyFragment).map (.ofNotice none) =
        (allWrittenHeads lossyFragment).flatMap (reportsOn none) ∧
      (renderNotices {} lossyFragment).map (.ofNotice none) =
        [lossWarning none "Dropped attribute on <div> with a name JSX cannot express" "attribute"
            "@x",
          lossWarning none "Skipped invalid style declaration on <p>" "declaration" "bad",
          lossWarning none "Kept style attribute on <p> as a string" "style" "bad"] := by
  have whole : ∀ size, ({} : LayoutOptions).indentSize ≠ .real size := nofun
  have noText : ∀ text ∈ preformattedTexts true lossyFragment, ¬HasOverlongDecimal text.toList := by
    rw [show preformattedTexts true lossyFragment = [] from rfl]
    simp
  obtain ⟨exact', reachesAll, _⟩ := reports_of_renderNotices {} lossyFragment none whole
  have silent : ∀ head ∈ unreached ({} : LayoutOptions).keepsComments lossyFragment,
      reportsOn none head = [] := by
    rw [reachesAll noText]
    simp
  have told : renderNotices {} lossyFragment =
      [.droppedAttribute "div" "@x", .skippedDeclaration "p" "bad", .keptStyle "p" "bad"] := by
    decide +kernel
  refine ⟨whole, noText, exact'.mpr silent, ?_⟩
  rw [told]
  rfl

/-- A preformatted element with one text, and a paragraph after it that loses an attribute. -/
def lossBehindText (content : String) : List Node :=
  preformattedFragment content
    ++ [.element { tag := "p", attributes := [⟨"@x", some "y"⟩] } []]

/-- The layout ends at the text, before the element behind it. -/
theorem renderNotices_lossBehindText_of_overlong {content : String}
    (overlong : HasOverlongDecimal content.toList) :
    renderNotices {} (lossBehindText content) = [] := by
  have isOverlong : (overlongAmong? true [.text content]).isSome = true := by
    rw [Option.isSome_iff_ne_none]
    intro isNone
    have unread := List.findSome?_eq_none_iff.mp isNone content List.mem_cons_self
    exact (overlongDecimal?_eq_none_iff _).mp unread overlong
  have elements : allWrittenElements true false (lossBehindText content) =
      [⟨{ tag := "pre" }, overlongAmong? true [.text content]⟩,
        ⟨{ tag := "p", attributes := [⟨"@x", some "y"⟩] }, none⟩] := rfl
  have indents : ({} : LayoutOptions).indentUnit = .ok "  " := rfl
  rw [renderNotices_eq_flatMap _ indents]
  change (reachedHeads (allWrittenElements true false (lossBehindText content))).flatMap losses = []
  rw [elements, reachedHeads, if_pos isOverlong]
  rfl

/-- A loss that is not reported, since a text before it cannot be written. -/
theorem not_reports_of_loss_behind_padded_reference :
    (renderNotices {} (lossBehindText (paddedReference 4300))).map (.ofNotice none) ≠
      (allWrittenHeads (lossBehindText (paddedReference 4300))).flatMap (reportsOn none) := by
  have overlong := @hasOverlongDecimal_paddedReference 4300 (by decide)
  have isReported : (allWrittenHeads (lossBehindText (paddedReference 4300))).flatMap
      (reportsOn none) =
        [lossWarning none "Dropped attribute on <p> with a name JSX cannot express" "attribute"
          "@x"] := rfl
  rw [renderNotices_lossBehindText_of_overlong overlong, isReported]
  exact (List.cons_ne_nil _ _).symm

end JsxFragment
