import JsxFragment.Proofs.Jsx.Merging
import JsxFragment.Proofs.Jsx.WrittenElements

/-!
# Blanks that format the source

A text of blanks with a line end among them leaves no trace in the output, wherever it stands
between nodes that are not text: it leaves no piece of its own, and all other texts keep the
neighbours that they have.
-/

namespace JsxFragment.Jsx

open Text

/-! ## Pieces -/

/-- A text that formats the source: blanks, and a line end among them. -/
def IsFormatting (content : String) : Prop :=
  (∀ c ∈ content.toList, isBlank c = true) ∧ '\n' ∈ content.toList

theorem textPieces_of_isFormatting {content : String} (formatting : IsFormatting content)
    (place : Place) : textPieces false place content = [] := by
  obtain ⟨blank, lineEnd⟩ := formatting
  simp [textPieces, flowPieces, blankPieces, List.all_eq_true.mpr blank, lineEnd]

/-- A block is a piece of its own. Before it the pieces depend on nothing but that it is there, and
behind it they do not depend on what is before it. -/
theorem exists_piecesFrom_append_block (nested preformatted : Bool) (before : List Sibling) :
    ∀ hasPrevious, ∃ first, ∀ block after,
      piecesFrom nested preformatted hasPrevious (before ++ .block block :: after) =
        first ++ .block block :: piecesFrom nested preformatted true after := by
  induction before with
  | nil => exact fun _ => ⟨[], fun _ _ => rfl⟩
  | cons sibling rest inductionHypothesis =>
      intro hasPrevious
      obtain ⟨first, isFirst⟩ := inductionHypothesis true
      cases sibling with
      | block own => exact ⟨.block own :: first, fun block after => by simp [piecesFrom, isFirst]⟩
      | text content =>
          refine ⟨textPieces preformatted { hasPrevious, hasNext := true, nested } content ++ first,
            fun block after => ?_⟩
          have hasNext : (rest ++ .block block :: after).isEmpty = false := by
            cases rest <;> rfl
          rw [List.cons_append, piecesFrom, isFirst, hasNext, List.append_assoc]
          rfl

theorem piecesFrom_append_block (nested preformatted : Bool) (before after : List Sibling)
    (block : Block) (hasPrevious : Bool) :
    piecesFrom nested preformatted hasPrevious (before ++ .block block :: after) =
      piecesFrom nested preformatted hasPrevious (before ++ [.block block])
        ++ piecesFrom nested preformatted true after := by
  obtain ⟨first, isFirst⟩ :=
    exists_piecesFrom_append_block nested preformatted before hasPrevious
  rw [isFirst, isFirst, List.append_assoc]
  rfl

theorem piecesFrom_of_isFormatting {content : String} (formatting : IsFormatting content)
    {siblings : List Sibling} (apart : ∀ sibling ∈ siblings.head?, sibling.text? = none)
    (nested hasPrevious : Bool) :
    piecesFrom nested false hasPrevious (mergeTexts (.text content :: siblings)) =
      piecesFrom nested false hasPrevious (mergeTexts siblings) := by
  cases siblings with
  | nil =>
      exact congrArg (· ++ []) (textPieces_of_isFormatting formatting _)
  | cons next rest =>
      cases next with
      | text following => exact absurd (apart _ rfl) (by simp [Sibling.text?])
      | block block =>
          exact congrArg (· ++ piecesFrom nested false true (mergeTexts (.block block :: rest)))
            (textPieces_of_isFormatting formatting _)

/-- The pieces of siblings do not change with a formatting text that no text is next to. -/
theorem pieces_insert {content : String} (formatting : IsFormatting content)
    {before after : List Sibling} (previous : ∀ sibling ∈ before.getLast?, sibling.text? = none)
    (next : ∀ sibling ∈ after.head?, sibling.text? = none) (nested : Bool) :
    pieces nested false (before ++ .text content :: after) =
      pieces nested false (before ++ after) := by
  rw [pieces_eq_piecesFrom, pieces_eq_piecesFrom]
  -- The text is the first sibling, or behind a block, which parts it from all that is before.
  rcases List.eq_nil_or_concat before with rfl | ⟨others, last, rfl⟩
  · exact piecesFrom_of_isFormatting formatting next nested false
  · cases last with
    | text own => exact absurd (previous (.text own) (by simp)) (by simp [Sibling.text?])
    | block block =>
        have parted (siblings : List Sibling) :
            piecesFrom nested false false
                (mergeTexts (others.concat (.block block) ++ siblings)) =
              piecesFrom nested false false (mergeTexts others ++ [.block block])
                ++ piecesFrom nested false true (mergeTexts siblings) := by
          rw [List.concat_eq_append, List.append_assoc, List.singleton_append,
            mergeTexts_append_block, piecesFrom_append_block]
        rw [parted, parted, piecesFrom_of_isFormatting formatting next]

/-! ## Nodes -/

/-- Whether a node is a sibling of the others: a comment that is dropped is none. -/
def isSibling (keepComments : Bool) : Node → Bool
  | .comment _ => keepComments
  | .element _ _ | .text _ => true

theorem map_text?_sibling? (keepComments preformatted : Bool) (node : Node) :
    (sibling? keepComments preformatted node).map Sibling.text? =
      if isSibling keepComments node then some node.text? else none := by
  cases node with
  | text content => rw [sibling?_text]; rfl
  | comment content => rw [sibling?_comment]; cases keepComments <;> rfl
  | element head children => rw [sibling?_element]; rfl

/-- The siblings that come of nodes are texts where the nodes are. -/
theorem map_text?_filterMap_sibling? (keepComments preformatted : Bool) (nodes : List Node) :
    (nodes.filterMap (sibling? keepComments preformatted)).map Sibling.text? =
      (nodes.filter (isSibling keepComments)).map Node.text? := by
  rw [List.map_filterMap, ← List.filterMap_eq_filter, List.map_filterMap]
  congr 1
  funext node
  rw [map_text?_sibling?]
  cases counts : isSibling keepComments node <;> simp [Option.guard, counts]

theorem filter_isSibling_of_kept (nodes : List Node) : nodes.filter (isSibling true) = nodes := by
  rw [List.filter_eq_self]
  intro node _
  cases node <;> rfl

theorem text?_eq_none_of_map_eq {siblings : Option Sibling} {nodes : Option Node}
    (same : siblings.map Sibling.text? = nodes.map Node.text?)
    (apart : ∀ node ∈ nodes, node.text? = none) : ∀ sibling ∈ siblings, sibling.text? = none := by
  cases nodes with
  | none => simp [Option.map_eq_none_iff.mp same]
  | some node =>
      obtain ⟨sibling, rfl, sameText⟩ := Option.map_eq_some_iff.mp same
      simpa [sameText] using apart

/-- The element's content is laid out as text that flows: it has content, which is neither raw nor
preformatted. -/
structure HasFlow (head : Head) : Prop where
  isVoid : head.isVoid = false
  raw : RawElement.ofTag? head.tag = none
  preformatted : isPreformattedTag head.tag = false

/-- The second fragment has one more text, which formats the source: it stands at any depth, in
elements whose content flows, and no text is next to it. -/
inductive InsertsFormatting : List Node → List Node → Prop
  | here {before after : List Node} {content : String} (formatting : IsFormatting content)
      (previous : ∀ node ∈ before.getLast?, node.text? = none)
      (next : ∀ node ∈ after.head?, node.text? = none) :
      InsertsFormatting (before ++ after) (before ++ .text content :: after)
  | inside (before after : List Node) {head : Head} {children others : List Node}
      (flows : HasFlow head) (inserts : InsertsFormatting children others) :
      InsertsFormatting (before ++ .element head children :: after)
        (before ++ .element head others :: after)

theorem HasFlow.sibling?_element {head : Head} (flows : HasFlow head) (keepComments : Bool)
    (children : List Node) :
    sibling? keepComments false (.element head children) =
      some (.block (elementBlock (tagName head.tag) (writeAttributes head.attributes)
        (pieces true false (children.filterMap (sibling? keepComments false))))) := by
  simp [Jsx.sibling?_element, flows.isVoid, flows.raw, flows.preformatted]

theorem HasFlow.writtenElements_element {head : Head} (flows : HasFlow head) (keepComments : Bool)
    (children : List Node) :
    writtenElements keepComments false (.element head children) =
      { head, overlong := none } :: allWrittenElements keepComments false children := by
  simp [writtenElements, flows.isVoid, flows.raw, flows.preformatted]

theorem InsertsFormatting.pieces_eq {nodes others : List Node}
    (inserts : InsertsFormatting nodes others) :
    ∀ nested, pieces nested false (others.filterMap (sibling? true false)) =
      pieces nested false (nodes.filterMap (sibling? true false)) := by
  induction inserts with
  | @here before after content formatting previous next =>
      intro nested
      have lastApart : ∀ sibling ∈ (before.filterMap (sibling? true false)).getLast?,
          sibling.text? = none := by
        refine text?_eq_none_of_map_eq ?_ previous
        rw [← List.getLast?_map, map_text?_filterMap_sibling?, filter_isSibling_of_kept,
          List.getLast?_map]
      have nextApart : ∀ sibling ∈ (after.filterMap (sibling? true false)).head?,
          sibling.text? = none := by
        refine text?_eq_none_of_map_eq ?_ next
        rw [← List.head?_map, map_text?_filterMap_sibling?, filter_isSibling_of_kept,
          List.head?_map]
      rw [List.filterMap_append, List.filterMap_cons_some (sibling?_text _ _ _),
        List.filterMap_append,
        pieces_insert formatting lastApart nextApart]
  | inside before after flows _ inductionHypothesis =>
      intro nested
      rw [List.filterMap_append, List.filterMap_append,
        List.filterMap_cons_some (flows.sibling?_element _ _),
        List.filterMap_cons_some (flows.sibling?_element _ _), inductionHypothesis]

theorem InsertsFormatting.elements_eq {nodes others : List Node}
    (inserts : InsertsFormatting nodes others) :
    allWrittenElements true false others = allWrittenElements true false nodes := by
  induction inserts with
  | here formatting previous next =>
      rw [allWrittenElements_append, allWrittenElements_append]
      rfl
  | inside before after flows _ inductionHypothesis =>
      rw [allWrittenElements_append, allWrittenElements_append, allWrittenElements,
        allWrittenElements, flows.writtenElements_element, flows.writtenElements_element,
        inductionHypothesis]

end JsxFragment.Jsx

namespace JsxFragment

open Jsx

/-- Where comments are kept, a formatting text that no text is next to changes nothing in the
output. -/
theorem render_of_insertsFormatting {options : LayoutOptions} {nodes others : List Node}
    (keeps : options.keepsComments = true) (inserts : InsertsFormatting nodes others) :
    render options others = render options nodes := by
  have elements : allWrittenElements options.keepsComments false others =
      allWrittenElements options.keepsComments false nodes := by
    rw [keeps, inserts.elements_eq]
  refine render_congr rfl elements ?_
  rw [keeps, inserts.pieces_eq]

theorem render_of_insertsFormatting_between_items :
    ({} : LayoutOptions).keepsComments = true ∧
      InsertsFormatting
        [.element { tag := "ul" } [.element { tag := "li" } [], .comment "x"]]
        [.element { tag := "ul" } [.element { tag := "li" } [], .text "\n  ", .comment "x"]] ∧
      render {} [.element { tag := "ul" } [.element { tag := "li" } [], .text "\n  ",
          .comment "x"]] =
        render {} [.element { tag := "ul" } [.element { tag := "li" } [], .comment "x"]] ∧
      render {} [.element { tag := "ul" } [.element { tag := "li" } [], .comment "x"]] =
        .ok "<ul>\n  <li />\n  \x7b/* x */\x7d\n</ul>" := by
  have formatting : IsFormatting "\n  " := ⟨List.all_eq_true.mp (by decide), by decide⟩
  have flows : HasFlow { tag := "ul" } := by
    constructor <;> decide
  have inserts : InsertsFormatting
      [.element { tag := "ul" } [.element { tag := "li" } [], .comment "x"]]
      [.element { tag := "ul" } [.element { tag := "li" } [], .text "\n  ", .comment "x"]] := by
    refine .inside [] [] flows (@InsertsFormatting.here [.element { tag := "li" } []]
      [.comment "x"] "\n  " formatting ?_ ?_)
    · simp [Node.text?]
    · simp [Node.text?]
  refine ⟨rfl, inserts, render_of_insertsFormatting rfl inserts, ?_⟩
  decide +kernel

end JsxFragment
