import JsxFragment.Proofs.Jsx.Brackets
import JsxFragment.Proofs.Jsx.Merging

/-!
# Indentation

The lines of a layout are parts that nest like brackets, each as deep as its brackets say. The parts
do not depend on the indentation, which is put before each of them as often as it is deep.
-/

namespace JsxFragment.Jsx

/-! ## Lines of blocks -/

mutual

/-- The lines of a block at this depth. -/
def Block.linesAt (depth : Nat) : Block → List (Nat × String)
  | .line text => [(depth, text)]
  | .nest tag attributes content =>
    (depth, openingLine tag attributes)
      :: (Block.allLinesAt (depth + 1) content ++ [(depth, closingLine tag)])

/-- The lines of several blocks at this depth. -/
def Block.allLinesAt (depth : Nat) : List Block → List (Nat × String)
  | [] => []
  | block :: rest => block.linesAt depth ++ Block.allLinesAt depth rest

end

mutual

theorem reverse_linesOnto (depth : Nat) (before : List (Nat × String)) :
    ∀ block : Block, (block.linesOnto depth before).reverse = before.reverse ++ block.linesAt depth
  | .line text => by
      rw [Block.linesOnto, Block.linesAt, List.reverse_cons]
  | .nest tag attributes content => by
      rw [Block.linesOnto, Block.linesAt, List.reverse_cons,
        reverse_allLinesOnto (depth + 1) _ content, List.reverse_cons, List.append_assoc,
        List.append_assoc, List.singleton_append]

theorem reverse_allLinesOnto (depth : Nat) (before : List (Nat × String)) :
    ∀ blocks : List Block, (Block.allLinesOnto depth before blocks).reverse =
      before.reverse ++ Block.allLinesAt depth blocks
  | [] => by
      rw [Block.allLinesOnto, Block.allLinesAt, List.append_nil]
  | block :: rest => by
      rw [Block.allLinesOnto, Block.allLinesAt, reverse_allLinesOnto depth _ rest,
        reverse_linesOnto depth before block, List.append_assoc]

end

theorem lines_eq_allLinesAt (blocks : List Block) : lines blocks = Block.allLinesAt 0 blocks :=
  reverse_allLinesOnto 0 [] blocks

/-! ## Parts of blocks -/

/-- At every depth the lines of the block are one part, or parts in one pair of brackets, in which
elements with these heads begin. -/
def Block.Holds (block : Block) (heads : List Head) : Prop :=
  ∀ depth, ∃ parts, Bracketed depth 1 parts ∧ block.linesAt depth = parts.map Part.line ∧
    headsOf parts = heads

/-- The blocks hold elements with these heads, one block after another. -/
inductive AllHold : List Block → List Head → Prop
  | nil : AllHold [] []
  | cons {block : Block} {rest : List Block} {first others : List Head}
      (inBlock : block.Holds first) (inRest : AllHold rest others) :
      AllHold (block :: rest) (first ++ others)

theorem AllHold.exists_parts {blocks : List Block} {heads : List Head}
    (holds : AllHold blocks heads) (depth : Nat) :
    ∃ parts, Bracketed depth blocks.length parts ∧
      Block.allLinesAt depth blocks = parts.map Part.line ∧ headsOf parts = heads := by
  induction holds with
  | nil => exact ⟨[], .nil depth, rfl, rfl⟩
  | cons inBlock _ inductionHypothesis =>
      obtain ⟨parts, bracketed, areLines, areHeads⟩ := inBlock depth
      obtain ⟨others, following, otherLines, otherHeads⟩ := inductionHypothesis
      refine ⟨parts ++ others, ?_, ?_, ?_⟩
      · rw [List.length_cons, Nat.add_comm]
        exact bracketed.append following
      · rw [Block.allLinesAt, areLines, otherLines, List.map_append]
      · rw [headsOf_append, areHeads, otherHeads]

theorem holds_leaf {text : String} (isLeaf : IsLeaf text) : (Block.line text).Holds [] :=
  fun depth => ⟨[(depth, .leaf text)], .leaf isLeaf (.nil depth), rfl, rfl⟩

/-- An element on one line, without content or around a leaf. -/
theorem holds_element (head : Head) {content : Option String}
    (isLeaf : ∀ text ∈ content, IsLeaf text) :
    (Block.line (Part.element head content).text).Holds [head] :=
  fun depth =>
    ⟨[(depth, .element head content)], .element head isLeaf (.nil depth), rfl, rfl⟩

theorem holds_nest (head : Head) {content : List Block} {heads : List Head}
    (inner : AllHold content heads) (nonempty : content ≠ []) :
    (Block.nest (tagName head.tag) (writeAttributes head.attributes) content).Holds
      (head :: heads) := by
  intro depth
  obtain ⟨parts, bracketed, areLines, areHeads⟩ := inner.exists_parts (depth + 1)
  obtain ⟨within, count⟩ := Nat.exists_eq_add_one_of_ne_zero (mt List.length_eq_zero_iff.mp nonempty)
  rw [count] at bracketed
  refine ⟨(depth, .opening head) :: (parts ++ [(depth, .closing head)]),
    .nest head bracketed (.nil depth), ?_, ?_⟩
  · rw [Block.linesAt, areLines, List.map_cons, List.map_append]
    rfl
  · change head :: headsOf (parts ++ [(depth, .closing head)]) = head :: heads
    rw [headsOf_append, areHeads]
    exact congrArg (head :: ·) (List.append_nil heads)

/-! ## Blocks among pieces -/

/-- The block that a sibling is. -/
def Sibling.block? : Sibling → Option Block
  | .text _ => none
  | .block laidOut => some laidOut

/-- The block that a piece is. -/
def Piece.block? : Piece → Option Block
  | .text _ => none
  | .block laidOut => some laidOut

theorem filterMap_block?_mergeTexts (siblings : List Sibling) :
    (mergeTexts siblings).filterMap Sibling.block? = siblings.filterMap Sibling.block? := by
  have onto (sibling : Sibling) (merged : List Sibling) :
      (sibling.onto merged).filterMap Sibling.block? =
        (sibling :: merged).filterMap Sibling.block? := by
    cases sibling with
    | block block => rfl
    | text content =>
        cases merged with
        | nil => rfl
        | cons next others => cases next <;> rfl
  induction siblings with
  | nil => rfl
  | cons sibling rest inductionHypothesis =>
      rw [mergeTexts_cons_eq_onto, onto, List.filterMap_cons, List.filterMap_cons,
        inductionHypothesis]

theorem filterMap_block?_textPieces (preformatted : Bool) (place : Place) (content : String) :
    (textPieces preformatted place content).filterMap Piece.block? = [] := by
  rw [List.filterMap_eq_nil_iff]
  intro piece member
  have isLeaf := isLeaf_of_mem_textPieces piece member
  cases piece with
  | text written => rfl
  | block block => exact isLeaf.elim

/-- Texts come and go on the way from siblings to pieces, but the blocks stay as they are. -/
theorem filterMap_block?_pieces (nested preformatted : Bool) (siblings : List Sibling) :
    (pieces nested preformatted siblings).filterMap Piece.block? =
      siblings.filterMap Sibling.block? := by
  have fromMerged (merged : List Sibling) : ∀ hasPrevious,
      (piecesFrom nested preformatted hasPrevious merged).filterMap Piece.block? =
        merged.filterMap Sibling.block? := by
    induction merged with
    | nil => exact fun _ => rfl
    | cons sibling rest inductionHypothesis =>
        intro hasPrevious
        cases sibling with
        | block block => exact congrArg (block :: ·) (inductionHypothesis true)
        | text content =>
            rw [piecesFrom, List.filterMap_append, filterMap_block?_textPieces,
              inductionHypothesis]
            rfl
  rw [pieces_eq_piecesFrom, fromMerged, filterMap_block?_mergeTexts]

theorem isLeaf_of_text_mem_pieces {nested preformatted : Bool} {siblings : List Sibling}
    {text : String} (member : .text text ∈ pieces nested preformatted siblings) : IsLeaf text := by
  have fromMerged (merged : List Sibling) : ∀ hasPrevious,
      .text text ∈ piecesFrom nested preformatted hasPrevious merged → IsLeaf text := by
    induction merged with
    | nil => simp [piecesFrom]
    | cons sibling rest inductionHypothesis =>
        intro hasPrevious inPieces
        cases sibling with
        | block block =>
            rw [piecesFrom, List.mem_cons] at inPieces
            exact inductionHypothesis true (inPieces.resolve_left (by simp))
        | text content =>
            rw [piecesFrom, List.mem_append] at inPieces
            rcases inPieces with own | later
            · exact isLeaf_of_mem_textPieces _ own
            · exact inductionHypothesis true later
  rw [pieces_eq_piecesFrom] at member
  exact fromMerged _ _ member

/-- Each text among pieces is a line of its own, with no element in it. -/
theorem allHold_map_toBlock {content : List Piece} {heads : List Head}
    (areLeaves : ∀ text, .text text ∈ content → IsLeaf text)
    (holds : AllHold (content.filterMap Piece.block?) heads) :
    AllHold (content.map Piece.toBlock) heads := by
  induction content generalizing heads with
  | nil => exact holds
  | cons piece rest inductionHypothesis =>
      have restLeaves : ∀ text, .text text ∈ rest → IsLeaf text :=
        fun text member => areLeaves text (List.mem_cons_of_mem _ member)
      cases piece with
      | text text =>
          exact .cons (holds_leaf (areLeaves text List.mem_cons_self))
            (inductionHypothesis restLeaves holds)
      | block block =>
          cases holds with
          | cons inBlock inRest => exact .cons inBlock (inductionHypothesis restLeaves inRest)

/-! ## Nodes -/

theorem holds_elementBlock (head : Head) {content : List Piece} {heads : List Head}
    (areLeaves : ∀ text, .text text ∈ content → IsLeaf text)
    (holds : AllHold (content.filterMap Piece.block?) heads) :
    (elementBlock (tagName head.tag) (writeAttributes head.attributes) content).Holds
      (head :: heads) := by
  unfold elementBlock
  split
  · cases holds
    exact @holds_element head none (by simp)
  · next text =>
      cases holds
      exact @holds_element head (some text) (by simpa using areLeaves text)
  · next several _ =>
      exact holds_nest head (allHold_map_toBlock areLeaves holds) (by simpa using several)

theorem holds_rawBlock (head : Head) (content : String) :
    (rawBlock (tagName head.tag) (writeAttributes head.attributes) content).Holds [head] := by
  unfold rawBlock
  split
  · exact @holds_element head none (by simp)
  · exact @holds_element head (some (templateExpression content))
      (by simpa using IsLeaf.template content)

theorem holds_element_of_children (keepComments preformatted : Bool) (head : Head)
    {children : List Node}
    (forChildren : ∀ within, AllHold
      ((children.filterMap (sibling? keepComments within)).filterMap Sibling.block?)
      (allWrittenHeads children)) :
    ∃ block, sibling? keepComments preformatted (.element head children) = some (.block block) ∧
      block.Holds (writtenHeads (.element head children)) := by
  refine ⟨_, sibling?_element keepComments preformatted head children, ?_⟩
  rw [writtenHeads]
  by_cases isVoid : head.isVoid = true
  · rw [if_pos isVoid, if_pos (by simp [isVoid])]
    exact @holds_element head none (by simp)
  by_cases isRaw : (RawElement.ofTag? head.tag).isSome = true
  · rw [if_neg isVoid, if_pos isRaw, if_pos (by simp [isRaw])]
    exact holds_rawBlock head _
  · rw [if_neg isVoid, if_neg isRaw, if_neg (by simp [isVoid, isRaw])]
    refine holds_elementBlock head (fun _ => isLeaf_of_text_mem_pieces) ?_
    rw [filterMap_block?_pieces]
    exact forChildren _

/-- The blocks among the siblings of a fragment hold the elements that are written. -/
theorem allHold_siblings (keepComments : Bool) (nodes : List Node) :
    ∀ preformatted,
      AllHold ((nodes.filterMap (sibling? keepComments preformatted)).filterMap Sibling.block?)
        (allWrittenHeads nodes) := by
  induction nodes using Node.fragmentInduction with
  | nil => exact fun _ => .nil
  | text content rest forRest =>
      intro preformatted
      rw [List.filterMap_cons_some (sibling?_text keepComments preformatted content)]
      exact forRest preformatted
  | comment content rest forRest =>
      intro preformatted
      cases keepComments with
      | false =>
          rw [List.filterMap_cons_none (sibling?_comment false preformatted content)]
          exact forRest preformatted
      | true =>
          rw [List.filterMap_cons_some (sibling?_comment true preformatted content)]
          exact .cons (holds_leaf (.comment content)) (forRest preformatted)
  | element head children rest forChildren forRest =>
      intro preformatted
      obtain ⟨block, laidOut, holds⟩ :=
        holds_element_of_children keepComments preformatted head forChildren
      rw [List.filterMap_cons_some laidOut]
      exact .cons holds (forRest preformatted)

/-- The lines of a layout are parts that nest like brackets, in which the elements that are written
begin in document order. -/
theorem exists_parts_of_blocks (keepComments : Bool) (nodes : List Node) :
    ∃ parts, IsLayout parts ∧ lines (blocks keepComments nodes) = parts.map Part.line ∧
      headsOf parts = allWrittenHeads nodes := by
  have holds : AllHold ((fragmentPieces keepComments nodes).map Piece.toBlock)
      (allWrittenHeads nodes) := by
    refine allHold_map_toBlock (fun _ => isLeaf_of_text_mem_pieces) ?_
    rw [fragmentPieces, filterMap_block?_pieces, reverse_siblingsOnto]
    exact allHold_siblings keepComments nodes false
  rw [lines_eq_allLinesAt]
  unfold blocks
  generalize fragmentPieces keepComments nodes = content at holds
  -- Several pieces are one step deeper than a single one, since they are wrapped.
  have bare (atMostOne : content.length ≤ 1) :
      ∃ parts, IsLayout parts ∧
        Block.allLinesAt 0 (content.map Piece.toBlock) = parts.map Part.line ∧
        headsOf parts = allWrittenHeads nodes := by
    obtain ⟨parts, bracketed, areLines, areHeads⟩ := holds.exists_parts 0
    rw [List.length_map] at bracketed
    exact ⟨parts, .bare bracketed atMostOne, areLines, areHeads⟩
  cases content with
  | nil => exact bare (Nat.zero_le 1)
  | cons piece others =>
      cases others with
      | nil => exact bare (Nat.le_refl 1)
      | cons next rest =>
          obtain ⟨parts, bracketed, areLines, areHeads⟩ := holds.exists_parts 1
          rw [List.length_map] at bracketed
          refine ⟨(0, .fragmentOpening) :: (parts ++ [(0, .fragmentClosing)]),
            .fragment bracketed (by simp), ?_, ?_⟩
          · rw [Block.allLinesAt, Block.linesAt, areLines, List.map_cons, List.map_append,
              Block.allLinesAt, List.append_nil]
            rfl
          · change headsOf (parts ++ [(0, .fragmentClosing)]) = _
            rw [headsOf_append, areHeads]
            exact List.append_nil _

/-- The text of parts, each behind as many indentations as it is deep. -/
def writeParts (unit : String) (parts : List (Nat × Part)) : String :=
  "\n".intercalate (parts.map fun part =>
    String.join (List.replicate part.1 unit) ++ part.2.text)

theorem indent_map_line (unit : String) (parts : List (Nat × Part)) :
    indent unit (parts.map Part.line) = writeParts unit parts := by
  rw [indent, List.map_map]
  rfl

end JsxFragment.Jsx

namespace JsxFragment

open Jsx

/-- A fragment is written as parts that nest like brackets, each behind as many indentations as it
is deep, if and only if no preformatted text has a reference with too many digits. The parts do not
depend on the indentation. -/
theorem render_parts (keepComments : Bool) (nodes : List Node) :
    ∃ parts, IsLayout parts ∧ IsClosed parts ∧ headsOf parts = allWrittenHeads nodes ∧
      ∀ options : LayoutOptions, options.keepsComments = keepComments →
        (∀ size, options.indentSize ≠ .real size) →
          ∃ unit, options.indentUnit = .ok unit ∧
            (render options nodes = .ok (writeParts unit parts) ↔
              ∀ text ∈ preformattedTexts keepComments nodes,
                ¬HasOverlongDecimal text.toList) := by
  obtain ⟨parts, layout, areLines, areHeads⟩ := exists_parts_of_blocks keepComments nodes
  refine ⟨parts, layout, layout.isClosed, areHeads, ?_⟩
  rintro options rfl whole
  obtain ⟨unit, indents, _⟩ := LayoutOptions.indentUnit_isIndent whole
  refine ⟨unit, indents, ?_⟩
  rw [preformattedTexts, ← overlongInAll?_eq_none_iff, ← overlongReference?, render, indents]
  cases overlongReference? options.keepsComments nodes with
  | some digitCount => simp
  | none =>
      dsimp only
      rw [areLines, indent_map_line]
      exact iff_of_true rfl rfl

/-- A list with two items, and a text after it. -/
def listAndText : List Node :=
  [.element { tag := "ul" } [.element { tag := "li" } [.text "a"], .element { tag := "li" } []],
    .text "b"]

theorem render_parts_of_list_and_text :
    ∃ parts, IsLayout parts ∧ IsClosed parts ∧
      (∀ size, ({} : LayoutOptions).indentSize ≠ .real size) ∧
      render {} listAndText = .ok (writeParts "  " parts) ∧
      render { useTabs := .bool true } listAndText = .ok (writeParts "\t" parts) ∧
      render {} listAndText =
        .ok "<>\n  <ul>\n    <li>a</li>\n    <li />\n  </ul>\n  b\n</>" := by
  have noText : ∀ text ∈ preformattedTexts true listAndText, ¬HasOverlongDecimal text.toList := by
    rw [show preformattedTexts true listAndText = [] from rfl]
    simp
  obtain ⟨parts, layout, closed, _, written⟩ := render_parts true listAndText
  obtain ⟨spaces, areSpaces, withSpaces⟩ := written {} rfl nofun
  obtain ⟨tabs, areTabs, withTabs⟩ := written { useTabs := .bool true } rfl nofun
  have twoSpaces : spaces = "  " := (Except.ok.inj areSpaces).symm
  have oneTab : tabs = "\t" := (Except.ok.inj areTabs).symm
  subst twoSpaces oneTab
  refine ⟨parts, layout, closed, nofun, withSpaces.mpr noText, withTabs.mpr noText, ?_⟩
  decide +kernel

/-- A fragment that is written as no parts at all. -/
theorem not_render_parts_of_padded_reference :
    ¬∃ parts, render {} (preformattedFragment (paddedReference 4300)) =
      .ok (writeParts "  " parts) := by
  have overlong := @hasOverlongDecimal_paddedReference 4300 (by decide)
  obtain ⟨failure, failed⟩ := render_preformattedFragment_of_overlong overlong
  intro isWritten
  obtain ⟨parts, written⟩ := isWritten
  rw [failed] at written
  exact absurd written (by simp)

end JsxFragment
