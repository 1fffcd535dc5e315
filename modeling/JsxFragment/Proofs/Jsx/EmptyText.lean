import JsxFragment.Proofs.Jsx.FormattingBlanks

/-!
# Empty texts

An empty text is merged into a text that it stands next to, and leaves nothing at either end of the
siblings. Between two siblings that are no texts, and as all the content that an element has, it is
laid out as blanks are: it leaves a space. The output is longer by that space, so that an empty text
changes nothing if and only if it stands at none of these places.
-/

namespace JsxFragment.Jsx

open Text

/-! ## Pieces -/

/-- Whether an empty text leaves a space, given whether a sibling is before it and which one is
behind it. -/
def leavesSpaceBefore (nested hasPrevious : Bool) : Option Sibling → Bool
  | none => nested && !hasPrevious
  | some (.block _) => hasPrevious
  | some (.text _) => false

/-- Whether an empty text between these siblings leaves a space. -/
def leavesSpaceBetween (nested : Bool) (before after : List Sibling) : Bool :=
  match before.getLast? with
  | none => leavesSpaceBefore nested false after.head?
  | some (.block _) => leavesSpaceBefore nested true after.head?
  | some (.text _) => false

/-- A space as a piece of its own, if there is one. -/
def spacePieces (hasSpace : Bool) : List Piece :=
  if hasSpace then [.text space] else []

/-- A text without blanks, other than the empty one, is one piece. -/
theorem textPieces_of_noBlank {content : String} (nonempty : content ≠ "")
    (noBlank : ∀ c ∈ content.toList, isBlank c = false) (place : Place) :
    textPieces false place content = [.text (escapeText content)] := by
  have notAllBlank : content.toList.all isBlank = false := by
    obtain ⟨c, member⟩ := List.exists_mem_of_ne_nil content.toList (by simpa using nonempty)
    exact List.all_eq_false.mpr ⟨c, member, by simp [noBlank c member]⟩
  have noEdge : separates [] = false := rfl
  have leading : leadingBlanks content.toList = [] := takeWhile_isBlank_eq_nil noBlank
  have trailing : trailingBlanks content.toList = [] := by
    rw [trailingBlanks, takeWhile_isBlank_eq_nil (by simpa using noBlank), List.reverse_nil]
  simp [textPieces, flowPieces, notAllBlank, leading, trailing, noEdge,
    collapseBlanks_eq_self noBlank, trim_eq_self noBlank]

theorem eq_space_of_mem_escapeTextChar {c : Char} (member : ' ' ∈ escapeTextChar c) : c = ' ' := by
  unfold escapeTextChar at member
  split at member
  · exact absurd member (by decide)
  split at member
  · exact absurd member (by decide)
  split at member
  · exact absurd member (by decide)
  split at member
  · exact absurd member (by decide)
  · exact (List.mem_singleton.mp member).symm

/-- Where no blank is, no space is left, unless there is nothing at all. -/
theorem exists_isBlank_of_space_mem {place : Place} {content : String}
    (leaves : .text space ∈ textPieces false place content) (nonempty : content ≠ "") :
    ∃ c ∈ content.toList, isBlank c = true := by
  by_contra noneBlank
  have noBlank : ∀ c ∈ content.toList, isBlank c = false := by simpa using noneBlank
  rw [textPieces_of_noBlank nonempty noBlank, List.mem_singleton, Piece.text.injEq] at leaves
  have member : ' ' ∈ (escapeText content).toList := leaves ▸ by decide
  rw [escapeText, String.toList_ofList, List.mem_flatMap] at member
  obtain ⟨c, inContent, inEscaped⟩ := member
  rw [eq_space_of_mem_escapeTextChar inEscaped] at inContent
  exact absurd (noBlank ' ' inContent) (by decide)

theorem onto_empty_text (content : String) (merged : List Sibling) :
    Sibling.onto (.text content) (Sibling.onto (.text "") merged) =
      Sibling.onto (.text content) merged := by
  rw [← onto_append, String.append_empty]

theorem piecesFrom_empty_text (nested hasPrevious : Bool) (siblings : List Sibling) :
    piecesFrom nested false hasPrevious (mergeTexts (.text "" :: siblings)) =
      spacePieces (leavesSpaceBefore nested hasPrevious siblings.head?)
        ++ piecesFrom nested false hasPrevious (mergeTexts siblings) := by
  cases siblings with
  | nil => cases nested <;> cases hasPrevious <;> rfl
  | cons next rest =>
      cases next with
      | block block => cases hasPrevious <;> cases nested <;> rfl
      | text content =>
          rw [mergeTexts_cons_eq_onto, mergeTexts_cons_eq_onto, ← onto_append, String.empty_append]
          rfl

/-- An empty text leaves a space between the pieces of the siblings before it and those of the
siblings behind it, or nothing. It leaves a space only where there are pieces on both sides, or as
the only piece of an element. -/
theorem exists_pieces_empty_text (nested : Bool) (before after : List Sibling) :
    ∃ first second, pieces nested false (before ++ after) = first ++ second ∧
      pieces nested false (before ++ .text "" :: after) =
        first ++ spacePieces (leavesSpaceBetween nested before after) ++ second ∧
      (leavesSpaceBetween nested before after = true →
        nested = true ∧ first = [] ∧ second = [] ∨ first ≠ [] ∧ second ≠ []) := by
  simp only [pieces_eq_piecesFrom]
  rcases List.eq_nil_or_concat before with rfl | ⟨others, last, rfl⟩
  · refine ⟨[], _, rfl, piecesFrom_empty_text nested false after, ?_⟩
    intro leaves
    cases after with
    | nil => exact Or.inl ⟨by simpa [leavesSpaceBetween, leavesSpaceBefore] using leaves, rfl, rfl⟩
    | cons next rest => cases next <;> simp [leavesSpaceBetween, leavesSpaceBefore] at leaves
  rw [List.concat_eq_append, leavesSpaceBetween, List.getLast?_concat]
  cases last with
  | text content =>
      refine ⟨[], _, rfl, ?_, by simp⟩
      simp only [List.append_assoc, List.singleton_append, mergeTexts_append,
        mergeTexts_cons_eq_onto, onto_empty_text]
      rfl
  | block block =>
      have parted (siblings : List Sibling) :
          piecesFrom nested false false (mergeTexts (others ++ [.block block] ++ siblings)) =
            piecesFrom nested false false (mergeTexts others ++ [.block block])
              ++ piecesFrom nested false true (mergeTexts siblings) := by
        rw [List.append_assoc, List.singleton_append, mergeTexts_append_block,
          piecesFrom_append_block]
      refine ⟨_, _, parted after, ?_, fun leaves => Or.inr ⟨?_, ?_⟩⟩
      · rw [parted, piecesFrom_empty_text, List.append_assoc]
      · obtain ⟨first, isFirst⟩ :=
          exists_piecesFrom_append_block nested false (mergeTexts others) false
        simp [isFirst]
      · cases after with
        | nil => simp [leavesSpaceBefore] at leaves
        | cons next rest =>
            cases next with
            | text content => simp [leavesSpaceBefore] at leaves
            | block own => simp [mergeTexts_cons_eq_onto, Sibling.onto, piecesFrom]

/-- The pieces around a block do not depend on what the block holds. -/
theorem exists_pieces_append_block (nested preformatted : Bool) (before after : List Sibling) :
    ∃ first second, ∀ block, pieces nested preformatted (before ++ .block block :: after) =
      first ++ .block block :: second := by
  obtain ⟨first, isFirst⟩ :=
    exists_piecesFrom_append_block nested preformatted (mergeTexts before) false
  refine ⟨first, piecesFrom nested preformatted true (mergeTexts after), fun block => ?_⟩
  rw [pieces_eq_piecesFrom, mergeTexts_append_block, isFirst]

/-! ## Growth -/

/-- The block is written shorter than the other one, however deep it stands. -/
def Block.IsShorter (block other : Block) : Prop :=
  ∀ unit depth, (block.written unit depth).length < (other.written unit depth).length

/-- The second pieces are the first ones with one more space, or with one block that is written
longer. The space stands between others, or alone in an element. -/
inductive Grows (nested : Bool) : List Piece → List Piece → Prop
  | alone (isNested : nested = true) : Grows nested [] [.text space]
  | between {first second : List Piece} (someBefore : first ≠ []) (someBehind : second ≠ []) :
      Grows nested (first ++ second) (first ++ .text space :: second)
  | inside (first second : List Piece) {block other : Block} (shorter : block.IsShorter other) :
      Grows nested (first ++ .block block :: second) (first ++ .block other :: second)

theorem Grows.length_lt {nested : Bool} {content others : List Piece}
    (grows : Grows nested content others) (unit : String) (depth : Nat) :
    (Block.allWritten unit depth (content.map Piece.toBlock)).length <
      (Block.allWritten unit depth (others.map Piece.toBlock)).length := by
  have spaceLength : 0 < space.toList.length := by decide
  simp only [Block.allWritten_eq_flatMap, List.flatMap_map]
  cases grows with
  | alone _ =>
      simp only [List.flatMap_nil, List.flatMap_singleton, List.length_nil, List.length_append,
        Piece.toBlock, Block.written]
      omega
  | between _ _ =>
      simp only [List.flatMap_append, List.flatMap_cons, List.length_append, Piece.toBlock,
        Block.written]
      omega
  | inside first second shorter =>
      have grown := shorter unit depth
      simp only [List.flatMap_append, List.flatMap_cons, List.length_append, Piece.toBlock]
      omega

theorem elementBlock_eq_nest {content : List Piece} (tag attributes : String)
    (notEmpty : content ≠ []) (notText : ∀ written, content ≠ [.text written]) :
    elementBlock tag attributes content = .nest tag attributes (content.map Piece.toBlock) := by
  unfold elementBlock
  split
  · exact absurd rfl notEmpty
  · exact absurd rfl (notText _)
  · rfl

theorem ne_singleton_of_append {first second : List Piece} (someBefore : first ≠ [])
    (someBehind : second ≠ []) (piece : Piece) : first ++ second ≠ [piece] := by
  intro equality
  rcases List.append_eq_singleton_iff.mp equality with ⟨rfl, _⟩ | ⟨_, rfl⟩
  · exact someBefore rfl
  · exact someBehind rfl

theorem Grows.nest {nested : Bool} {content others : List Piece}
    (grows : Grows nested content others) (tag attributes : String) :
    (Block.nest tag attributes (content.map Piece.toBlock)).IsShorter
      (.nest tag attributes (others.map Piece.toBlock)) := by
  intro unit depth
  have grown := grows.length_lt unit (depth + 1)
  rw [Block.written, Block.written]
  simp only [List.length_append]
  omega

/-- An element whose pieces grow grows with them. -/
theorem Grows.elementBlock {content others : List Piece} (grows : Grows true content others)
    (tag attributes : String) :
    (elementBlock tag attributes content).IsShorter (Jsx.elementBlock tag attributes others) := by
  cases grows with
  | alone _ =>
      intro unit depth
      simp [Jsx.elementBlock, Block.written, emptyElement, openingLine, closingLine, space,
        inBraces]
  | @between first second someBefore someBehind =>
      rw [elementBlock_eq_nest tag attributes (by simp [someBefore])
          fun _ => ne_singleton_of_append someBefore someBehind _,
        elementBlock_eq_nest tag attributes (by simp)
          fun _ => ne_singleton_of_append someBefore (List.cons_ne_nil _ _) _]
      exact (@Grows.between true first second someBefore someBehind).nest tag attributes
  | inside first second shorter =>
      have notText (own : Block) (written : String) :
          first ++ .block own :: second ≠ [.text written] := by
        intro equality
        have member : .block own ∈ [Piece.text written] := equality ▸ by simp
        simp at member
      rw [elementBlock_eq_nest tag attributes (by simp) (notText _),
        elementBlock_eq_nest tag attributes (by simp) (notText _)]
      exact (@Grows.inside true first second _ _ shorter).nest tag attributes

theorem blocks_eq_nest {keepComments : Bool} {nodes : List Node}
    (notEmpty : fragmentPieces keepComments nodes ≠ [])
    (notSingle : ∀ piece, fragmentPieces keepComments nodes ≠ [piece]) :
    blocks keepComments nodes =
      [.nest "" "" ((fragmentPieces keepComments nodes).map Piece.toBlock)] := by
  unfold blocks
  split
  · next empty => exact absurd empty notEmpty
  · next single => exact absurd single (notSingle _)
  · rfl

/-- A fragment whose pieces grow is one block, which grows with them: it stands in no element, where
the only piece could be a space. -/
theorem Grows.blocks {keepComments : Bool} {nodes others : List Node}
    (grows : Grows false (fragmentPieces keepComments nodes)
      (fragmentPieces keepComments others)) :
    ∃ block other, blocks keepComments nodes = [block] ∧ blocks keepComments others = [other] ∧
      block.IsShorter other := by
  have wrapped (several : ∀ piece, fragmentPieces keepComments nodes ≠ [piece])
      (otherSeveral : ∀ piece, fragmentPieces keepComments others ≠ [piece])
      (some : fragmentPieces keepComments nodes ≠ [])
      (otherSome : fragmentPieces keepComments others ≠ []) :
      ∃ block other, Jsx.blocks keepComments nodes = [block] ∧
        Jsx.blocks keepComments others = [other] ∧ block.IsShorter other :=
    ⟨_, _, blocks_eq_nest some several, blocks_eq_nest otherSome otherSeveral, grows.nest "" ""⟩
  generalize isContent : fragmentPieces keepComments nodes = content at grows wrapped
  generalize isOthers : fragmentPieces keepComments others = behind at grows wrapped
  cases grows with
  | alone isNested => exact absurd isNested (by simp)
  | @between first second someBefore someBehind =>
      exact wrapped (ne_singleton_of_append someBefore someBehind)
        (ne_singleton_of_append someBefore (List.cons_ne_nil _ _)) (by simp [someBefore]) (by simp)
  | @inside first second block other shorter =>
      by_cases alone : first = [] ∧ second = []
      · obtain ⟨rfl, rfl⟩ := alone
        refine ⟨block, other, ?_, ?_, shorter⟩
        · rw [Jsx.blocks, isContent]
          rfl
        · rw [Jsx.blocks, isOthers]
          rfl
      · have several (own : Block) (piece : Piece) : first ++ .block own :: second ≠ [piece] := by
          intro equality
          rcases List.append_eq_singleton_iff.mp equality with ⟨noneBefore, tail⟩ | ⟨_, tail⟩
          · exact alone ⟨noneBefore, (List.cons.inj tail).2⟩
          · exact absurd tail (List.cons_ne_nil _ _)
        exact wrapped (several block) (several other) (by simp) (by simp)

/-! ## Nodes -/

/-- Whether an empty text between these nodes leaves a space: it does between two siblings that are
no texts, and as all the content that an element has. -/
def leavesSpace (keepComments nested : Bool) (before after : List Node) : Bool :=
  match (before.filter (isSibling keepComments)).getLast?,
      (after.filter (isSibling keepComments)).head? with
  | none, none => nested
  | some previous, some next => previous.text?.isNone && next.text?.isNone
  | none, some _ | some _, none => false

/-- Whether a space is left depends on nothing but the texts that are next to it. -/
def leavesSpaceAmong (nested : Bool) : Option (Option String) → Option (Option String) → Bool
  | none, none => nested
  | some previous, some next => previous.isNone && next.isNone
  | none, some _ | some _, none => false

theorem leavesSpaceBetween_eq (nested : Bool) (before after : List Sibling) :
    leavesSpaceBetween nested before after =
      leavesSpaceAmong nested (before.getLast?.map Sibling.text?)
        (after.head?.map Sibling.text?) := by
  unfold leavesSpaceBetween
  rcases before.getLast? with _ | _ | _ <;> rcases after.head? with _ | _ | _ <;>
    simp [leavesSpaceBefore, leavesSpaceAmong, Sibling.text?]

theorem leavesSpace_eq (keepComments nested : Bool) (before after : List Node) :
    leavesSpace keepComments nested before after =
      leavesSpaceBetween nested (before.filterMap (sibling? keepComments false))
        (after.filterMap (sibling? keepComments false)) := by
  rw [leavesSpaceBetween_eq, ← List.getLast?_map, ← List.head?_map, map_text?_filterMap_sibling?,
    map_text?_filterMap_sibling?, List.getLast?_map, List.head?_map, leavesSpace]
  rcases (before.filter (isSibling keepComments)).getLast? with _ | _ <;>
    rcases (after.filter (isSibling keepComments)).head? with _ | _ <;> rfl

/-- The second fragment has one more text, which is empty. It stands at any depth in elements that
have content, of which none is preformatted, and it leaves a space or not; inside raw text it leaves
none. -/
inductive InsertsEmpty (keepComments : Bool) : Bool → Bool → List Node → List Node → Prop
  | here (nested : Bool) (before after : List Node) :
      InsertsEmpty keepComments nested (leavesSpace keepComments nested before after)
        (before ++ after) (before ++ .text "" :: after)
  | inside (nested : Bool) (before after : List Node) {leaves : Bool} {head : Head}
      {children others : List Node} (flows : HasFlow head)
      (inserts : InsertsEmpty keepComments true leaves children others) :
      InsertsEmpty keepComments nested leaves (before ++ .element head children :: after)
        (before ++ .element head others :: after)
  | insideRaw (nested : Bool) (before after : List Node) {leaves : Bool} {head : Head}
      {children others : List Node} (isVoid : head.isVoid = false)
      (raw : (RawElement.ofTag? head.tag).isSome = true)
      (inserts : InsertsEmpty keepComments true leaves children others) :
      InsertsEmpty keepComments nested false (before ++ .element head children :: after)
        (before ++ .element head others :: after)

theorem allWrittenElements_append_cons (keepComments preformatted : Bool) (before : List Node)
    (node : Node) (after : List Node) :
    allWrittenElements keepComments preformatted (before ++ node :: after) =
      allWrittenElements keepComments preformatted before
        ++ (writtenElements keepComments preformatted node
          ++ allWrittenElements keepComments preformatted after) := by
  rw [allWrittenElements_append, allWrittenElements]

section Inserted

variable {keepComments nested leaves : Bool} {nodes others : List Node}
  (inserts : InsertsEmpty keepComments nested leaves nodes others)

include inserts

theorem InsertsEmpty.textContent_eq : Node.textContent others = Node.textContent nodes := by
  induction inserts with
  | here nested before after =>
      rw [Node.textContent_append, Node.textContent_cons, Node.textContent_text,
        String.empty_append, Node.textContent_append]
  | inside nested before after _ _ inductionHypothesis
  | insideRaw nested before after _ _ _ inductionHypothesis =>
      rw [Node.textContent_append, Node.textContent_cons, Node.textContent_element,
        inductionHypothesis, Node.textContent_append, Node.textContent_cons,
        Node.textContent_element]

theorem InsertsEmpty.elements_eq :
    allWrittenElements keepComments false others = allWrittenElements keepComments false nodes := by
  induction inserts with
  | here nested before after =>
      rw [allWrittenElements_append_cons, allWrittenElements_append]
      rfl
  | inside nested before after flows _ inductionHypothesis =>
      rw [allWrittenElements_append_cons, allWrittenElements_append_cons,
        flows.writtenElements_element, flows.writtenElements_element, inductionHypothesis]
  | insideRaw nested before after isVoid raw _ _ =>
      rw [allWrittenElements_append_cons, allWrittenElements_append_cons, writtenElements,
        writtenElements, if_pos (by simp [raw]), if_pos (by simp [raw])]

/-- The pieces grow by a space where the empty text leaves one, and stay as they are otherwise. -/
theorem InsertsEmpty.pieces_grow_or_eq :
    if leaves then
      Grows nested (pieces nested false (nodes.filterMap (sibling? keepComments false)))
        (pieces nested false (others.filterMap (sibling? keepComments false)))
    else
      pieces nested false (others.filterMap (sibling? keepComments false)) =
        pieces nested false (nodes.filterMap (sibling? keepComments false)) := by
  induction inserts with
  | here nested before after =>
      obtain ⟨first, second, without, withText, wherever⟩ := exists_pieces_empty_text nested
        (before.filterMap (sibling? keepComments false))
        (after.filterMap (sibling? keepComments false))
      rw [List.filterMap_append, List.filterMap_append,
        List.filterMap_cons_some (sibling?_text _ _ _), without, withText, leavesSpace_eq]
      split
      · next leaves =>
          rw [leaves]
          rcases wherever leaves with ⟨isNested, rfl, rfl⟩ | ⟨someBefore, someBehind⟩
          · exact .alone isNested
          · simpa [spacePieces] using Grows.between someBefore someBehind
      · next stays => simp [spacePieces, stays]
  | inside nested before after flows _ inductionHypothesis =>
      rw [List.filterMap_append, List.filterMap_append,
        List.filterMap_cons_some (flows.sibling?_element _ _),
        List.filterMap_cons_some (flows.sibling?_element _ _)]
      obtain ⟨first, second, isPieces⟩ := exists_pieces_append_block nested false
        (before.filterMap (sibling? keepComments false))
        (after.filterMap (sibling? keepComments false))
      rw [isPieces, isPieces]
      split at inductionHypothesis
      · next leaves =>
          rw [if_pos leaves]
          exact .inside first second (inductionHypothesis.elementBlock _ _)
      · next stays => rw [if_neg stays, inductionHypothesis]
  | insideRaw nested before after isVoid raw inner _ =>
      rw [if_neg (by simp), List.filterMap_append, List.filterMap_append,
        List.filterMap_cons_some (sibling?_element _ _ _ _),
        List.filterMap_cons_some (sibling?_element _ _ _ _)]
      simp only [isVoid, raw, inner.textContent_eq, Bool.false_eq_true, if_false, if_true]

end Inserted

end JsxFragment.Jsx

namespace JsxFragment

open Jsx Text

/-- An empty text changes nothing in the output if and only if it leaves no space, given that there
is an output at all. It is the only text that leaves a space without a blank in it. -/
theorem render_eq_iff_of_insertsEmpty {options : LayoutOptions} {nodes others : List Node}
    {leaves : Bool} (inserts : InsertsEmpty options.keepsComments false leaves nodes others) :
    (render options others = render options nodes ↔
        leaves = false ∨ ∃ failure, render options nodes = .error failure) ∧
      ∀ place content, .text space ∈ textPieces false place content →
        content = "" ∨ ∃ c ∈ content.toList, isBlank c = true := by
  refine ⟨?_, fun place content leavesSpace =>
    or_iff_not_imp_left.mpr (exists_isBlank_of_space_mem leavesSpace)⟩
  have elements := inserts.elements_eq
  have grown := inserts.pieces_grow_or_eq
  cases leaves with
  | false =>
      simp only [true_or, iff_true]
      exact render_congr rfl elements grown
  | true =>
      simp only [Bool.true_eq_false, false_or]
      rw [if_pos rfl, ← reverse_siblingsOnto, ← reverse_siblingsOnto] at grown
      obtain ⟨block, other, isBlock, isOther, shorter⟩ := Grows.blocks grown
      rw [render, render, overlongReference?_congr elements, isBlock, isOther]
      cases options.indentUnit with
      | error fault => simp
      | ok unit =>
          cases overlongReference? options.keepsComments nodes with
          | some digitCount => simp
          | none =>
              have longer := shorter unit 0
              simp only [Except.ok.injEq, reduceCtorEq, exists_false, iff_false]
              intro same
              rw [← indent_lines_singleton, ← indent_lines_singleton, same] at longer
              exact absurd longer (Nat.lt_irrefl _)

theorem render_eq_iff_of_insertsEmpty_beside_text :
    InsertsEmpty ({} : LayoutOptions).keepsComments false false
        [.element { tag := "p" } [.element { tag := "b" } [], .text "x"]]
        [.element { tag := "p" } [.element { tag := "b" } [], .text "", .text "x"]] ∧
      (render {} [.element { tag := "p" } [.element { tag := "b" } [], .text "", .text "x"]] =
          render {} [.element { tag := "p" } [.element { tag := "b" } [], .text "x"]] ↔
        false = false ∨ ∃ failure,
          render {} [.element { tag := "p" } [.element { tag := "b" } [], .text "x"]] =
            .error failure) ∧
      render {} [.element { tag := "p" } [.element { tag := "b" } [], .text "", .text "x"]] =
        .ok "<p>\n  <b />\n  x\n</p>" := by
  have flows : HasFlow { tag := "p" } := by
    constructor <;> decide
  have inserts : InsertsEmpty ({} : LayoutOptions).keepsComments false false
      [.element { tag := "p" } [.element { tag := "b" } [], .text "x"]]
      [.element { tag := "p" } [.element { tag := "b" } [], .text "", .text "x"]] :=
    .inside false [] [] flows (.here true [.element { tag := "b" } []] [.text "x"])
  exact ⟨inserts, (render_eq_iff_of_insertsEmpty inserts).1, by decide +kernel⟩

/-- An empty text between two elements leaves a space, where none is without it. -/
theorem render_ne_of_empty_text_between_elements :
    InsertsEmpty ({} : LayoutOptions).keepsComments false true
        [.element { tag := "b" } [], .element { tag := "i" } []]
        [.element { tag := "b" } [], .text "", .element { tag := "i" } []] ∧
      render {} [.element { tag := "b" } [], .element { tag := "i" } []] =
        .ok "<>\n  <b />\n  <i />\n</>" ∧
      render {} [.element { tag := "b" } [], .text "", .element { tag := "i" } []] =
        .ok "<>\n  <b />\n  \x7b\" \"\x7d\n  <i />\n</>" :=
  ⟨.here false [.element { tag := "b" } []] [.element { tag := "i" } []], by decide +kernel,
    by decide +kernel⟩

end JsxFragment
