import JsxFragment.Proofs.Jsx.RoundTrip
import JsxFragment.Proofs.Node.Attached
import JsxFragment.Proofs.Text.Lower

/-!
# Tags in the output

Each block of the layout is made of tags and of leaves in which nothing is a tag. The tags are those
of the elements that are written, in document order. The lexer keeps blanks, slashes and `>` out of
them, but nothing keeps out the other characters that end a tag of JSX.
-/

namespace JsxFragment.Jsx

open Text

/-! ## Tags of blocks -/

/-- The text of a leaf, which has no tag. -/
inductive IsLeaf : String → Prop
  | text (content : String) : IsLeaf (escapeText content)
  | space : IsLeaf space
  | string (content : String) : IsLeaf (stringExpression content)
  | template (content : String) : IsLeaf (templateExpression content)
  | comment (content : String) : IsLeaf (comment content)

mutual

/-- The block has these tags, in the order in which their elements begin. The outer fragment has no
tag of its own. -/
inductive HasTags : Block → List String → Prop
  | leaf {text : String} (isLeaf : IsLeaf text) : HasTags (.line text) []
  | empty (tag : String) (given : List Attribute) :
      HasTags (.line (emptyElement tag (writeAttributes given))) [tag]
  | single (tag : String) (given : List Attribute) {text : String} (isLeaf : IsLeaf text) :
      HasTags (.line (openingLine tag (writeAttributes given) ++ text ++ closingLine tag)) [tag]
  | nest (tag : String) (given : List Attribute) {content : List Block} {tags : List String}
      (inner : AllHaveTags content tags) :
      HasTags (.nest tag (writeAttributes given) content) (tag :: tags)
  | fragment {content : List Block} {tags : List String} (inner : AllHaveTags content tags) :
      HasTags (.nest "" "" content) tags

/-- The blocks have these tags, one block after another. -/
inductive AllHaveTags : List Block → List String → Prop
  | nil : AllHaveTags [] []
  | cons {block : Block} {rest : List Block} {first others : List String}
      (inBlock : HasTags block first) (inRest : AllHaveTags rest others) :
      AllHaveTags (block :: rest) (first ++ others)

end

/-- The siblings have these tags. -/
inductive SiblingsHaveTags : List Sibling → List String → Prop
  | nil : SiblingsHaveTags [] []
  | text (content : String) {rest : List Sibling} {tags : List String}
      (others : SiblingsHaveTags rest tags) : SiblingsHaveTags (.text content :: rest) tags
  | block {block : Block} {rest : List Sibling} {first tags : List String}
      (inBlock : HasTags block first) (others : SiblingsHaveTags rest tags) :
      SiblingsHaveTags (.block block :: rest) (first ++ tags)

/-- The pieces have these tags, and those that are text are leaves. -/
inductive PiecesHaveTags : List Piece → List String → Prop
  | nil : PiecesHaveTags [] []
  | text {text : String} {rest : List Piece} {tags : List String} (isLeaf : IsLeaf text)
      (others : PiecesHaveTags rest tags) : PiecesHaveTags (.text text :: rest) tags
  | block {block : Block} {rest : List Piece} {first tags : List String}
      (inBlock : HasTags block first) (others : PiecesHaveTags rest tags) :
      PiecesHaveTags (.block block :: rest) (first ++ tags)

/-! ## From siblings to blocks -/

theorem siblingsHaveTags_mergeTexts {siblings : List Sibling} {tags : List String}
    (tagged : SiblingsHaveTags siblings tags) : SiblingsHaveTags (mergeTexts siblings) tags := by
  induction tagged with
  | nil => exact .nil
  | block inBlock _ inductionHypothesis =>
      rw [mergeTexts_cons]
      exact .block inBlock inductionHypothesis
  | @text content rest tags _ inductionHypothesis =>
      rw [mergeTexts_cons]
      generalize mergeTexts rest = merged at inductionHypothesis
      cases inductionHypothesis with
      | nil => exact .text content .nil
      | text next others => exact .text (content ++ next) others
      | block inBlock others => exact .text content (.block inBlock others)

/-- A piece that is a leaf. -/
def Piece.IsLeaf : Piece → Prop
  | .text written => Jsx.IsLeaf written
  | .block _ => False

theorem isLeaf_of_mem_textPieces {preformatted : Bool} {place : Place} {content : String} :
    ∀ piece ∈ textPieces preformatted place content, piece.IsLeaf := by
  have spaceIf (condition : Bool) :
      ∀ piece ∈ (if condition then [Piece.text space] else []), piece.IsLeaf := by
    split
    · simpa [Piece.IsLeaf] using IsLeaf.space
    · simp
  unfold textPieces
  split
  · simpa [Piece.IsLeaf] using IsLeaf.string content
  unfold flowPieces
  split
  · exact spaceIf _
  · rw [List.forall_mem_append, List.forall_mem_cons]
    exact ⟨spaceIf _, IsLeaf.text _, spaceIf _⟩

theorem PiecesHaveTags.append_leaves {leaves rest : List Piece} {tags : List String}
    (areLeaves : ∀ piece ∈ leaves, piece.IsLeaf) (others : PiecesHaveTags rest tags) :
    PiecesHaveTags (leaves ++ rest) tags := by
  induction leaves with
  | nil => exact others
  | cons piece more inductionHypothesis =>
      rw [List.forall_mem_cons] at areLeaves
      cases piece with
      | text text => exact .text areLeaves.1 (inductionHypothesis areLeaves.2)
      | block block => exact areLeaves.1.elim

theorem piecesHaveTags_piecesFrom {siblings : List Sibling} {tags : List String}
    (nested preformatted : Bool) (tagged : SiblingsHaveTags siblings tags) :
    ∀ hasPrevious,
      PiecesHaveTags (piecesFrom nested preformatted hasPrevious siblings) tags := by
  induction tagged with
  | nil => exact fun _ => .nil
  | text content _ inductionHypothesis =>
      exact fun _ => .append_leaves isLeaf_of_mem_textPieces (inductionHypothesis true)
  | block inBlock _ inductionHypothesis => exact fun _ => .block inBlock (inductionHypothesis true)

theorem piecesHaveTags_pieces {siblings : List Sibling} {tags : List String}
    (nested preformatted : Bool) (tagged : SiblingsHaveTags siblings tags) :
    PiecesHaveTags (pieces nested preformatted siblings) tags := by
  rw [pieces_eq_piecesFrom]
  exact piecesHaveTags_piecesFrom nested preformatted (siblingsHaveTags_mergeTexts tagged) false

theorem allHaveTags_map_toBlock {content : List Piece} {tags : List String}
    (tagged : PiecesHaveTags content tags) : AllHaveTags (content.map Piece.toBlock) tags := by
  induction tagged with
  | nil => exact .nil
  | text isLeaf _ inductionHypothesis => exact .cons (.leaf isLeaf) inductionHypothesis
  | block inBlock _ inductionHypothesis => exact .cons inBlock inductionHypothesis

theorem hasTags_elementBlock (tag : String) (given : List Attribute) {content : List Piece}
    {tags : List String} (tagged : PiecesHaveTags content tags) :
    HasTags (elementBlock tag (writeAttributes given) content) (tag :: tags) := by
  have inner := allHaveTags_map_toBlock tagged
  unfold elementBlock
  split
  · cases tagged
    exact .empty tag given
  · cases tagged with
    | text isLeaf others =>
        cases others
        exact .single tag given isLeaf
  · exact .nest tag given inner

theorem hasTags_rawBlock (tag : String) (given : List Attribute) (content : String) :
    HasTags (rawBlock tag (writeAttributes given) content) [tag] := by
  unfold rawBlock
  split
  · exact .empty tag given
  · exact .single tag given (.template content)

/-! ## Nodes -/

theorem hasTags_element (keepComments preformatted : Bool) (head : Head) {children : List Node}
    (forChildren : ∀ within, SiblingsHaveTags
      (children.filterMap (sibling? keepComments within)) (writtenTags children)) :
    ∃ block, sibling? keepComments preformatted (.element head children) = some (.block block) ∧
      HasTags block ((writtenHeads (.element head children)).map fun head => tagName head.tag) := by
  refine ⟨_, sibling?_element keepComments preformatted head children, ?_⟩
  rw [writtenHeads]
  -- Neither a void element nor one with raw text has elements of its own written.
  by_cases isVoid : head.isVoid = true
  · rw [if_pos isVoid, if_pos (by simp [isVoid])]
    exact .empty _ _
  by_cases isRaw : (RawElement.ofTag? head.tag).isSome = true
  · rw [if_neg isVoid, if_pos isRaw, if_pos (by simp [isRaw])]
    exact hasTags_rawBlock _ _ _
  · rw [if_neg isVoid, if_neg isRaw, if_neg (by simp [isVoid, isRaw])]
    exact hasTags_elementBlock _ _ (piecesHaveTags_pieces true _ (forChildren _))

theorem siblingsHaveTags_filterMap (keepComments : Bool) (nodes : List Node) :
    ∀ preformatted, SiblingsHaveTags (nodes.filterMap (sibling? keepComments preformatted))
      (writtenTags nodes) := by
  induction nodes using Node.fragmentInduction with
  | nil => exact fun _ => .nil
  | text content rest forRest =>
      intro preformatted
      rw [List.filterMap_cons_some (sibling?_text keepComments preformatted content)]
      exact .text content (forRest preformatted)
  | comment content rest forRest =>
      intro preformatted
      cases keepComments with
      | false =>
          rw [List.filterMap_cons_none (sibling?_comment false preformatted content)]
          exact forRest preformatted
      | true =>
          rw [List.filterMap_cons_some (sibling?_comment true preformatted content)]
          exact .block (.leaf (.comment content)) (forRest preformatted)
  | element head children rest forChildren forRest =>
      intro preformatted
      obtain ⟨block, laidOut, tagged⟩ := hasTags_element keepComments preformatted head forChildren
      have split : writtenTags (.element head children :: rest) =
          ((writtenHeads (.element head children)).map fun head => tagName head.tag) ++
            writtenTags rest := by
        rw [writtenTags, allWrittenHeads, List.map_append, writtenTags]
      rw [List.filterMap_cons_some laidOut, split]
      exact .block tagged (forRest preformatted)

/-- The blocks of a fragment have the tags of the elements that are written. -/
theorem allHaveTags_blocks (keepComments : Bool) (nodes : List Node) :
    AllHaveTags (blocks keepComments nodes) (writtenTags nodes) := by
  have siblings := siblingsHaveTags_filterMap keepComments nodes false
  have tagged : PiecesHaveTags (fragmentPieces keepComments nodes) (writtenTags nodes) := by
    unfold fragmentPieces
    rw [reverse_siblingsOnto]
    exact piecesHaveTags_pieces false false siblings
  have inner := allHaveTags_map_toBlock tagged
  unfold blocks
  split
  · next empty => simpa [empty] using inner
  · next piece single => simpa [single] using inner
  · have whole := AllHaveTags.cons (.fragment inner) .nil
    simpa using whole

theorem exists_element_of_mem_allWrittenHeads {head : Head} {nodes : List Node}
    (member : head ∈ allWrittenHeads nodes) :
    ∃ children, .element head children ∈ Node.preorder nodes := by
  induction nodes using Node.fragmentInduction with
  | nil => exact absurd member (by simp [allWrittenHeads])
  | text content rest inRest =>
      rw [allWrittenHeads, writtenHeads, List.nil_append] at member
      obtain ⟨children, found⟩ := inRest member
      exact ⟨children, by rw [Node.preorder_cons]; exact List.mem_append_right _ found⟩
  | comment content rest inRest =>
      rw [allWrittenHeads, writtenHeads, List.nil_append] at member
      obtain ⟨children, found⟩ := inRest member
      exact ⟨children, by rw [Node.preorder_cons]; exact List.mem_append_right _ found⟩
  | element outer inside rest inChildren inRest =>
      rw [Node.preorder_cons, Node.preorder_element]
      rw [allWrittenHeads, writtenHeads, List.cons_append, List.mem_cons, List.mem_append] at member
      rcases member with rfl | inElement | after
      · exact ⟨inside, by simp⟩
      · split at inElement
        · exact absurd inElement (by simp)
        obtain ⟨children, found⟩ := inChildren inElement
        exact ⟨children, by simp [found]⟩
      · obtain ⟨children, found⟩ := inRest after
        exact ⟨children, by simp [found]⟩

/-! ## Characters of tags -/

/-- Case is all that a tag is changed in. -/
theorem mem_tagName_iff {c : Char} (caseless : isCaseless c = true) (tag : String) :
    c ∈ (tagName tag).toList ↔ c ∈ tag.toList := by
  unfold tagName
  split
  · rw [lower, String.toList_ofList, mem_lowerText_iff caseless]
  · rfl

/-- The characters by which a tag would end early, or would open a string, an expression or another
tag. -/
def tagBreakers : List Char :=
  ['<', '>', '\x7b', '\x7d', '"', '\'', '\x60', '=', '&']

/-- JSX can express the tag. -/
def IsExpressible (tag : String) : Prop :=
  ∀ c ∈ tag.toList, isBlank c = false ∧ c ∉ tagBreakers

theorem isTagNameChar_of_mem_tagName {tag : String} (named : IsTagName tag.toList) :
    ∀ c ∈ (tagName tag).toList, isTagNameChar c = true := by
  intro c member
  by_contra notNameChar
  have caseless : isCaseless c = true := by
    simp only [isTagNameChar, Bool.not_eq_true, Bool.not_eq_false', Bool.or_eq_true,
      decide_eq_true_eq] at notNameChar
    rcases notNameChar with (blank | rfl) | rfl
    · exact isCaseless_of_isBlank blank
    · decide
    · decide
  exact notNameChar (named.closed c ((mem_tagName_iff caseless tag).mp member))

theorem isExpressible_tagName_iff {tag : String} (named : IsTagName tag.toList) :
    IsExpressible (tagName tag) ↔ ∀ c ∈ tag.toList, c ∉ tagBreakers := by
  have breakersCaseless : ∀ c ∈ tagBreakers, isCaseless c = true := by
    rw [← List.all_eq_true]
    decide
  constructor
  · intro expressible c member breaks
    have written := (mem_tagName_iff (breakersCaseless c breaks) tag).mpr member
    exact (expressible c written).2 breaks
  · intro unbroken c member
    refine ⟨(isTagNameChar_iff.mp (isTagNameChar_of_mem_tagName named c member)).1, ?_⟩
    intro breaks
    exact unbroken c ((mem_tagName_iff (breakersCaseless c breaks) tag).mp member) breaks

end JsxFragment.Jsx

namespace JsxFragment

open Jsx Text

/-! ## Texts -/

theorem output_of_htmlToJsx {config : Config} {html jsx : String}
    (succeeds : htmlToJsx config html = .ok jsx) :
    ∃ reading unit, read config.limits html = .ok reading ∧
      config.layout.indentUnit = .ok unit ∧
      jsx = indent unit (lines (blocks config.layout.keepsComments reading.nodes)) := by
  unfold htmlToJsx render at succeeds
  cases isRead : read config.limits html with
  | error failure =>
      rw [isRead] at succeeds
      exact absurd succeeds (by simp)
  | ok reading =>
      rw [isRead] at succeeds
      cases indents : config.layout.indentUnit with
      | error fault =>
          rw [indents] at succeeds
          exact absurd succeeds (by simp)
      | ok unit =>
          rw [indents] at succeeds
          dsimp only at succeeds
          split at succeeds
          · exact absurd succeeds (by simp)
          · exact ⟨reading, unit, rfl, rfl, (Except.ok.inj succeeds).symm⟩

/-- The tags in the output are those of the elements that are written. None has a blank, a slash or
a `>`, and JSX can express them all if and only if none of the elements is named with another
character that breaks a tag. -/
theorem tags_of_htmlToJsx {config : Config} {html jsx : String}
    (succeeds : htmlToJsx config html = .ok jsx) :
    ∃ reading unit, read config.limits html = .ok reading ∧
      config.layout.indentUnit = .ok unit ∧
      jsx = indent unit (lines (blocks config.layout.keepsComments reading.nodes)) ∧
      AllHaveTags (blocks config.layout.keepsComments reading.nodes) (writtenTags reading.nodes) ∧
      (∀ tag ∈ writtenTags reading.nodes, ∀ c ∈ tag.toList,
        isBlank c = false ∧ c ≠ '/' ∧ c ≠ '>') ∧
      ((∀ tag ∈ writtenTags reading.nodes, IsExpressible tag) ↔
        ∀ head ∈ allWrittenHeads reading.nodes, ∀ c ∈ head.tag.toList, c ∉ tagBreakers) := by
  obtain ⟨reading, unit, isRead, indents, isOutput⟩ := output_of_htmlToJsx succeeds
  have named : ∀ head ∈ allWrittenHeads reading.nodes, IsTagName head.tag.toList := by
    intro head member
    obtain ⟨children, inTree⟩ := exists_element_of_mem_allWrittenHeads member
    exact hasTagName_of_read isRead _ inTree
  refine ⟨reading, unit, isRead, indents, isOutput, allHaveTags_blocks _ _, ?_, ?_⟩
  · rw [writtenTags, List.forall_mem_map]
    exact fun head member c inTag =>
      isTagNameChar_iff.mp (isTagNameChar_of_mem_tagName (named head member) c inTag)
  · rw [writtenTags, List.forall_mem_map]
    exact forall₂_congr fun head member => isExpressible_tagName_iff (named head member)

theorem tags_of_htmlToJsx_of_capitals :
    htmlToJsx {} "<UL><LI>x<br></UL>" =
        .ok "<ul>\n  <li>\n    x\n    <br />\n  </li>\n</ul>" ∧
      ∃ reading unit, read {} "<UL><LI>x<br></UL>" = .ok reading ∧
        LayoutOptions.indentUnit {} = .ok unit ∧
        "<ul>\n  <li>\n    x\n    <br />\n  </li>\n</ul>" =
          indent unit (lines (blocks true reading.nodes)) ∧
        AllHaveTags (blocks true reading.nodes) (writtenTags reading.nodes) ∧
        (∀ tag ∈ writtenTags reading.nodes, ∀ c ∈ tag.toList,
          isBlank c = false ∧ c ≠ '/' ∧ c ≠ '>') ∧
        ((∀ tag ∈ writtenTags reading.nodes, IsExpressible tag) ↔
          ∀ head ∈ allWrittenHeads reading.nodes, ∀ c ∈ head.tag.toList, c ∉ tagBreakers) := by
  have succeeds : htmlToJsx {} "<UL><LI>x<br></UL>" =
      .ok "<ul>\n  <li>\n    x\n    <br />\n  </li>\n</ul>" := by
    decide +kernel
  exact ⟨succeeds, tags_of_htmlToJsx succeeds⟩

/-- A brace in the name of an element comes through to the output, where it opens an expression. -/
theorem not_isExpressible_of_brace_in_tag :
    htmlToJsx {} "<b\x7b></b\x7b>" = .ok "<b\x7b />" ∧
      ∃ reading, read {} "<b\x7b></b\x7b>" = .ok reading ∧
        ∃ tag ∈ writtenTags reading.nodes, ¬IsExpressible tag := by
  have output : htmlToJsx {} "<b\x7b></b\x7b>" = .ok "<b\x7b />" := by
    decide +kernel
  obtain ⟨reading, _, isRead, _⟩ := output_of_htmlToJsx output
  have written : (read {} "<b\x7b></b\x7b>").toOption.any (fun reading =>
      "b\x7b" ∈ writtenTags reading.nodes) = true := by
    decide +kernel
  rw [isRead] at written
  refine ⟨output, reading, isRead, "b\x7b", of_decide_eq_true written, ?_⟩
  intro expressible
  exact (expressible '\x7b' (by decide)).2 (by decide)

end JsxFragment
