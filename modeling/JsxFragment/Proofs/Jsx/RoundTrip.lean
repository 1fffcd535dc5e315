import JsxFragment.Conversion
import JsxFragment.Proofs.Jsx.Overlong
import JsxFragment.Proofs.Jsx.Siblings
import JsxFragment.Proofs.Node.Outline

/-!
# Reading JSX back

The JSX of a fragment is read as the fragment in normal form, unless its preformatted text holds a
reference with too many digits, of which there is no JSX at all.
-/

namespace JsxFragment.Jsx

open Text Node

/-! ## Nodes -/

section Nodes

variable {tags : String → Prop} {unit : String} (isIndent : IsIndent unit)
  (keepComments preformatted : Bool)

theorem readsContent_templateExpression {children : List Node}
    (someText : Node.textContent children ≠ "") :
    ReadsContent tags (templateExpression (Node.textContent children)).toList
      (rawContent children) := by
  intro outer
  refine ⟨_, .reads (reads_templateExpression _ _), ?_, ?_⟩
  · rfl
  · rw [rawContent, if_neg someText, List.reverse_singleton]
    have added : addText (Node.textContent children).toList [] =
        [.text (Node.textContent children)] := by
      rw [addText_of_not_isText (by simp)]
      simp [someText]
    rw [← added]
    exact settles_of_run_eq_nil _ outer

theorem readsAs_rawBlock {tag : String} (isTag : tags tag) (attributes : List Attribute)
    (children : List Node) (depth : Nat) :
    ReadsAs tags
      ((rawBlock tag (writeAttributes attributes) (Node.textContent children)).written unit depth)
      (.element tag (attributes.filterMap normalAttribute?) (rawContent children) :: ·) := by
  unfold rawBlock
  split
  · next noText =>
      rw [rawContent, if_pos noText, Block.written]
      exact readsAs_emptyElement isTag attributes
  · next someText =>
      have reads := readsAs_element isTag attributes (Or.inl rfl)
        (readsContent_templateExpression someText)
      simpa [Block.written] using reads

theorem siblingsOnto_eq_filterMap (nodes : List Node) :
    ∀ before, siblingsOnto keepComments preformatted before nodes =
      (nodes.filterMap (sibling? keepComments preformatted)).reverse ++ before := by
  induction nodes with
  | nil => exact fun _ => rfl
  | cons node rest inductionHypothesis =>
      intro before
      unfold siblingsOnto
      cases laidOut : sibling? keepComments preformatted node with
      | none => simp [laidOut, inductionHypothesis]
      | some sibling => simp [laidOut, inductionHypothesis]

theorem reverse_siblingsOnto (nodes : List Node) :
    (siblingsOnto keepComments preformatted [] nodes).reverse =
      nodes.filterMap (sibling? keepComments preformatted) := by
  rw [siblingsOnto_eq_filterMap, List.append_nil, List.reverse_reverse]

@[simp]
theorem sibling?_text (content : String) :
    sibling? keepComments preformatted (.text content) = some (.text content) := by
  rw [sibling?]

@[simp]
theorem sibling?_comment (content : String) :
    sibling? keepComments preformatted (.comment content) =
      if keepComments then some (.block (.line (comment content))) else none := by
  rw [sibling?]

/-- An element is laid out from what comes of its children one by one. -/
theorem sibling?_element (head : Head) (children : List Node) :
    sibling? keepComments preformatted (.element head children) =
      let tag := tagName head.tag
      let attributes := writeAttributes head.attributes
      let within := preformatted || isPreformattedTag head.tag
      some (.block
        (if head.isVoid then .line (emptyElement tag attributes)
        else if (RawElement.ofTag? head.tag).isSome then
          rawBlock tag attributes (Node.textContent children)
        else
          elementBlock tag attributes
            (pieces true within (children.filterMap (sibling? keepComments within))))) := by
  rw [sibling?]
  dsimp only
  rw [reverse_siblingsOnto]
  split
  · rfl
  split <;> rfl

@[simp]
theorem normalItem?_text (content : String) :
    normalItem? keepComments preformatted (.text content) = some (.text content) := by
  rw [normalItem?]

@[simp]
theorem normalItem?_comment (content : String) :
    normalItem? keepComments preformatted (.comment content) =
      if keepComments then some (.child (normalComment content)) else none := by
  rw [normalItem?]

theorem normalItem?_element (head : Head) (children : List Node) :
    normalItem? keepComments preformatted (.element head children) =
      let within := preformatted || isPreformattedTag head.tag
      some (.child (.element (tagName head.tag) (head.attributes.filterMap normalAttribute?)
        (if head.isVoid then []
        else if (RawElement.ofTag? head.tag).isSome then rawContent children
        else settle true within false (joinTexts (normalItems keepComments within children))))) := by
  rw [normalItem?]

theorem normalItems_eq_filterMap (nodes : List Node) :
    normalItems keepComments preformatted nodes =
      nodes.filterMap (normalItem? keepComments preformatted) := by
  induction nodes with
  | nil => rfl
  | cons node rest inductionHypothesis =>
      unfold normalItems
      cases item : normalItem? keepComments preformatted node with
      | none => simp [item, inductionHypothesis]
      | some normal => simp [item, inductionHypothesis]

/-- The siblings of a list of nodes match the nodes as items. -/
def AllMatch (tags : String → Prop) (unit : String) (keepComments preformatted : Bool)
    (nodes : List Node) : Prop :=
  List.Forall₂ (Matches tags unit) (siblingsOnto keepComments preformatted [] nodes).reverse
    (normalItems keepComments preformatted nodes)

theorem allMatch_iff {nodes : List Node} :
    AllMatch tags unit keepComments preformatted nodes ↔
      List.Forall₂ (Matches tags unit) (nodes.filterMap (sibling? keepComments preformatted))
        (nodes.filterMap (normalItem? keepComments preformatted)) := by
  rw [AllMatch, reverse_siblingsOnto, normalItems_eq_filterMap]

theorem allMatch_cons {node : Node} {rest : List Node} {sibling : Sibling} {item : Item}
    (laidOut : sibling? keepComments preformatted node = some sibling)
    (isNormal : normalItem? keepComments preformatted node = some item)
    (first : Matches tags unit sibling item)
    (others : AllMatch tags unit keepComments preformatted rest) :
    AllMatch tags unit keepComments preformatted (node :: rest) := by
  rw [allMatch_iff] at others ⊢
  rw [List.filterMap_cons_some laidOut, List.filterMap_cons_some isNormal]
  exact .cons first others

include isIndent

/-- The block of an element is read as the element in normal form, if its children match where they
are written. -/
theorem matches_element {head : Head} {children : List Node} (isTag : tags (tagName head.tag))
    (forChildren : (head.isVoid || (RawElement.ofTag? head.tag).isSome) = false →
      ∀ within, AllMatch tags unit keepComments within children) :
    ∃ sibling item, sibling? keepComments preformatted (.element head children) = some sibling ∧
      normalItem? keepComments preformatted (.element head children) = some item ∧
      Matches tags unit sibling item := by
  unfold sibling? normalItem?
  dsimp only
  split
  · refine ⟨_, _, rfl, rfl, .block rfl fun depth => ?_⟩
    exact readsAs_emptyElement isTag head.attributes
  split
  · refine ⟨_, _, rfl, rfl, .block rfl fun depth => ?_⟩
    exact readsAs_rawBlock isTag head.attributes children depth
  · next notVoid notRaw =>
      have areWritten := forChildren (by simp [notVoid, notRaw])
      refine ⟨_, _, rfl, rfl, .block rfl fun depth => ?_⟩
      exact readsAs_elementBlock isIndent isTag head.attributes
        (fun depth brk isBreak => readsContent_pieces isBreak depth true _ (areWritten _)) depth

theorem allMatch (nodes : List Node) (areTags : ∀ tag ∈ writtenTags nodes, tags tag) :
    ∀ preformatted, AllMatch tags unit keepComments preformatted nodes := by
  induction nodes using fragmentInduction with
  | nil => exact fun _ => .nil
  | text content rest forRest =>
      intro preformatted
      exact allMatch_cons keepComments preformatted (sibling?_text _ _ _)
        (normalItem?_text _ _ _) (.text content) (forRest areTags preformatted)
  | comment content rest forRest =>
      intro preformatted
      have others := forRest areTags preformatted
      cases keepComments with
      | false =>
          rw [allMatch_iff] at others ⊢
          simpa using others
      | true =>
          have first : Matches tags unit (.block (.line (comment content)))
              (.child (normalComment content)) := by
            refine .block ?_ fun _ state => .reads (reads_comment content state)
            unfold normalComment
            dsimp only
            split <;> rfl
          exact allMatch_cons true preformatted (sibling?_comment _ _ _)
            (normalItem?_comment _ _ _) first others
  | element head children rest forChildren forRest =>
      intro preformatted
      rw [writtenTags_element, List.forall_mem_cons, List.forall_mem_append] at areTags
      obtain ⟨isTag, inChildren, inRest⟩ := areTags
      obtain ⟨sibling, item, laidOut, isNormal, first⟩ := matches_element isIndent keepComments
        preformatted isTag fun areWritten => forChildren (by simpa [areWritten] using inChildren)
      exact allMatch_cons keepComments preformatted laidOut isNormal first
        (forRest inRest preformatted)

end Nodes

/-! ## Fragments -/

theorem standsFor_of_readsContent {tags : String → Prop} {jsx : String} {text right : List Char}
    {children : List Child} (readsContent : ReadsContent tags text children)
    (isBreak : IsBreak right)
    (wrapping : jsx.toList = text ++ right ∨
      jsx.toList = '<' :: '>' :: (text ++ right ++ ['<', '/', '>'])) :
    StandsFor tags jsx children := by
  obtain ⟨next, reads, outerEq, settles⟩ := readsContent []
  have broken : ReadsWith tags next right { next with run := next.run ++ right } :=
    .reads (reads_plain (isPlain_of_isBreak isBreak) next)
  refine ⟨text ++ right, _, wrapping, reads.append broken, outerEq, ?_⟩
  rw [settles.settled_eq isBreak, List.reverse_reverse]

section Fragments

variable {tags : String → Prop} {unit : String} (isIndent : IsIndent unit) (keepComments : Bool)
  {nodes : List Node} (areTags : ∀ tag ∈ writtenTags nodes, tags tag)

include isIndent areTags

theorem readsContent_fragmentPieces (depth : Nat) {brk : List Char} (isBreak : IsBreak brk) :
    ReadsContent tags (piecesText unit depth brk (fragmentPieces keepComments nodes))
      (normalForm keepComments nodes) :=
  readsContent_pieces isBreak depth false false
    (allMatch isIndent keepComments nodes areTags false)

/-- The JSX of a fragment stands for its normal form. -/
theorem standsFor_indent_lines_blocks :
    StandsFor tags (indent unit (lines (blocks keepComments nodes)))
      (normalForm keepComments nodes) := by
  have onOneLine := readsContent_fragmentPieces isIndent keepComments areTags 0 (Or.inl rfl)
  have wrapped := readsContent_fragmentPieces isIndent keepComments areTags 1
    (isBreak_lineBreak isIndent 1)
  unfold blocks
  generalize fragmentPieces keepComments nodes = content at onOneLine wrapped
  split
  · refine standsFor_of_readsContent onOneLine (Or.inl rfl) (Or.inl ?_)
    rw [indent_lines_nil]
    rfl
  · next piece =>
      refine standsFor_of_readsContent onOneLine (Or.inl rfl) (Or.inl ?_)
      rw [indent_lines_singleton]
      simp [piecesText]
  · refine standsFor_of_readsContent wrapped (isBreak_lineBreak isIndent 0) (Or.inr ?_)
    have opening : (openingLine "" "").toList = ['<', '>'] := rfl
    have closing : (closingLine "").toList = ['<', '/', '>'] := rfl
    rw [indent_lines_singleton, Block.written, allWritten_map_toBlock, opening, closing]
    rfl

end Fragments

theorem isPlainTag_of_mem_writtenTags {nodes : List Node} (plain : allHavePlainTags nodes = true) :
    ∀ tag ∈ writtenTags nodes, isPlainTag tag.toList = true := by
  induction nodes using fragmentInduction with
  | nil => simp [writtenTags, allWrittenHeads]
  | text content rest forRest =>
      exact forRest (by simpa [allHavePlainTags, hasPlainTags] using plain)
  | comment content rest forRest =>
      exact forRest (by simpa [allHavePlainTags, hasPlainTags] using plain)
  | element head children rest forChildren forRest =>
      simp only [allHavePlainTags, hasPlainTags, Bool.and_eq_true] at plain
      obtain ⟨⟨plainTag, plainChildren⟩, plainRest⟩ := plain
      rw [writtenTags_element, List.forall_mem_cons, List.forall_mem_append]
      refine ⟨isPlainTag_tagName plainTag, ?_, forRest plainRest⟩
      split
      · simp
      · exact forChildren plainChildren

theorem read?_indent_lines_blocks {unit : String} (isIndent : IsIndent unit) (keepComments : Bool)
    {nodes : List Node} (plain : allHavePlainTags nodes = true) :
    read? (indent unit (lines (blocks keepComments nodes))) =
      some (normalForm keepComments nodes) :=
  (standsFor_indent_lines_blocks isIndent keepComments
    (isPlainTag_of_mem_writtenTags plain)).read?_eq fun _ isPlain => isPlain

end JsxFragment.Jsx

namespace JsxFragment

open Jsx

/-- The indentation of a layout whose size is no floating-point number is of spaces or of tabs. -/
theorem LayoutOptions.indentUnit_isIndent {options : LayoutOptions}
    (whole : ∀ size, options.indentSize ≠ .real size) :
    ∃ unit, options.indentUnit = .ok unit ∧ IsIndent unit := by
  unfold indentUnit
  split
  · exact ⟨_, rfl, by simp [IsIndent, isLineBlank]⟩
  · split
    · next size _ =>
        refine ⟨_, rfl, ?_⟩
        intro c member
        rw [String.toList_ofList] at member
        rw [List.eq_of_mem_replicate member]
        rfl
    · next flag _ =>
        refine ⟨_, rfl, ?_⟩
        cases flag with
        | false => simp [IsIndent]
        | true => simp [IsIndent, isLineBlank]
    · next size isReal => exact absurd isReal (whole size)

/-- A fragment without overlong references is written as JSX that stands for its normal form, and is
read as that if its tags are plain. -/
theorem exists_render_of_short {options : LayoutOptions} {nodes : List Node}
    (whole : ∀ size, options.indentSize ≠ .real size)
    (short : ∀ text ∈ preformattedTexts options.keepsComments nodes,
      ¬HasOverlongDecimal text.toList) :
    ∃ jsx, render options nodes = .ok jsx ∧
      StandsFor (· ∈ writtenTags nodes) jsx (normalForm options.keepsComments nodes) ∧
      (allHavePlainTags nodes = true →
        read? jsx = some (normalForm options.keepsComments nodes)) := by
  obtain ⟨unit, isUnit, isIndent⟩ := LayoutOptions.indentUnit_isIndent whole
  rw [preformattedTexts, ← overlongInAll?_eq_none_iff, ← overlongReference?] at short
  refine ⟨_, by rw [render, isUnit, short], ?_, fun plain => ?_⟩
  · exact standsFor_indent_lines_blocks isIndent options.keepsComments fun _ isWritten => isWritten
  · exact read?_indent_lines_blocks isIndent options.keepsComments plain

/-- A fragment with plain tags is written as JSX that is read as its normal form, if and only if no
preformatted text has a reference with too many digits. -/
theorem read_render (options : LayoutOptions) (nodes : List Node)
    (whole : ∀ size, options.indentSize ≠ .real size) (plain : allHavePlainTags nodes = true) :
    (∃ jsx, render options nodes = .ok jsx ∧
        read? jsx = some (normalForm options.keepsComments nodes)) ↔
      ∀ text ∈ preformattedTexts options.keepsComments nodes, ¬HasOverlongDecimal text.toList := by
  obtain ⟨unit, isUnit, isIndent⟩ := LayoutOptions.indentUnit_isIndent whole
  rw [preformattedTexts, ← overlongInAll?_eq_none_iff, ← overlongReference?, render, isUnit]
  cases overlongReference? options.keepsComments nodes with
  | none =>
      simp only [iff_true]
      exact ⟨_, rfl, read?_indent_lines_blocks isIndent options.keepsComments plain⟩
  | some digitCount => simp

/-- A preformatted element with one text. -/
def preformattedFragment (content : String) : List Node :=
  [.element { tag := "pre" } [.text content]]

theorem preformattedTexts_preformattedFragment (content : String) :
    preformattedTexts true (preformattedFragment content) = [content] :=
  rfl

theorem read_render_of_short_reference :
    (∀ size, ({} : LayoutOptions).indentSize ≠ .real size) ∧
      allHavePlainTags (preformattedFragment "&#65;") = true ∧
      (∀ text ∈ preformattedTexts true (preformattedFragment "&#65;"),
        ¬HasOverlongDecimal text.toList) ∧
      ∃ jsx, render {} (preformattedFragment "&#65;") = .ok jsx ∧
        read? jsx = some (normalForm true (preformattedFragment "&#65;")) := by
  have whole : ∀ size, ({} : LayoutOptions).indentSize ≠ .real size := nofun
  have plain : allHavePlainTags (preformattedFragment "&#65;") = true := by decide
  have short : ∀ text ∈ preformattedTexts true (preformattedFragment "&#65;"),
      ¬HasOverlongDecimal text.toList := by
    rw [preformattedTexts_preformattedFragment, List.forall_mem_singleton,
      ← overlongDecimal?_eq_none_iff]
    decide
  exact ⟨whole, plain, short, (read_render {} _ whole plain).mpr short⟩

/-- A reference to the letter A with so many zeros before it. -/
def paddedReference (zeros : Nat) : String :=
  String.ofList ('&' :: '#' :: (List.replicate zeros '0' ++ ['6', '5', ';']))

theorem hasOverlongDecimal_paddedReference {zeros : Nat}
    (many : Number.maxDecimalDigits < zeros + 2) :
    HasOverlongDecimal (paddedReference zeros).toList := by
  refine ⟨[], List.replicate zeros '0' ++ ['6', '5'], [';'], ?_, ?_, ?_⟩
  · simp [paddedReference]
  · have lastDigits : ['6', '5'].all Char.isDigit = true := by decide
    intro c member
    rcases List.mem_append.mp member with zero | digit
    · rw [List.eq_of_mem_replicate zero]
      rfl
    · exact List.all_eq_true.mp lastDigits c digit
  · rw [List.length_append, List.length_replicate]
    exact many

theorem render_preformattedFragment_of_overlong {content : String}
    (overlong : HasOverlongDecimal content.toList) :
    ∃ failure, render {} (preformattedFragment content) = .error failure := by
  have found : overlongReference? true (preformattedFragment content) ≠ none := by
    rw [overlongReference?, Ne, overlongInAll?_eq_none_iff, ← preformattedTexts,
      preformattedTexts_preformattedFragment, List.forall_mem_singleton, not_not]
    exact overlong
  obtain ⟨digitCount, isFound⟩ := Option.ne_none_iff_exists'.mp found
  have keeps : ({} : LayoutOptions).keepsComments = true := rfl
  refine ⟨.overlongReference digitCount, ?_⟩
  rw [render, keeps, isFound]
  rfl

/-- A fragment of which there is no JSX, although its only tag is plain. -/
theorem not_read_render_of_padded_reference :
    allHavePlainTags (preformattedFragment (paddedReference 4300)) = true ∧
      ¬∃ jsx, render {} (preformattedFragment (paddedReference 4300)) = .ok jsx ∧
        read? jsx = some (normalForm true (preformattedFragment (paddedReference 4300))) := by
  refine ⟨rfl, ?_⟩
  have overlong := @hasOverlongDecimal_paddedReference 4300 (by decide)
  obtain ⟨failure, failed⟩ := render_preformattedFragment_of_overlong overlong
  intro isRead
  obtain ⟨jsx, written, _⟩ := isRead
  rw [failed] at written
  exact absurd written (by simp)

end JsxFragment
