import JsxFragment.Proofs.Jsx.BlockText
import JsxFragment.Proofs.Jsx.NamedReading
import JsxFragment.Proofs.Text.Blank
import Mathlib.Data.List.Forall2

/-!
# Reading content back

The pieces of siblings, each behind a line break or all on one line, are read as the siblings in
normal form, given that each of their blocks is read as its child.
-/

namespace JsxFragment.Jsx

open Text

/-! ## The body of a text -/

theorem isLineBlank_of_isBlank {c : Char} (notBlank : isBlank c = false) :
    isLineBlank c = false := by
  cases lineBlank : isLineBlank c with
  | false => rfl
  | true =>
      simp only [isLineBlank, Bool.or_eq_true, decide_eq_true_eq] at lineBlank
      rcases lineBlank with rfl | rfl
      · exact absurd notBlank (by decide)
      · exact absurd notBlank (by decide)

theorem breaksNoLine_of_isBlank {c : Char} (flows : isBlank c = false ∨ c = ' ') :
    BreaksNoLine c := by
  rcases flows with notBlank | rfl
  · constructor
    · rintro rfl
      exact absurd notBlank (by decide)
    · rintro rfl
      exact absurd notBlank (by decide)
  · decide

theorem flows_of_mem_referTextChar {c d : Char} (breaksNoLine : BreaksNoLine c)
    (member : d ∈ referTextChar c) : Flows d := by
  have less : ∀ e ∈ ['&', 'l', 't', ';'], Flows e := by simp [Flows, BreaksNoLine]
  have greater : ∀ e ∈ ['&', 'g', 't', ';'], Flows e := by simp [Flows, BreaksNoLine]
  unfold referTextChar at member
  split at member
  · exact less d member
  split at member
  · exact greater d member
  · next notLess notGreater =>
      rw [List.mem_singleton.mp member]
      exact ⟨notLess, notGreater, breaksNoLine⟩

theorem referTextChar_ends (c : Char) :
    (referTextChar c = [c] ∨ (referTextChar c).head? = some '&' ∧
      (referTextChar c).getLast? = some ';') ∧ referTextChar c ≠ [] := by
  unfold referTextChar
  split
  · exact ⟨Or.inr ⟨rfl, rfl⟩, by simp⟩
  split
  · exact ⟨Or.inr ⟨rfl, rfl⟩, by simp⟩
  · exact ⟨Or.inl rfl, by simp⟩

theorem flows_of_mem_flowBody (content : List Char) : ∀ c ∈ flowBody content, Flows c := by
  intro c member
  obtain ⟨d, inTrimmed, inRefer⟩ := List.mem_flatMap.mp member
  have flows := eq_space_of_mem_collapseBlanks (mem_of_mem_trim inTrimmed)
  exact flows_of_mem_referTextChar (breaksNoLine_of_isBlank flows) inRefer

theorem isLineBlank_of_head?_flowBody {content : List Char} :
    ∀ c ∈ (flowBody content).head?, isLineBlank c = false := by
  intro c head
  unfold flowBody at head
  cases trimmed : trim (collapseBlanks content) with
  | nil => simp [trimmed] at head
  | cons d rest =>
      have notBlank : isBlank d = false :=
        isBlank_of_head?_trim (collapseBlanks content) (by simp [trimmed])
      obtain ⟨ends, nonempty⟩ := referTextChar_ends d
      rw [trimmed, List.flatMap_cons, List.head?_append_of_ne_nil _ nonempty,
        Option.mem_def] at head
      rcases ends with single | ⟨first, _⟩
      · rw [single, List.head?_cons, Option.some.injEq] at head
        exact head ▸ isLineBlank_of_isBlank notBlank
      · rw [first, Option.some.injEq] at head
        subst head
        rfl

theorem isLineBlank_of_getLast?_flowBody {content : List Char} :
    ∀ c ∈ (flowBody content).getLast?, isLineBlank c = false := by
  intro c last
  unfold flowBody at last
  rcases List.eq_nil_or_concat (trim (collapseBlanks content)) with trimmed | ⟨rest, d, trimmed⟩
  · simp [trimmed] at last
  · have notBlank : isBlank d = false :=
      isBlank_of_getLast?_trim (collapseBlanks content) (by simp [trimmed])
    obtain ⟨ends, nonempty⟩ := referTextChar_ends d
    rw [trimmed, List.concat_eq_append, List.flatMap_append, List.flatMap_singleton,
      List.getLast?_append_of_ne_nil _ nonempty, Option.mem_def] at last
    rcases ends with single | ⟨_, final⟩
    · rw [single, List.getLast?_singleton, Option.some.injEq] at last
      exact last ▸ isLineBlank_of_isBlank notBlank
    · rw [final, Option.some.injEq] at last
      subst last
      rfl

theorem escapeText_toList (content : List Char) :
    (escapeText (String.ofList (trim (collapseBlanks content)))).toList =
      (flowBody content).flatMap escapeBrace := by
  rw [escapeText, String.toList_ofList, String.toList_ofList, flowBody, List.flatMap_assoc]
  congr 1
  funext c
  exact escapeTextChar_eq_flatMap c

/-! ## Texts -/

/-- From every state, the text is read as one more child or text, which this function adds. -/
def ReadsAs (tags : String → Prop) (text : List Char) (add : List Child → List Child) : Prop :=
  ∀ state : ReaderState,
    ReadsWith tags state text { state with children := add state.settled, run := [] }

/-- Behind a break, what is read as one more child or text adds to the children before the break. -/
theorem ReadsAs.reads_append {tags : String → Prop} {text brk : List Char}
    {add : List Child → List Child} (readsAs : ReadsAs tags text add) (isBreak : IsBreak brk)
    {state : ReaderState} {children : List Child} (settles : state.Settles children) :
    ReadsWith tags state (brk ++ text) { state with children := add children, run := [] } := by
  have broken : ReadsWith tags state brk { state with run := state.run ++ brk } :=
    .reads (reads_plain (isPlain_of_isBreak isBreak) state)
  have reads := broken.append (readsAs _)
  rw [settles.settled_eq isBreak] at reads
  exact reads

theorem readsAs_space (tags : String → Prop) : ReadsAs tags space.toList (addText [' ']) :=
  fun state => .reads (reads_space state)

section Pieces

variable {tags : String → Prop} {brk : List Char} (unit : String) (depth : Nat)

/-- The text of pieces, each behind a break. -/
def piecesText (brk : List Char) (pieces : List Piece) : List Char :=
  pieces.flatMap fun piece => brk ++ piece.toBlock.written unit depth

theorem piecesText_append (first second : List Piece) :
    piecesText unit depth brk (first ++ second) =
      piecesText unit depth brk first ++ piecesText unit depth brk second :=
  List.flatMap_append

theorem piecesText_text_cons (written : String) (rest : List Piece) :
    piecesText unit depth brk (.text written :: rest) =
      brk ++ written.toList ++ piecesText unit depth brk rest :=
  rfl

theorem piecesText_singleton (written : String) :
    piecesText unit depth brk [.text written] = brk ++ written.toList := by
  simp [piecesText, Piece.toBlock, Block.written]

theorem allWritten_map_toBlock (pieces : List Piece) :
    Block.allWritten unit depth (pieces.map Piece.toBlock) =
      piecesText unit depth (lineBreak unit depth) pieces := by
  rw [Block.allWritten_eq_flatMap, List.flatMap_map]
  rfl

theorem reads_edge (isBreak : IsBreak brk) (hasNeighbour : Bool) (blanks : List Char)
    {state : ReaderState} {children : List Child} (settles : state.Settles children) :
    ∃ next, ReadsWith tags state
        (piecesText unit depth brk (if hasNeighbour && separates blanks then [.text space] else []))
        next ∧ next.outer = state.outer ∧ (state.run = [] → next.run = []) ∧
      next.Settles (addText (edgeSpace hasNeighbour blanks) children) := by
  unfold edgeSpace
  split
  · have reads := (readsAs_space tags).reads_append isBreak settles
    refine ⟨_, ?_, ?_, ?_, settles_of_run_eq_nil _ state.outer⟩
    · rw [piecesText_singleton]
      exact reads
    · rfl
    · exact fun _ => rfl
  · exact ⟨state, .reads (.nil state), rfl, id, settles⟩

theorem reads_flowBody (isBreak : IsBreak brk) (content : List Char) {state : ReaderState}
    {children : List Child} (settles : state.Settles children) (noRun : state.run = []) :
    ∃ next, Reads state
        (brk ++ (escapeText (String.ofList (trim (collapseBlanks content)))).toList) next ∧
      next.outer = state.outer ∧ next.Settles (addText (flowBody content) children) := by
  obtain ⟨next, reads, outerEq, settlesBody⟩ := reads_flow (flows_of_mem_flowBody content)
    state.outer brk [] state.children isBreak nofun
    (fun _ => isLineBlank_of_head?_flowBody) isLineBlank_of_getLast?_flowBody
  have earlier : state.children = children := by
    simpa [noRun, cleanText_of_isBreak (Or.inl rfl)] using settles [] (Or.inl rfl)
  rw [List.append_nil] at reads
  rw [List.nil_append, earlier] at settlesBody
  refine ⟨next, ?_, outerEq, settlesBody⟩
  rw [escapeText_toList]
  have first := reads_plain (isPlain_of_isBreak isBreak) state
  rw [noRun, List.nil_append] at first
  exact first.append reads

/-- The pieces of a text settle as the text in normal form, if all before them is settled. -/
theorem reads_textPieces (isBreak : IsBreak brk) (preformatted : Bool) (place : Place)
    (content : String) {state : ReaderState} {children : List Child}
    (settles : state.Settles children) (noRun : state.run = []) :
    ∃ next,
      ReadsWith tags state (piecesText unit depth brk (textPieces preformatted place content))
        next ∧
      next.outer = state.outer ∧
      next.Settles (addText (normalText preformatted place content) children) := by
  unfold textPieces normalText
  split
  · have readsAs : ReadsAs tags (stringExpression content).toList
        (addText (Entity.decodeAll content.toList)) :=
      fun state => .reads (reads_stringExpression content state)
    have reads := readsAs.reads_append isBreak settles
    refine ⟨_, ?_, ?_, settles_of_run_eq_nil _ state.outer⟩
    · rw [piecesText_singleton]
      exact reads
    · rfl
  unfold flowPieces normalFlow
  split
  · unfold blankPieces
    dsimp only
    split
    · have reads := (readsAs_space tags).reads_append isBreak settles
      refine ⟨_, ?_, ?_, settles_of_run_eq_nil _ state.outer⟩
      · rw [piecesText_singleton]
        exact reads
      · rfl
    · exact ⟨state, .reads (.nil state), rfl, settles⟩
  · obtain ⟨led, readsLead, outerLed, noRunLed, settlesLed⟩ := reads_edge unit depth isBreak
      place.hasPrevious (leadingBlanks content.toList) settles
    obtain ⟨bodied, readsBody, outerBodied, settlesBodied⟩ :=
      reads_flowBody isBreak content.toList settlesLed (noRunLed noRun)
    obtain ⟨trailed, readsTrail, outerTrailed, _, settlesTrailed⟩ := reads_edge unit depth isBreak
      place.hasNext (trailingBlanks content.toList) settlesBodied
    refine ⟨trailed, ?_, outerTrailed.trans (outerBodied.trans outerLed), ?_⟩
    · rw [piecesText_append, piecesText_text_cons]
      exact readsLead.append ((ReadsWith.reads readsBody).append readsTrail)
    · rw [addText_addText, addText_addText, ← List.append_assoc] at settlesTrailed
      exact settlesTrailed

/-! ## Elements -/

/-- A start tag as it is written is read as it is meant. -/
theorem reads_start {tag : String} (isTag : tags tag) (attributes : List Attribute)
    (isClosed : Bool) {state next : ReaderState}
    (stepped : state.step? (.start tag (attributes.filterMap normalAttribute?) isClosed) =
      some next) :
    ReadsWith tags state
      ('<' :: (tag.toList ++ ((writeAttributes attributes).toList ++ tagEnd isClosed))) next :=
  .start isTag (fun rest => by
    rw [List.append_assoc]
    exact scanHead?_writeAttributes attributes isClosed rest) stepped

theorem readsAs_emptyElement {tag : String} (isTag : tags tag) (attributes : List Attribute) :
    ReadsAs tags (emptyElement tag (writeAttributes attributes)).toList
      (.element tag (attributes.filterMap normalAttribute?) [] :: ·) := by
  intro state
  have reads := @reads_start _ _ isTag attributes true state _ rfl
  simpa [emptyElement, tagEnd] using reads

theorem reads_openingLine {tag : String} (isTag : tags tag) (attributes : List Attribute)
    (state : ReaderState) :
    ReadsWith tags state (openingLine tag (writeAttributes attributes)).toList
      { children := []
        outer := ⟨tag, attributes.filterMap normalAttribute?, state.settled⟩ :: state.outer
        run := [] } := by
  have reads := @reads_start _ _ isTag attributes false state _ rfl
  simpa [openingLine, tagEnd] using reads

/-- The text is read as these children, wherever an element has just been opened. -/
def ReadsContent (tags : String → Prop) (text : List Char) (children : List Child) : Prop :=
  ∀ outer, ∃ next, ReadsWith tags { children := [], outer, run := [] } text next ∧
    next.outer = outer ∧ next.Settles children.reverse

theorem step?_closing (state : ReaderState) {opened : OpenChild} {outer : List OpenChild}
    {children : List Child} (stack : state.outer = opened :: outer)
    (settled : state.settled = children.reverse) :
    state.step? (.closing opened.tag) =
      some
        { children := .element opened.tag opened.attributes children :: opened.before
          outer
          run := [] } := by
  simp only [ReaderState.step?, stack, settled, if_true, List.reverse_reverse]

theorem readsAs_element {tag : String} (isTag : tags tag) (attributes : List Attribute)
    {text right : List Char} (isBreak : IsBreak right) {children : List Child}
    (readsContent : ReadsContent tags text children) :
    ReadsAs tags
      ((openingLine tag (writeAttributes attributes)).toList ++ text ++ right
        ++ (closingLine tag).toList)
      (.element tag (attributes.filterMap normalAttribute?) children :: ·) := by
  intro state
  obtain ⟨next, reads, outerEq, settles⟩ := readsContent
    (⟨tag, attributes.filterMap normalAttribute?, state.settled⟩ :: state.outer)
  have closes : ReadsWith tags { next with run := next.run ++ right } (closingLine tag).toList
      { state with
        children :=
          .element tag (attributes.filterMap normalAttribute?) children :: state.settled
        run := [] } :=
    .closing isTag
      (step?_closing { next with run := next.run ++ right } outerEq (settles.settled_eq isBreak))
  have opened := reads_openingLine isTag attributes state
  have broken : ReadsWith tags next right { next with run := next.run ++ right } :=
    .reads (reads_plain (isPlain_of_isBreak isBreak) next)
  exact ((opened.append reads).append broken).append closes

/-- The indentation is of blanks that JSX drops. -/
def IsIndent (unit : String) : Prop :=
  ∀ c ∈ unit.toList, isLineBlank c = true

theorem isBreak_lineBreak {unit : String} (isIndent : IsIndent unit) (depth : Nat) :
    IsBreak (lineBreak unit depth) := by
  refine Or.inr ⟨_, rfl, ?_⟩
  intro c member
  rw [String.toList_join, List.mem_flatMap] at member
  obtain ⟨copy, isCopy, inCopy⟩ := member
  rw [List.eq_of_mem_replicate isCopy] at inCopy
  exact isIndent c inCopy

/-- An element is read as itself with its children, if they are what its pieces are read as. -/
theorem readsAs_elementBlock {unit : String} (isIndent : IsIndent unit) {tag : String}
    (isTag : tags tag) (attributes : List Attribute) {content : List Piece}
    {children : List Child}
    (readsContent : ∀ depth brk, IsBreak brk →
      ReadsContent tags (piecesText unit depth brk content) children) (depth : Nat) :
    ReadsAs tags ((elementBlock tag (writeAttributes attributes) content).written unit depth)
      (.element tag (attributes.filterMap normalAttribute?) children :: ·) := by
  have onOneLine := readsContent depth [] (Or.inl rfl)
  unfold elementBlock
  split
  · obtain ⟨next, reads, _, settles⟩ := onOneLine []
    have noChildren : children = [] := by
      rw [reads.eq_of_nil rfl] at settles
      simpa [cleanText_of_isBreak (Or.inl rfl)] using settles [] (Or.inl rfl)
    rw [noChildren, Block.written]
    exact readsAs_emptyElement isTag attributes
  · next written =>
      have reads := readsAs_element isTag attributes (Or.inl rfl) onOneLine
      rw [piecesText_singleton] at reads
      simpa [Block.written] using reads
  · have reads := readsAs_element isTag attributes (isBreak_lineBreak isIndent depth)
      (readsContent (depth + 1) _ (isBreak_lineBreak isIndent (depth + 1)))
    rw [Block.written, allWritten_map_toBlock]
    exact reads

end Pieces

end JsxFragment.Jsx
