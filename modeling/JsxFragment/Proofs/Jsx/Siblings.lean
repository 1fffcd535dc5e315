import JsxFragment.Proofs.Jsx.Content
import Mathlib.Data.List.Chain

/-!
# Reading siblings back

Siblings match their items in normal form: texts are the same, and each block is read as its child.
The pieces of matching siblings are then read as the items, settled.
-/

namespace JsxFragment.Jsx

open Text

/-! ## Matching -/

/-- A sibling matches an item: both are the same text, or a block is read as the child. -/
inductive Matches (tags : String → Prop) (unit : String) : Sibling → Item → Prop
  | text (content : String) : Matches tags unit (.text content) (.text content)
  | block {block : Block} {child : Child} (notText : child.isText = false)
      (readsAs : ∀ depth, ReadsAs tags (block.written unit depth) (child :: ·)) :
      Matches tags unit (.block block) (.child child)

theorem mergeTexts_cons (sibling : Sibling) (rest : List Sibling) :
    mergeTexts (sibling :: rest) =
      match sibling, mergeTexts rest with
      | .text content, .text next :: others => .text (content ++ next) :: others
      | _, _ => sibling :: mergeTexts rest :=
  rfl

theorem joinTexts_cons (item : Item) (rest : List Item) :
    joinTexts (item :: rest) =
      match item, joinTexts rest with
      | .text content, .text next :: others => .text (content ++ next) :: others
      | _, _ => item :: joinTexts rest :=
  rfl

theorem forall₂_matches_mergeTexts {tags : String → Prop} {unit : String}
    {siblings : List Sibling} {items : List Item}
    (matched : List.Forall₂ (Matches tags unit) siblings items) :
    List.Forall₂ (Matches tags unit) (mergeTexts siblings) (joinTexts items) := by
  induction matched with
  | nil => exact .nil
  | @cons sibling item siblings items first _ inductionHypothesis =>
      rw [mergeTexts_cons, joinTexts_cons]
      cases first with
      | block notText readsAs => exact .cons (.block notText readsAs) inductionHypothesis
      | text content =>
          generalize mergeTexts siblings = merged at inductionHypothesis
          generalize joinTexts items = joined at inductionHypothesis
          cases inductionHypothesis with
          | nil => exact .cons (.text content) .nil
          | cons next others =>
              cases next with
              | text following => exact .cons (.text (content ++ following)) others
              | block notText readsAs =>
                  exact .cons (.text content) (.cons (.block notText readsAs) others)

/-- Whether an item is a text. -/
def Item.isText : Item → Bool
  | .text _ => true
  | .child _ => false

/-- No two texts are next to each other. -/
def Alternates (items : List Item) : Prop :=
  items.IsChain fun item next => item.isText = false ∨ next.isText = false

theorem alternates_joinTexts (items : List Item) : Alternates (joinTexts items) := by
  induction items with
  | nil => exact .nil
  | cons item items inductionHypothesis =>
      rw [joinTexts_cons]
      cases item with
      | child child => exact inductionHypothesis.cons fun _ _ => Or.inl rfl
      | text content =>
          generalize joinTexts items = joined at inductionHypothesis
          cases joined with
          | nil => exact .singleton _
          | cons next others =>
              cases next with
              | child child => exact inductionHypothesis.cons (by simp [Item.isText])
              | text following =>
                  obtain ⟨fromHead, fromRest⟩ := List.isChain_cons.mp inductionHypothesis
                  exact List.isChain_cons.mpr ⟨fromHead, fromRest⟩

/-! ## Pieces -/

/-- The pieces of siblings of which none are texts next to each other. -/
def piecesFrom (nested preformatted hasPrevious : Bool) : List Sibling → List Piece
  | [] => []
  | .block block :: rest => .block block :: piecesFrom nested preformatted true rest
  | .text content :: rest =>
    textPieces preformatted { hasPrevious, hasNext := !rest.isEmpty, nested } content
      ++ piecesFrom nested preformatted true rest

theorem flatMap_zipIdx_eq_piecesFrom (nested preformatted : Bool) (siblings : List Sibling) :
    ∀ (index count : Nat), count = index + siblings.length →
      ((siblings.zipIdx index).flatMap fun (sibling, index) =>
        match sibling with
        | .block block => [.block block]
        | .text content =>
          textPieces preformatted
            { hasPrevious := 0 < index, hasNext := index + 1 < count, nested } content) =
      piecesFrom nested preformatted (decide (0 < index)) siblings := by
  induction siblings with
  | nil => exact fun _ _ _ => rfl
  | cons sibling rest inductionHypothesis =>
      intro index count isCount
      have others := inductionHypothesis (index + 1) count
        (by rw [isCount, List.length_cons]; omega)
      rw [List.zipIdx_cons, List.flatMap_cons, others]
      have following : decide (index + 1 < count) = !rest.isEmpty := by
        cases rest with
        | nil => simp [isCount]
        | cons next others => simp [isCount]
      cases sibling with
      | block block => simp [piecesFrom]
      | text content => simp [piecesFrom, following]

theorem pieces_eq_piecesFrom (nested preformatted : Bool) (siblings : List Sibling) :
    pieces nested preformatted siblings =
      piecesFrom nested preformatted false (mergeTexts siblings) :=
  flatMap_zipIdx_eq_piecesFrom nested preformatted (mergeTexts siblings) 0 _ (Nat.zero_add _).symm

/-- All text has ended, and the last child is no text: another text would be a child of its own. -/
structure ReaderState.AwaitsText (state : ReaderState) (children : List Child) : Prop where
  run : state.run = []
  notText : ∀ child ∈ children.head?, child.isText = false

section Reading

variable {tags : String → Prop} {unit : String} {brk : List Char} (isBreak : IsBreak brk)
  (depth : Nat) (nested preformatted : Bool)

include isBreak

/-- The pieces of matching siblings are read as the items, settled. A text comes only where one is
awaited. -/
theorem reads_piecesFrom {siblings : List Sibling} {items : List Item}
    (matched : List.Forall₂ (Matches tags unit) siblings items) (alternates : Alternates items) :
    ∀ (hasPrevious : Bool) (state : ReaderState) (children : List Child),
      state.Settles children →
      (∀ item ∈ items.head?, item.isText = true → state.AwaitsText children) →
      ∃ next, ReadsWith tags state
          (piecesText unit depth brk (piecesFrom nested preformatted hasPrevious siblings)) next ∧
        next.outer = state.outer ∧
        next.Settles ((settle nested preformatted hasPrevious items).reverse ++ children) := by
  induction matched with
  | nil =>
      intro hasPrevious state children settles _
      exact ⟨state, .reads (.nil state), rfl, settles⟩
  | @cons sibling item siblings items first others inductionHypothesis =>
      intro hasPrevious state children settles awaits
      obtain ⟨headAlternates, restAlternates⟩ := List.isChain_cons.mp alternates
      cases first with
      | @block block child notText readsAs =>
          have reads := (readsAs depth).reads_append isBreak settles
          obtain ⟨next, readsRest, outerEq, settlesRest⟩ := inductionHypothesis restAlternates true
            { state with children := child :: children, run := [] } (child :: children)
            (settles_of_run_eq_nil _ _)
            (fun _ _ _ => ⟨rfl, by simpa using notText⟩)
          refine ⟨next, ?_, outerEq, ?_⟩
          · exact reads.append readsRest
          · simpa [settle] using settlesRest
      | text content =>
          have isAwaited := awaits _ rfl rfl
          have emptiness : siblings.isEmpty = items.isEmpty := by
            cases others with
            | nil => rfl
            | cons _ _ => rfl
          obtain ⟨middle, reads, outerMiddle, settlesMiddle⟩ := reads_textPieces unit depth isBreak
            preformatted { hasPrevious, hasNext := !items.isEmpty, nested } content settles
            isAwaited.run
          obtain ⟨next, readsRest, outerEq, settlesRest⟩ := inductionHypothesis restAlternates true
            middle _ settlesMiddle (fun item head isText => by
              have notText := (headAlternates item head).resolve_left (by simp [Item.isText])
              exact absurd isText (by simp [notText]))
          refine ⟨next, ?_, outerEq.trans outerMiddle, ?_⟩
          · rw [piecesFrom, emptiness, piecesText_append]
            exact reads.append readsRest
          · rw [addText_of_not_isText isAwaited.notText] at settlesRest
            unfold settle
            dsimp only
            split at settlesRest
            · next empty => simpa [empty] using settlesRest
            · next nonempty => simpa [nonempty] using settlesRest

/-- The pieces of matching siblings are read as the content that the items settle into. -/
theorem readsContent_pieces {siblings : List Sibling} {items : List Item}
    (matched : List.Forall₂ (Matches tags unit) siblings items) :
    ReadsContent tags (piecesText unit depth brk (pieces nested preformatted siblings))
      (settle nested preformatted false (joinTexts items)) := by
  intro outer
  rw [pieces_eq_piecesFrom]
  simpa using reads_piecesFrom isBreak depth nested preformatted
    (forall₂_matches_mergeTexts matched) (alternates_joinTexts items) false
    { children := [], outer, run := [] } [] (settles_of_run_eq_nil _ _)
    (fun _ _ _ => ⟨rfl, by simp⟩)

end Reading

end JsxFragment.Jsx
