import JsxFragment.Proofs.Jsx.Merging
import JsxFragment.Proofs.Jsx.WrittenElements

/-!
# Text in parts, and comments that are dropped

Two fragments are laid out alike if their siblings are merged to the same ones. This is kept by
appending and by nesting, so that it is enough to see it where the fragments differ: at a text that
stands in two parts, and at a comment that is left out.
-/

namespace JsxFragment.Jsx

/-! ## Fragments that are laid out alike -/

/-- Nothing that the layout takes from a fragment, whether it keeps comments, tells it from the
other fragment. -/
structure LaidOutAlike (keepsFirst keepsSecond : Bool) (first second : List Node) : Prop where
  siblings : ∀ preformatted, mergeTexts (first.filterMap (sibling? keepsFirst preformatted)) =
    mergeTexts (second.filterMap (sibling? keepsSecond preformatted))
  elements : ∀ preformatted, allWrittenElements keepsFirst preformatted first =
    allWrittenElements keepsSecond preformatted second
  textContent : Node.textContent first = Node.textContent second

namespace LaidOutAlike

variable {keepsFirst keepsSecond : Bool} {first second : List Node}

theorem refl (keepComments : Bool) (nodes : List Node) :
    LaidOutAlike keepComments keepComments nodes nodes :=
  ⟨fun _ => rfl, fun _ => rfl, rfl⟩

theorem append {before after : List Node} (alike : LaidOutAlike keepsFirst keepsSecond first second)
    (others : LaidOutAlike keepsFirst keepsSecond before after) :
    LaidOutAlike keepsFirst keepsSecond (first ++ before) (second ++ after) where
  siblings preformatted := by
    rw [List.filterMap_append, mergeTexts_append, alike.siblings, others.siblings,
      ← mergeTexts_append, ← List.filterMap_append]
  elements preformatted := by
    rw [allWrittenElements_append, alike.elements, others.elements, ← allWrittenElements_append]
  textContent := by
    rw [Node.textContent_append, alike.textContent, others.textContent, ← Node.textContent_append]

theorem pieces (alike : LaidOutAlike keepsFirst keepsSecond first second)
    (nested preformatted : Bool) :
    Jsx.pieces nested preformatted (first.filterMap (sibling? keepsFirst preformatted)) =
      Jsx.pieces nested preformatted (second.filterMap (sibling? keepsSecond preformatted)) := by
  rw [pieces_eq_piecesFrom, pieces_eq_piecesFrom, alike.siblings]

theorem sibling?_element (alike : LaidOutAlike keepsFirst keepsSecond first second)
    (head : Head) (preformatted : Bool) :
    sibling? keepsFirst preformatted (.element head first) =
      sibling? keepsSecond preformatted (.element head second) := by
  rw [Jsx.sibling?_element, Jsx.sibling?_element, alike.textContent]
  dsimp only
  rw [alike.pieces]

theorem writtenElements_element (alike : LaidOutAlike keepsFirst keepsSecond first second)
    (head : Head) (preformatted : Bool) :
    writtenElements keepsFirst preformatted (.element head first) =
      writtenElements keepsSecond preformatted (.element head second) := by
  have ownTexts : overlongAmong? keepsFirst first = overlongAmong? keepsSecond second := by
    rw [overlongAmong?, overlongAmong?, directTexts_eq_filterMap keepsFirst preformatted,
      directTexts_eq_filterMap keepsSecond preformatted, alike.siblings]
  rw [writtenElements, writtenElements, ownTexts]
  dsimp only
  rw [alike.elements]

theorem element (alike : LaidOutAlike keepsFirst keepsSecond first second) (head : Head) :
    LaidOutAlike keepsFirst keepsSecond [.element head first] [.element head second] where
  siblings preformatted := by
    rw [List.filterMap_cons, List.filterMap_cons, alike.sibling?_element, List.filterMap_nil,
      List.filterMap_nil]
  elements preformatted := by
    rw [allWrittenElements, allWrittenElements, alike.writtenElements_element, allWrittenElements,
      allWrittenElements]
  textContent := by
    rw [Node.textContent_element, Node.textContent_element, alike.textContent]

/-- Fragments that are laid out alike are written alike, and the same is told of them. -/
theorem render_eq {options others : LayoutOptions}
    (alike : LaidOutAlike options.keepsComments others.keepsComments first second)
    (sameUnit : options.indentUnit = others.indentUnit) :
    render options first = render others second ∧
      renderNotices options first = renderNotices others second :=
  ⟨render_congr sameUnit (alike.elements false) (alike.pieces false false),
    renderNotices_congr sameUnit (alike.elements false)⟩

end LaidOutAlike

/-! ## Text in parts -/

/-- One text of the first fragment, at any depth, stands in the second one as two texts next to each
other. -/
inductive SplitsText : List Node → List Node → Prop
  | here (before after : List Node) (first second : String) :
      SplitsText (before ++ .text (first ++ second) :: after)
        (before ++ .text first :: .text second :: after)
  | inside (before after : List Node) (head : Head) {children others : List Node}
      (splits : SplitsText children others) :
      SplitsText (before ++ .element head children :: after)
        (before ++ .element head others :: after)

theorem laidOutAlike_split (keepComments : Bool) (first second : String) :
    LaidOutAlike keepComments keepComments [.text (first ++ second)]
      [.text first, .text second] where
  siblings preformatted := by simp [mergeTexts]
  elements preformatted := rfl
  textContent := by simp [Node.textContent, Node.walkAll, Node.walk]

theorem LaidOutAlike.between {keepComments : Bool} {first second : List Node}
    (alike : LaidOutAlike keepComments keepComments first second) (before after : List Node) :
    LaidOutAlike keepComments keepComments (before ++ (first ++ after))
      (before ++ (second ++ after)) :=
  (LaidOutAlike.refl keepComments before).append (alike.append (.refl keepComments after))

theorem SplitsText.laidOutAlike {nodes others : List Node} (splits : SplitsText nodes others)
    (keepComments : Bool) : LaidOutAlike keepComments keepComments nodes others := by
  induction splits with
  | here before after first second =>
      exact (laidOutAlike_split keepComments first second).between before after
  | inside before after head _ inductionHypothesis =>
      exact (inductionHypothesis.element head).between before after

/-! ## Comments that are dropped -/

mutual

/-- A node without the comments in it, or nothing if it is a comment itself. -/
def withoutCommentsIn : Node → List Node
  | .element head children => [.element head (withoutComments children)]
  | .text content => [.text content]
  | .comment _ => []

/-- A fragment without its comments. -/
def withoutComments : List Node → List Node
  | [] => []
  | node :: rest => withoutCommentsIn node ++ withoutComments rest

end

/-- To drop comments in the layout is to leave them out of the fragment. -/
theorem laidOutAlike_withoutComments (nodes : List Node) :
    LaidOutAlike false true nodes (withoutComments nodes) := by
  induction nodes using Node.fragmentInduction with
  | nil => exact ⟨fun _ => rfl, fun _ => rfl, rfl⟩
  | text content rest forRest =>
      have first : LaidOutAlike false true [.text content] [.text content] :=
        ⟨fun _ => by simp, fun _ => rfl, rfl⟩
      exact first.append forRest
  | comment content rest forRest =>
      have first : LaidOutAlike false true [.comment content] [] :=
        ⟨fun _ => by simp, fun _ => rfl, rfl⟩
      exact first.append forRest
  | element head children rest forChildren forRest =>
      exact (forChildren.element head).append forRest

end JsxFragment.Jsx

namespace JsxFragment

open Jsx

/-- A fragment is written the same, and the same is told of it, if one of its texts stands in two
parts; and dropping comments gives what the fragment without its comments gives when they are
kept. -/
theorem render_splitsText_and_withoutComments (options : LayoutOptions) (nodes : List Node) :
    (∀ others, SplitsText nodes others →
      render options nodes = render options others ∧
        renderNotices options nodes = renderNotices options others) ∧
    ∀ dropped kept : Json, dropped.isTruthy = false → kept.isTruthy = true →
      render { options with preserveComments := dropped } nodes =
          render { options with preserveComments := kept } (withoutComments nodes) ∧
        renderNotices { options with preserveComments := dropped } nodes =
          renderNotices { options with preserveComments := kept } (withoutComments nodes) := by
  constructor
  · exact fun others splits => (splits.laidOutAlike options.keepsComments).render_eq rfl
  · intro dropped kept isDropped isKept
    have alike := laidOutAlike_withoutComments nodes
    refine LaidOutAlike.render_eq ?_ rfl
    rw [LayoutOptions.keepsComments, LayoutOptions.keepsComments, isDropped, isKept]
    exact alike

/-- A paragraph with these children. -/
def paragraph (children : List Node) : List Node :=
  [.element { tag := "p" } children]

theorem render_splitsText_and_withoutComments_of_paragraph :
    SplitsText (paragraph [.text "a b", .comment "x", .text " c"])
        (paragraph [.text "a", .text " b", .comment "x", .text " c"]) ∧
      render {} (paragraph [.text "a b", .comment "x", .text " c"]) =
        render {} (paragraph [.text "a", .text " b", .comment "x", .text " c"]) ∧
      Json.isTruthy (.bool false) = false ∧ Json.isTruthy (.bool true) = true ∧
      render { preserveComments := .bool false }
          (paragraph [.text "a b", .comment "x", .text " c"]) =
        render { preserveComments := .bool true } (paragraph [.text "a b", .text " c"]) ∧
      render { preserveComments := .bool true } (paragraph [.text "a b", .text " c"]) =
        .ok "<p>a b c</p>" := by
  have splits : SplitsText (paragraph [.text "a b", .comment "x", .text " c"])
      (paragraph [.text "a", .text " b", .comment "x", .text " c"]) :=
    .inside [] [] _ (.here [] [.comment "x", .text " c"] "a" " b")
  obtain ⟨ofSplit, ofComments⟩ := render_splitsText_and_withoutComments {}
    (paragraph [.text "a b", .comment "x", .text " c"])
  refine ⟨splits, (ofSplit _ splits).1, rfl, rfl, ?_, ?_⟩
  · exact (ofComments (.bool false) (.bool true) rfl rfl).1
  · decide +kernel

end JsxFragment
