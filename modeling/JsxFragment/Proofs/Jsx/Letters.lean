import JsxFragment.Proofs.Jsx.Merging
import Mathlib.Data.List.Flatten

/-!
# What is kept of text

Where text flows, the layout keeps all its characters but the blanks, each in its place. The blanks
are those of Unicode: a fragment loses more than the blanks of HTML if it has others.
-/

namespace JsxFragment.Jsx

open Text

/-! ## Texts of a tree -/

mutual

/-- The texts of a child, in document order. A comment has none. -/
def Child.texts : Child → List Char
  | .text content => content.toList
  | .comment _ => []
  | .element _ _ children => allTexts children

/-- The texts of several children, one after another. -/
def allTexts : List Child → List Char
  | [] => []
  | child :: rest => child.texts ++ allTexts rest

end

theorem texts_normalComment (content : String) : (normalComment content).texts = [] := by
  unfold normalComment
  dsimp only
  split <;> rfl

/-! ## Letters of a text -/

/-- The characters of a text that are no blanks. -/
def letters (text : List Char) : List Char :=
  text.filter fun c => !isBlank c

theorem letters_append (first second : List Char) :
    letters (first ++ second) = letters first ++ letters second :=
  List.filter_append ..

theorem letters_collapseBlanks (text : List Char) :
    letters (collapseBlanks text) = letters text := by
  induction text with
  | nil => rfl
  | cons c text inductionHypothesis =>
      rw [collapseBlanks_cons]
      cases blank : isBlank c with
      | false => simpa [letters, blank] using inductionHypothesis
      | true =>
          have dropped : letters (c :: text) = letters text := by simp [letters, blank]
          rw [dropped, ← inductionHypothesis, if_pos rfl]
          split
          · rfl
          · simp [letters, isBlank_space]

theorem letters_dropWhile (text : List Char) : letters (text.dropWhile isBlank) = letters text := by
  induction text with
  | nil => rfl
  | cons c text inductionHypothesis =>
      cases blank : isBlank c with
      | false => rw [List.dropWhile_cons_of_neg (by simp [blank])]
      | true =>
          rw [List.dropWhile_cons_of_pos blank, inductionHypothesis]
          simp [letters, blank]

theorem letters_trim (text : List Char) : letters (trim text) = letters text := by
  rw [trim, trimEnd, letters, List.filter_reverse, ← letters, letters_dropWhile, letters,
    List.filter_reverse, List.reverse_reverse, ← letters, trimStart, letters_dropWhile]

/-! ## Items -/

/-- What is kept of an item: the letters of a text, as they are written, or those of the texts of a
child. -/
def Item.kept (keeps : Char → Bool) : Item → List Char
  | .text content => (letters content.toList).flatMap referTextChar
  | .child inner => inner.texts.filter keeps

/-- What comes of the items one by one does not depend on which texts are joined, if it does not
depend on where a text is parted. -/
theorem flatMap_joinTexts {α : Type} {f : Item → List α}
    (parts : ∀ first second, f (.text (first ++ second)) = f (.text first) ++ f (.text second))
    (items : List Item) : (joinTexts items).flatMap f = items.flatMap f := by
  induction items with
  | nil => rfl
  | cons item items inductionHypothesis =>
      rw [joinTexts_cons, List.flatMap_cons, ← inductionHypothesis]
      split
      · next content next others joined =>
          rw [joined, List.flatMap_cons, List.flatMap_cons, parts, List.append_assoc]
      · rfl

theorem allTexts_settle_text (nested preformatted hasPrevious : Bool) (content : String)
    (rest : List Item) :
    allTexts (settle nested preformatted hasPrevious (.text content :: rest)) =
      normalText preformatted { hasPrevious, hasNext := !rest.isEmpty, nested } content
        ++ allTexts (settle nested preformatted true rest) := by
  rw [settle]
  split
  · next empty => rw [List.isEmpty_iff.mp empty, List.nil_append]
  · rw [allTexts, Child.texts, String.toList_ofList]

section Kept

variable {keeps : Char → Bool} (dropsSpace : keeps ' ' = false)
  (keepsLetter : ∀ c, isBlank c = false → keeps c = true)

include dropsSpace

theorem filter_edgeSpace (hasNeighbour : Bool) (blanks : List Char) :
    (edgeSpace hasNeighbour blanks).filter keeps = [] := by
  unfold edgeSpace
  split
  · simp [dropsSpace]
  · rfl

include keepsLetter

/-- Where all blanks are spaces, nothing but the spaces is lost. -/
theorem filter_flatMap_referTextChar {text : List Char}
    (noOther : ∀ c ∈ text, isBlank c = false ∨ c = ' ') :
    (text.flatMap referTextChar).filter keeps = (letters text).flatMap referTextChar := by
  induction text with
  | nil => rfl
  | cons c text inductionHypothesis =>
      obtain ⟨own, others⟩ := List.forall_mem_cons.mp noOther
      rw [List.flatMap_cons, List.filter_append, inductionHypothesis others]
      rcases own with letter | rfl
      · have kept : (referTextChar c).filter keeps = referTextChar c := by
          rw [List.filter_eq_self]
          intro d member
          refine keepsLetter d ?_
          unfold referTextChar at member
          split at member
          · simp only [List.mem_cons, List.not_mem_nil, or_false] at member
            rcases member with rfl | rfl | rfl | rfl <;> decide
          split at member
          · simp only [List.mem_cons, List.not_mem_nil, or_false] at member
            rcases member with rfl | rfl | rfl | rfl <;> decide
          · rwa [List.mem_singleton.mp member]
        simp [letters, letter, kept]
      · simp [letters, isBlank_space, referTextChar, dropsSpace]

/-- Of a text that flows all letters are kept, and nothing else but spaces. -/
theorem filter_normalFlow (place : Place) (content : List Char) :
    (normalFlow place content).filter keeps = (letters content).flatMap referTextChar := by
  unfold normalFlow
  dsimp only
  split
  · next allBlank =>
      have noLetter : letters content = [] := by
        simpa [letters, List.filter_eq_nil_iff] using List.all_eq_true.mp allBlank
      rw [noLetter]
      split
      · simp [dropsSpace]
      · rfl
  · have flows (c : Char) (member : c ∈ trim (collapseBlanks content)) :
        isBlank c = false ∨ c = ' ' :=
      eq_space_of_mem_collapseBlanks (mem_of_mem_trim member)
    rw [List.filter_append, List.filter_append, filter_edgeSpace dropsSpace,
      filter_edgeSpace dropsSpace, flowBody,
      filter_flatMap_referTextChar dropsSpace keepsLetter flows, letters_trim,
      letters_collapseBlanks, List.nil_append, List.append_nil]

theorem filter_allTexts_settle (nested : Bool) (items : List Item) : ∀ hasPrevious,
    (allTexts (settle nested false hasPrevious items)).filter keeps =
      items.flatMap (Item.kept keeps) := by
  induction items with
  | nil => exact fun _ => rfl
  | cons item items inductionHypothesis =>
      intro hasPrevious
      rw [List.flatMap_cons, ← inductionHypothesis true]
      cases item with
      | child child => rw [settle, allTexts, List.filter_append, Item.kept]
      | text content =>
          have kept := filter_normalFlow dropsSpace keepsLetter
            { hasPrevious, hasNext := !items.isEmpty, nested } content.toList
          rw [allTexts_settle_text, List.filter_append, normalText, if_neg (by simp), kept,
            Item.kept]

theorem filter_allTexts_settle_joinTexts (nested : Bool) (items : List Item) :
    (allTexts (settle nested false false (joinTexts items))).filter keeps =
      items.flatMap (Item.kept keeps) := by
  rw [filter_allTexts_settle dropsSpace keepsLetter, flatMap_joinTexts]
  intro first second
  rw [Item.kept, String.toList_append, letters_append, List.flatMap_append]
  rfl

end Kept

/-! ## Fragments -/

/-- The node is no element but one that can be made and whose text flows. -/
def IsFlowing : Node → Prop
  | .element head children =>
    Node.element? head children = .ok (.element head children) ∧
      RawElement.ofTag? head.tag = none ∧ isPreformattedTag head.tag = false
  | .text _ | .comment _ => True

theorem eq_nil_of_isVoid {head : Head} {children : List Node}
    (made : Node.element? head children = .ok (.element head children))
    (isVoid : head.isVoid = true) : children = [] := by
  unfold Node.element? at made
  split at made
  · exact absurd made (by simp)
  · simpa [isVoid] using made

theorem normalItem?_element_of_isFlowing {head : Head} {children : List Node}
    (flowing : IsFlowing (.element head children)) (keepComments : Bool) :
    normalItem? keepComments false (.element head children) =
      some (.child (.element (tagName head.tag) (head.attributes.filterMap normalAttribute?)
        (settle true false false
          (joinTexts (children.filterMap (normalItem? keepComments false)))))) := by
  obtain ⟨made, notRaw, notPreformatted⟩ := flowing
  rw [normalItem?_element]
  simp only [notRaw, notPreformatted, normalItems_eq_filterMap, Bool.or_self, Option.isSome_none,
    Bool.false_eq_true, if_false]
  split
  · next isVoid =>
      rw [eq_nil_of_isVoid made isVoid]
      rfl
  · rfl

theorem flatMap_kept_filterMap {keeps : Char → Bool} (dropsSpace : keeps ' ' = false)
    (keepsLetter : ∀ c, isBlank c = false → keeps c = true) (keepComments : Bool)
    (nodes : List Node) (flowing : ∀ node ∈ Node.preorder nodes, IsFlowing node) :
    (nodes.filterMap (normalItem? keepComments false)).flatMap (Item.kept keeps) =
      (letters (Node.textContent nodes).toList).flatMap referTextChar := by
  induction nodes using Node.fragmentInduction with
  | nil => rfl
  | text content rest forRest =>
      rw [Node.preorder_cons, List.forall_mem_append] at flowing
      rw [List.filterMap_cons_some (normalItem?_text _ _ _), List.flatMap_cons,
        forRest flowing.2, Item.kept, Node.textContent_cons, Node.textContent_text,
        String.toList_append, letters_append, List.flatMap_append]
  | comment content rest forRest =>
      rw [Node.preorder_cons, List.forall_mem_append] at flowing
      rw [Node.textContent_cons, Node.textContent_comment, String.empty_append,
        ← forRest flowing.2]
      cases keepComments with
      | false => rw [List.filterMap_cons_none (normalItem?_comment _ _ _)]
      | true =>
          rw [List.filterMap_cons_some (normalItem?_comment _ _ _), List.flatMap_cons, Item.kept,
            texts_normalComment, List.filter_nil, List.nil_append]
  | element head children rest forChildren forRest =>
      rw [Node.preorder_cons, List.forall_mem_append, Node.preorder_element,
        List.forall_mem_cons] at flowing
      obtain ⟨⟨own, inChildren⟩, inRest⟩ := flowing
      rw [List.filterMap_cons_some (normalItem?_element_of_isFlowing own _), List.flatMap_cons,
        forRest inRest, Item.kept, Child.texts,
        filter_allTexts_settle_joinTexts dropsSpace keepsLetter, forChildren inChildren,
        Node.textContent_cons, Node.textContent_element, String.toList_append, letters_append,
        List.flatMap_append]

theorem preformattedTexts_eq_nil (keepComments : Bool) (nodes : List Node)
    (flowing : ∀ node ∈ Node.preorder nodes, IsFlowing node) :
    preformattedTexts keepComments nodes = [] := by
  rw [preformattedTexts]
  induction nodes using Node.fragmentInduction with
  | nil => rfl
  | text content rest forRest | comment content rest forRest =>
      rw [Node.preorder_cons, List.forall_mem_append] at flowing
      rw [preformattedTextsInAll, forRest flowing.2]
      rfl
  | element head children rest forChildren forRest =>
      rw [Node.preorder_cons, List.forall_mem_append, Node.preorder_element,
        List.forall_mem_cons] at flowing
      obtain ⟨⟨⟨_, _, notPreformatted⟩, inChildren⟩, inRest⟩ := flowing
      rw [preformattedTextsInAll, forRest inRest, preformattedTextsIn, notPreformatted]
      simp [forChildren inChildren]

/-! ## Blanks of markup -/

/-- A blank of HTML: a space, a tab, a form feed, or a character that ends a line. -/
def isMarkupBlank (c : Char) : Bool :=
  c = ' ' || c = '\t' || c = '\n' || c = '\x0c' || c = '\r'

/-- A text without the blanks of HTML. -/
def withoutMarkupBlanks (text : List Char) : List Char :=
  text.filter fun c => !isMarkupBlank c

theorem isBlank_of_isMarkupBlank {c : Char} (isMarkup : isMarkupBlank c = true) :
    isBlank c = true := by
  simp only [isMarkupBlank, Bool.or_eq_true, decide_eq_true_eq] at isMarkup
  rcases isMarkup with (((rfl | rfl) | rfl) | rfl) | rfl <;> decide

theorem not_isMarkupBlank {c : Char} (letter : isBlank c = false) :
    (!isMarkupBlank c) = true := by
  cases isMarkup : isMarkupBlank c with
  | false => rfl
  | true => exact absurd (isBlank_of_isMarkupBlank isMarkup) (by simp [letter])

theorem letters_sublist (text : List Char) : (letters text).Sublist (withoutMarkupBlanks text) :=
  List.monotone_filter_right text fun _ letter => not_isMarkupBlank (by simpa using letter)

/-- Without the one or the other blanks a text is the same only if it has no others than those of
HTML. -/
theorem flatMap_letters_eq_iff (text : List Char) :
    (letters text).flatMap referTextChar = (withoutMarkupBlanks text).flatMap referTextChar ↔
      ∀ c ∈ text, isBlank c = true → isMarkupBlank c = true := by
  induction text with
  | nil => simp [letters, withoutMarkupBlanks]
  | cons c text inductionHypothesis =>
      rw [List.forall_mem_cons, ← inductionHypothesis]
      cases blank : isBlank c with
      | false =>
          have notMarkup : isMarkupBlank c = false := by simpa using not_isMarkupBlank blank
          simp [letters, withoutMarkupBlanks, blank, notMarkup]
      | true =>
          cases isMarkup : isMarkupBlank c with
          | true => simp [letters, withoutMarkupBlanks, blank, isMarkup]
          | false =>
              have shorter := ((letters_sublist text).flatMap referTextChar).length_le
              have nonempty := List.length_pos_iff.mpr (referTextChar_ends c).2
              have longer : ((letters text).flatMap referTextChar).length <
                  (referTextChar c ++
                    (withoutMarkupBlanks text).flatMap referTextChar).length := by
                rw [List.length_append]
                omega
              have different : (letters text).flatMap referTextChar ≠
                  referTextChar c ++ (withoutMarkupBlanks text).flatMap referTextChar :=
                fun same => longer.ne (congrArg List.length same)
              simpa [letters, withoutMarkupBlanks, blank, isMarkup] using different

end JsxFragment.Jsx

namespace JsxFragment

open Jsx Text

/-- Of a fragment whose text flows all letters are written, and no other characters but blanks of
HTML. The text is as it was, but for blanks of HTML, if and only if it has no other blanks. -/
theorem texts_of_render {options : LayoutOptions} {nodes : List Node}
    (whole : ∀ size, options.indentSize ≠ .real size)
    (flowing : ∀ node ∈ Node.preorder nodes, IsFlowing node) :
    ∃ jsx tree, render options nodes = .ok jsx ∧
      StandsFor (· ∈ writtenTags nodes) jsx tree ∧
      (allHavePlainTags nodes = true → read? jsx = some tree) ∧
      withoutMarkupBlanks (allTexts tree) =
        (letters (Node.textContent nodes).toList).flatMap referTextChar ∧
      (withoutMarkupBlanks (allTexts tree) =
          (withoutMarkupBlanks (Node.textContent nodes).toList).flatMap referTextChar ↔
        ∀ c ∈ (Node.textContent nodes).toList, isBlank c = true → isMarkupBlank c = true) := by
  have short : ∀ text ∈ preformattedTexts options.keepsComments nodes,
      ¬HasOverlongDecimal text.toList := by
    simp [preformattedTexts_eq_nil _ nodes flowing]
  obtain ⟨jsx, written, standsFor, isRead⟩ := exists_render_of_short whole short
  have kept : withoutMarkupBlanks (allTexts (normalForm options.keepsComments nodes)) =
      (letters (Node.textContent nodes).toList).flatMap referTextChar := by
    rw [withoutMarkupBlanks, normalForm, normalItems_eq_filterMap,
      filter_allTexts_settle_joinTexts (by decide) (fun _ => not_isMarkupBlank),
      flatMap_kept_filterMap (by decide) (fun _ => not_isMarkupBlank) _ nodes flowing]
  refine ⟨jsx, _, written, standsFor, isRead, kept, ?_⟩
  rw [kept, flatMap_letters_eq_iff]

/-- A paragraph with a text on two lines, parted by a comment. -/
def commentedParagraph : List Node :=
  [.element { tag := "p" } [.text " a <b", .comment "c", .text "\n\td"]]

theorem texts_of_render_commentedParagraph :
    (∀ size, ({} : LayoutOptions).indentSize ≠ .real size) ∧
      (∀ node ∈ Node.preorder commentedParagraph, IsFlowing node) ∧
      ∃ jsx tree, render {} commentedParagraph = .ok jsx ∧ read? jsx = some tree ∧
        withoutMarkupBlanks (allTexts tree) = "a&lt;bd".toList := by
  have whole : ∀ size, ({} : LayoutOptions).indentSize ≠ .real size := nofun
  have flowing : ∀ node ∈ Node.preorder commentedParagraph, IsFlowing node := by
    have visited : Node.preorder commentedParagraph =
        commentedParagraph ++ [.text " a <b", .comment "c", .text "\n\td"] := rfl
    rw [visited, commentedParagraph, List.singleton_append, List.forall_mem_cons]
    refine ⟨⟨rfl, by decide, by decide⟩, ?_⟩
    simp [IsFlowing]
  obtain ⟨jsx, tree, written, _, isRead, kept, _⟩ := texts_of_render whole flowing
  refine ⟨whole, flowing, jsx, tree, written, isRead (by decide), ?_⟩
  rw [kept]
  decide

/-- A space that must not break the line is lost, as it is a blank of Unicode but none of HTML. -/
theorem not_texts_of_render_of_no_break_space :
    (∀ node ∈ Node.preorder [.text "a\u00a0b"], IsFlowing node) ∧
      render {} [.text "a\u00a0b"] = .ok "a b" ∧
      ∃ tree, read? "a b" = some tree ∧
        withoutMarkupBlanks (allTexts tree) ≠
          (withoutMarkupBlanks (Node.textContent [.text "a\u00a0b"]).toList).flatMap
            referTextChar := by
  have written : render {} [.text "a\u00a0b"] = .ok "a b" := by decide +kernel
  have whole : ∀ size, ({} : LayoutOptions).indentSize ≠ .real size := nofun
  have short : ∀ text ∈ preformattedTexts true [.text "a\u00a0b"],
      ¬HasOverlongDecimal text.toList := nofun
  obtain ⟨jsx, isJsx, _, isRead⟩ := exists_render_of_short whole short
  rw [written, Except.ok.injEq] at isJsx
  subst isJsx
  refine ⟨?_, written, _, isRead rfl, by decide⟩
  rw [Node.preorder_text, List.forall_mem_singleton]
  trivial

end JsxFragment
