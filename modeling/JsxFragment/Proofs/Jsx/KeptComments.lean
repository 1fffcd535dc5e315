import JsxFragment.Proofs.Jsx.Spacing

/-!
# What a kept comment changes

A comment that is kept parts the text that it stands in, and each part is laid out for itself. No
letter is lost or moved by that, unless a reference is cut; but a stretch of blanks may leave a
space where none of its parts does, or the other way round. Where neither is the case, the text that
is seen is the same with the comments and without them.
-/

namespace JsxFragment.Jsx

open Text

/-! ## Stretches -/

/-- A character of the texts among nodes, or a node that is no text. -/
inductive SourceMark where
  | char (c : Char)
  | comment
  | element

/-- The marks that nodes stand for. -/
def sourceMarks (nodes : List Node) : List SourceMark :=
  nodes.flatMap fun
    | .text content => content.toList.map .char
    | .comment _ => [.comment]
    | .element _ _ => [.element]

/-- A stretch of text between two edges, in the parts that the comments in it make. -/
structure Stretch where
  left : Edge
  parts : List (List Char)
  right : Edge
  deriving DecidableEq, Repr

/-- The text of a stretch without the comments. -/
def Stretch.whole (stretch : Stretch) : List Char :=
  stretch.parts.flatMap id

/-- The parts of a stretch, each with its references decoded. -/
def Stretch.decoded (stretch : Stretch) : List Char :=
  stretch.parts.flatMap Entity.decodeAll

/-- The stretches of such characters among marks, the comments included. Behind the edge there have
been these parts, and then this one, which has not ended. -/
def stretches (isLoose : Char → Bool) (left : Edge) (parts : List (List Char)) (part : List Char) :
    List SourceMark → List Stretch
  | [] => [{ left, parts := parts ++ [part], right := .margin }]
  | .char c :: rest =>
    if isLoose c then stretches isLoose left parts (part ++ [c]) rest
    else
      { left, parts := parts ++ [part], right := .letter } :: stretches isLoose .letter [] [] rest
  | .comment :: rest => stretches isLoose left (parts ++ [part]) [] rest
  | .element :: rest =>
    { left, parts := parts ++ [part], right := .block } :: stretches isLoose .block [] [] rest

/-- Whether one of these parts leaves a space. A comment between two of them is a block to both. -/
def leavesSome (nested : Bool) (left right : Edge) : List (List Char) → Bool
  | [] => false
  | [part] => leavesGap nested left right part
  | part :: rest => leavesGap nested left .block part || leavesSome nested .block right rest

/-- One of the parts of the stretch leaves a space if and only if the stretch does as a whole. At
the ends of the fragment it makes no difference. -/
def Stretch.KeepsSpace (nested : Bool) (stretch : Stretch) : Prop :=
  leavesSome nested stretch.left stretch.right stretch.parts =
      leavesGap nested stretch.left stretch.right stretch.whole ∨
    nested = false ∧ (stretch.left = .margin ∨ stretch.right = .margin)
  deriving Decidable

/-- No reference is cut by a comment: the parts of the stretch are decoded as the whole of it is. -/
def Stretch.KeepsReferences (stretch : Stretch) : Prop :=
  Entity.decodeAll stretch.whole = stretch.decoded
  deriving Decidable

/-! ## Marks with comments and without -/

/-- What the source stands for with its comments and without them. A comment that is kept is a block
without text; and the texts of an element look alike in this view. -/
inductive Parted (view : List Char → List Char) :
    List SourceMark → List Mark → List Mark → Prop
  | nil : Parted view [] [] []
  | char (c : Char) {source : List SourceMark} {kept dropped : List Mark}
      (others : Parted view source kept dropped) :
      Parted view (.char c :: source) (.char c :: kept) (.char c :: dropped)
  | comment {source : List SourceMark} {kept dropped : List Mark}
      (others : Parted view source kept dropped) :
      Parted view (.comment :: source) (.block [] :: kept) dropped
  | element {source : List SourceMark} {kept dropped : List Mark} {first second : List Char}
      (alike : view first = view second) (others : Parted view source kept dropped) :
      Parted view (.element :: source) (.block first :: kept) (.block second :: dropped)

/-- The edge before a part of a stretch that begins at this edge, behind these other parts. -/
def Edge.behind (left : Edge) (parts : List (List Char)) : Edge :=
  if parts.isEmpty then left else .block

theorem leavesSome_append_singleton (nested : Bool) (left right : Edge) (parts : List (List Char))
    (part : List Char) :
    leavesSome nested left right (parts ++ [part]) =
      (leavesSome nested left .block parts || leavesGap nested (left.behind parts) right part) := by
  induction parts generalizing left with
  | nil => rfl
  | cons first rest inductionHypothesis =>
      cases rest with
      | nil => rfl
      | cons second others =>
          have later := inductionHypothesis .block
          rw [List.cons_append] at later
          calc
            leavesSome nested left right (first :: second :: (others ++ [part]))
            _ = (leavesGap nested left .block first
                  || leavesSome nested .block right (second :: (others ++ [part]))) := rfl
            _ = (leavesSome nested left .block (first :: second :: others)
                  || leavesGap nested .block right part) := by
              rw [later, ← Bool.or_assoc]
              rfl

/-- The spaces that parts of a stretch have left, each behind a comment that ends it. -/
structure AreLeft (nested : Bool) (left : Edge) (parts : List (List Char)) (spaces : List Char) :
    Prop where
  blank : ∀ c ∈ spaces, isBlank c = true
  isEmpty : spaces.isEmpty = !leavesSome nested left .block parts

theorem blank_of_mem_gap {nested : Bool} {left right : Edge} {blanks : List Char} :
    ∀ c ∈ gap nested left right blanks, isBlank c = true := by
  unfold gap
  split
  · exact List.forall_mem_singleton.mpr isBlank_space
  · simp

theorem isEmpty_gap (nested : Bool) (left right : Edge) (blanks : List Char) :
    (gap nested left right blanks).isEmpty = !leavesGap nested left right blanks := by
  unfold gap
  cases leavesGap nested left right blanks <;> rfl

theorem isEmpty_append (first second : List Char) :
    (first ++ second).isEmpty = (first.isEmpty && second.isEmpty) := by
  cases first <;> simp

theorem areLeft_nil (nested : Bool) (left : Edge) : AreLeft nested left [] [] :=
  ⟨by simp, rfl⟩

theorem AreLeft.append {nested : Bool} {left : Edge} {parts : List (List Char)}
    {spaces : List Char} (areLeft : AreLeft nested left parts spaces) (part : List Char) :
    AreLeft nested left (parts ++ [part])
      (spaces ++ gap nested (left.behind parts) .block part) where
  blank := List.forall_mem_append.mpr ⟨areLeft.blank, blank_of_mem_gap⟩
  isEmpty := by
    rw [leavesSome_append_singleton, isEmpty_append, areLeft.isEmpty, isEmpty_gap,
      Bool.not_or]

/-- The space beyond an end of the fragment, where what is seen is trimmed. -/
def padding (nested : Bool) (edge : Edge) : List Char :=
  if !nested && edge = .margin then [' '] else []

@[simp]
theorem padding_letter (nested : Bool) : padding nested .letter = [] := by
  simp [padding]

@[simp]
theorem padding_block (nested : Bool) : padding nested .block = [] := by
  simp [padding]

theorem blank_of_mem_padding {nested : Bool} {edge : Edge} :
    ∀ c ∈ padding nested edge, isBlank c = true := by
  unfold padding
  split
  · exact List.forall_mem_singleton.mpr isBlank_space
  · simp

/-- The parts of a stretch that keeps its space look like the whole of it. -/
theorem collapseBlanks_gap {nested : Bool} {left right : Edge} {parts : List (List Char)}
    {part spaces : List Char} (areLeft : AreLeft nested left parts spaces)
    (keeps : Stretch.KeepsSpace nested { left, parts := parts ++ [part], right }) :
    collapseBlanks (padding nested left
        ++ (spaces ++ (gap nested (left.behind parts) right part ++ padding nested right))) =
      collapseBlanks (padding nested left
        ++ (gap nested left right ((parts ++ [part]).flatMap id) ++ padding nested right)) := by
  have blank := areLeft.blank
  rw [collapseBlanks_of_blank, collapseBlanks_of_blank]
  · have same :
        (padding nested left ++ (spaces
            ++ (gap nested (left.behind parts) right part ++ padding nested right))).isEmpty =
          (padding nested left ++ (gap nested left right ((parts ++ [part]).flatMap id)
            ++ padding nested right)).isEmpty := by
      simp only [isEmpty_append, isEmpty_gap, areLeft.isEmpty]
      rcases keeps with same | ⟨isOuter, atEnd⟩
      · rw [Stretch.whole] at same
        rw [← same, leavesSome_append_singleton, Bool.not_or, Bool.and_assoc]
      · rcases atEnd with rfl | rfl <;> simp [padding, isOuter]
    rw [same]
  · simp only [List.forall_mem_append]
    exact ⟨blank_of_mem_padding, blank_of_mem_gap, blank_of_mem_padding⟩
  · simp only [List.forall_mem_append]
    exact ⟨blank_of_mem_padding, blank, blank_of_mem_gap, blank_of_mem_padding⟩

/-! ## Two layouts of the same siblings -/

/-- Texts look alike in this view if their parts do. -/
def IsCongruence (view : List Char → List Char) : Prop :=
  ∀ {first second others following : List Char}, view first = view others →
    view second = view following → view (first ++ second) = view (others ++ following)

theorem isCongruence_collapseBlanks : IsCongruence collapseBlanks :=
  collapseBlanks_append_congr

theorem isCongruence_letters : IsCongruence letters := by
  intro first second others following same sameAfter
  rw [letters_append, letters_append, same, sameAfter]

section Siblings

variable {source : List SourceMark} {kept dropped : List Mark}

/-- Text that flows looks the same with the comments in it and without them, if all stretches keep
their spaces. What has been read of a stretch are these parts and this one, which has not ended. -/
theorem Parted.collapseBlanks_spell {nested : Bool}
    (parted : Parted collapseBlanks source kept dropped) :
    ∀ {left : Edge} {parts : List (List Char)} {part spaces : List Char},
      AreLeft nested left parts spaces →
      (∀ stretch ∈ stretches isBlank left parts part source, stretch.KeepsSpace nested) →
      collapseBlanks (padding nested left
          ++ (spaces ++ (spell nested (left.behind parts) part kept
            ++ padding nested .margin))) =
        collapseBlanks (padding nested left
          ++ (spell nested left ((parts ++ [part]).flatMap id) dropped
            ++ padding nested .margin)) := by
  induction parted with
  | nil =>
      intro left parts part spaces areLeft keeps
      rw [stretches, List.forall_mem_singleton] at keeps
      exact collapseBlanks_gap areLeft keeps
  | char c _ inductionHypothesis =>
      intro left parts part spaces areLeft keeps
      rw [stretches] at keeps
      rw [spell, spell]
      split
      · next blank =>
          rw [if_pos blank] at keeps
          have later := inductionHypothesis areLeft keeps
          simpa using later
      · next letter =>
          rw [if_neg letter, List.forall_mem_cons] at keeps
          have before := collapseBlanks_gap areLeft keeps.1
          have later := inductionHypothesis (areLeft_nil nested .letter) keeps.2
          have whole := collapseBlanks_append_congr
            (collapseBlanks_append_congr before (Eq.refl (collapseBlanks (referTextChar c)))) later
          simpa [Edge.behind] using whole
  | comment _ inductionHypothesis =>
      intro left parts part spaces areLeft keeps
      have later := inductionHypothesis (areLeft.append part) keeps
      simpa [Edge.behind, spell] using later
  | element alike _ inductionHypothesis =>
      intro left parts part spaces areLeft keeps
      rw [stretches, List.forall_mem_cons] at keeps
      have before := collapseBlanks_gap areLeft keeps.1
      have later := inductionHypothesis (areLeft_nil nested .block) keeps.2
      have whole := collapseBlanks_append_congr (collapseBlanks_append_congr before alike) later
      simpa [Edge.behind, spell] using whole

theorem Stretch.KeepsReferences.decodeAll_eq {left right : Edge} {parts : List (List Char)}
    {part : List Char}
    (keeps : Stretch.KeepsReferences { left, parts := parts ++ [part], right }) :
    Entity.decodeAll ((parts ++ [part]).flatMap id) =
      parts.flatMap Entity.decodeAll ++ Entity.decodeAll part := by
  simpa [Stretch.KeepsReferences, Stretch.whole, Stretch.decoded] using keeps

/-- Preformatted text looks the same with the comments in it and without them, if they cut no
reference. -/
theorem Parted.view_spellDecoded {view : List Char → List Char}
    (congruent : IsCongruence view) (parted : Parted view source kept dropped) :
    ∀ {left : Edge} {parts : List (List Char)} {part : List Char},
      (∀ stretch ∈ stretches (fun _ => true) left parts part source, stretch.KeepsReferences) →
      view (parts.flatMap Entity.decodeAll ++ spellDecoded part kept) =
        view (spellDecoded ((parts ++ [part]).flatMap id) dropped) := by
  induction parted with
  | nil =>
      intro left parts part keeps
      rw [stretches, List.forall_mem_singleton] at keeps
      rw [spellDecoded, spellDecoded, keeps.decodeAll_eq]
  | char c _ inductionHypothesis =>
      intro left parts part keeps
      have later := inductionHypothesis keeps
      simpa [spellDecoded] using later
  | comment _ inductionHypothesis =>
      intro left parts part keeps
      have later := inductionHypothesis keeps
      simpa [spellDecoded] using later
  | element alike _ inductionHypothesis =>
      intro left parts part keeps
      rw [stretches, List.forall_mem_cons] at keeps
      have later := inductionHypothesis keeps.2
      rw [List.flatMap_nil, List.nil_append] at later
      rw [spellDecoded, spellDecoded, keeps.1.decodeAll_eq, ← List.append_assoc,
        ← List.append_assoc]
      exact congruent (congruent rfl alike) later

end Siblings

/-! ## Nodes -/

/-- The texts of the element that a node is, laid out with the comments and without them, look alike
in this view. -/
def TextsAlike (view : List Char → List Char) (preformatted : Bool) (node : Node) : Prop :=
  ∀ kept dropped, normalItem? true preformatted node = some (.child kept) →
    normalItem? false preformatted node = some (.child dropped) →
    view kept.texts = view dropped.texts

theorem parted_flatMap_marks {view : List Char → List Char} (preformatted : Bool)
    {nodes : List Node} (alike : ∀ node ∈ nodes, TextsAlike view preformatted node) :
    Parted view (sourceMarks nodes)
      ((nodes.filterMap (normalItem? true preformatted)).flatMap Item.marks)
      ((nodes.filterMap (normalItem? false preformatted)).flatMap Item.marks) := by
  induction nodes with
  | nil => exact .nil
  | cons node rest inductionHypothesis =>
      obtain ⟨own, inRest⟩ := List.forall_mem_cons.mp alike
      have others := inductionHypothesis inRest
      rw [sourceMarks, List.flatMap_cons, ← sourceMarks]
      cases node with
      | text content =>
          rw [List.filterMap_cons_some (normalItem?_text _ _ _),
            List.filterMap_cons_some (normalItem?_text _ _ _), List.flatMap_cons,
            List.flatMap_cons, Item.marks]
          dsimp only
          induction content.toList with
          | nil => exact others
          | cons c content further => exact .char c further
      | comment content =>
          rw [List.filterMap_cons_some (normalItem?_comment _ _ _),
            List.filterMap_cons_none (normalItem?_comment _ _ _), List.flatMap_cons, Item.marks,
            texts_normalComment]
          exact .comment others
      | element head children =>
          rw [List.filterMap_cons_some (normalItem?_element _ _ _ _),
            List.filterMap_cons_some (normalItem?_element _ _ _ _), List.flatMap_cons,
            List.flatMap_cons, Item.marks, Item.marks]
          exact .element (own _ _ (normalItem?_element _ _ _ _) (normalItem?_element _ _ _ _))
            others

theorem flatMap_kept_of_textsAlike {nodes : List Node}
    (alike : ∀ node ∈ nodes, TextsAlike letters false node) :
    (nodes.filterMap (normalItem? true false)).flatMap (Item.kept fun c => !isBlank c) =
      (nodes.filterMap (normalItem? false false)).flatMap (Item.kept fun c => !isBlank c) := by
  induction nodes with
  | nil => rfl
  | cons node rest inductionHypothesis =>
      obtain ⟨own, inRest⟩ := List.forall_mem_cons.mp alike
      have others := inductionHypothesis inRest
      cases node with
      | text content =>
          rw [List.filterMap_cons_some (normalItem?_text _ _ _),
            List.filterMap_cons_some (normalItem?_text _ _ _), List.flatMap_cons,
            List.flatMap_cons, others]
      | comment content =>
          rw [List.filterMap_cons_some (normalItem?_comment _ _ _),
            List.filterMap_cons_none (normalItem?_comment _ _ _), List.flatMap_cons, Item.kept,
            texts_normalComment, List.filter_nil, List.nil_append, others]
      | element head children =>
          have same := own _ _ (normalItem?_element _ _ _ _) (normalItem?_element _ _ _ _)
          rw [List.filterMap_cons_some (normalItem?_element _ _ _ _),
            List.filterMap_cons_some (normalItem?_element _ _ _ _), List.flatMap_cons,
            List.flatMap_cons, others]
          exact congrArg (· ++ _) same

/-! ## Lists of siblings -/

/-- Nodes that are laid out as siblings, with where they stand. -/
structure SiblingList where
  /-- The nodes are the content of an element. -/
  nested : Bool
  preformatted : Bool
  nodes : List Node

mutual

/-- The lists of siblings in a node, in document order. -/
def siblingListsIn (preformatted : Bool) : Node → List SiblingList
  | .element head children =>
    if head.isVoid || (RawElement.ofTag? head.tag).isSome then []
    else
      let within := preformatted || isPreformattedTag head.tag
      { nested := true, preformatted := within, nodes := children }
        :: siblingListsInAll within children
  | .text _ | .comment _ => []

/-- The lists of siblings in the nodes of a list. -/
def siblingListsInAll (preformatted : Bool) : List Node → List SiblingList
  | [] => []
  | node :: rest => siblingListsIn preformatted node ++ siblingListsInAll preformatted rest

end

/-- The lists of siblings of a fragment, from the outermost one on. -/
def siblingLists (nodes : List Node) : List SiblingList :=
  { nested := false, preformatted := false, nodes } :: siblingListsInAll false nodes

namespace SiblingList

variable (siblings : SiblingList)

/-- The texts of siblings in normal form. -/
def texts (keepComments : Bool) : List Char :=
  allTexts (settle siblings.nested siblings.preformatted false
    (joinTexts (normalItems keepComments siblings.preformatted siblings.nodes)))

/-- No comment cuts a reference that is decoded. -/
def KeepsReferences : Prop :=
  siblings.preformatted = true →
    ∀ stretch ∈ stretches (fun _ => true) .margin [] [] (sourceMarks siblings.nodes),
      stretch.KeepsReferences
  deriving Decidable

/-- Where text flows, none is empty, and the stretches of blanks keep their spaces. -/
def KeepsSpaces : Prop :=
  siblings.preformatted = false →
    (∀ node ∈ siblings.nodes, node.text? ≠ some "") ∧
      ∀ stretch ∈ stretches isBlank .margin [] [] (sourceMarks siblings.nodes),
        stretch.KeepsSpace siblings.nested
  deriving Decidable

variable {siblings}

theorem texts_of_flow (flows : siblings.preformatted = false)
    (noneEmpty : ∀ node ∈ siblings.nodes, node.text? ≠ some "") (keepComments : Bool) :
    siblings.texts keepComments =
      spell siblings.nested .margin []
        ((siblings.nodes.filterMap (normalItem? keepComments false)).flatMap Item.marks) := by
  have itemsNotEmpty : ∀ item ∈ siblings.nodes.filterMap (normalItem? keepComments false),
      item ≠ .text "" := by
    intro item member empty
    obtain ⟨node, isNode, isItem⟩ := List.mem_filterMap.mp member
    rw [empty] at isItem
    cases node with
    | text content =>
        rw [normalItem?_text, Option.some.injEq, Item.text.injEq] at isItem
        exact noneEmpty _ isNode (by rw [isItem]; rfl)
    | comment content => simp at isItem
    | element head children => simp [normalItem?_element] at isItem
  rw [texts, flows, normalItems_eq_filterMap,
    allTexts_settle_eq_spell _ (alternates_joinTexts _) (ne_empty_of_mem_joinTexts itemsNotEmpty),
    flatMap_marks_joinTexts]
  rfl

theorem texts_of_preformatted (preformatted : siblings.preformatted = true) (keepComments : Bool) :
    siblings.texts keepComments =
      spellDecoded []
        ((siblings.nodes.filterMap (normalItem? keepComments true)).flatMap Item.marks) := by
  rw [texts, preformatted, normalItems_eq_filterMap,
    allTexts_settle_eq_spellDecoded _ (alternates_joinTexts _), flatMap_marks_joinTexts]

theorem view_texts_of_preformatted {view : List Char → List Char} (congruent : IsCongruence view)
    (preformatted : siblings.preformatted = true) (uncut : siblings.KeepsReferences)
    (alike : ∀ node ∈ siblings.nodes, TextsAlike view siblings.preformatted node) :
    view (siblings.texts true) = view (siblings.texts false) := by
  rw [preformatted] at alike
  rw [texts_of_preformatted preformatted, texts_of_preformatted preformatted]
  exact (parted_flatMap_marks true alike).view_spellDecoded congruent (uncut preformatted)

/-- The texts of siblings have the same letters with the comments and without them. -/
theorem letters_texts (uncut : siblings.KeepsReferences)
    (alike : ∀ node ∈ siblings.nodes, TextsAlike letters siblings.preformatted node) :
    letters (siblings.texts true) = letters (siblings.texts false) := by
  cases preformatted : siblings.preformatted with
  | true => exact view_texts_of_preformatted isCongruence_letters preformatted uncut alike
  | false =>
      have kept (keepComments : Bool) : letters (siblings.texts keepComments) =
          (siblings.nodes.filterMap (normalItem? keepComments false)).flatMap
            (Item.kept fun c => !isBlank c) := by
        rw [texts, preformatted, normalItems_eq_filterMap, letters,
          filter_allTexts_settle_joinTexts (by decide) (by simp)]
      rw [preformatted] at alike
      rw [kept, kept, flatMap_kept_of_textsAlike alike]

/-- The texts of siblings look the same with the comments and without them, where they are seen. -/
theorem collapseBlanks_texts (uncut : siblings.KeepsReferences) (keeps : siblings.KeepsSpaces)
    (alike : ∀ node ∈ siblings.nodes, TextsAlike collapseBlanks siblings.preformatted node) :
    collapseBlanks (padding siblings.nested .margin
        ++ (siblings.texts true ++ padding siblings.nested .margin)) =
      collapseBlanks (padding siblings.nested .margin
        ++ (siblings.texts false ++ padding siblings.nested .margin)) := by
  cases preformatted : siblings.preformatted with
  | true =>
      have same := view_texts_of_preformatted isCongruence_collapseBlanks preformatted uncut alike
      exact collapseBlanks_append_congr rfl (collapseBlanks_append_congr same rfl)
  | false =>
      obtain ⟨noneEmpty, keepSpaces⟩ := keeps preformatted
      rw [preformatted] at alike
      rw [texts_of_flow preformatted noneEmpty, texts_of_flow preformatted noneEmpty]
      exact (parted_flatMap_marks false alike).collapseBlanks_spell (areLeft_nil _ _) keepSpaces

end SiblingList

/-! ## Fragments -/

/-- If all lists of siblings in the nodes look alike as soon as the elements in them do, then so do
all elements. -/
theorem textsAlike_of_siblingLists {view : List Char → List Char} {holds : SiblingList → Prop}
    (step : ∀ siblings, siblings.nested = true → holds siblings →
      (∀ node ∈ siblings.nodes, TextsAlike view siblings.preformatted node) →
      view (siblings.texts true) = view (siblings.texts false))
    (nodes : List Node) :
    ∀ preformatted, (∀ siblings ∈ siblingListsInAll preformatted nodes, holds siblings) →
      ∀ node ∈ nodes, TextsAlike view preformatted node := by
  induction nodes using Node.fragmentInduction with
  | nil => simp
  | text content rest forRest =>
      intro preformatted hold
      refine List.forall_mem_cons.mpr ⟨?_, forRest preformatted hold⟩
      intro kept dropped isKept
      simp at isKept
  | comment content rest forRest =>
      intro preformatted hold
      refine List.forall_mem_cons.mpr ⟨?_, forRest preformatted hold⟩
      intro kept dropped _ isDropped
      simp at isDropped
  | element head children rest forChildren forRest =>
      intro preformatted hold
      rw [siblingListsInAll, siblingListsIn, List.forall_mem_append] at hold
      obtain ⟨inElement, inRest⟩ := hold
      refine List.forall_mem_cons.mpr ⟨?_, forRest preformatted inRest⟩
      intro kept dropped isKept isDropped
      rw [normalItem?_element, Option.some.injEq, Item.child.injEq] at isKept isDropped
      subst isKept isDropped
      rw [Child.texts, Child.texts]
      by_cases isVoid : head.isVoid = true
      · rw [if_pos isVoid, if_pos isVoid]
      by_cases isRaw : (RawElement.ofTag? head.tag).isSome = true
      · rw [if_neg isVoid, if_neg isVoid, if_pos isRaw, if_pos isRaw]
      rw [if_neg (by simp [isVoid, isRaw]), List.forall_mem_cons] at inElement
      rw [if_neg isVoid, if_neg isVoid, if_neg isRaw, if_neg isRaw]
      exact step _ rfl inElement.1 (forChildren _ inElement.2)

/-- The text of a tree as it is seen: runs of blanks count as one space, and none at the ends. -/
def visibleText (tree : List Child) : List Char :=
  trim (collapseBlanks (allTexts tree))

end JsxFragment.Jsx

namespace JsxFragment

open Jsx Text

/-- Whether comments are kept changes no letter of the text that is seen, and no space either where
every stretch of blanks keeps its own. -/
theorem visibleText_of_render {options : LayoutOptions} {nodes : List Node}
    (whole : ∀ size, options.indentSize ≠ .real size)
    (short : ∀ keepComments, ∀ text ∈ preformattedTexts keepComments nodes,
      ¬HasOverlongDecimal text.toList)
    (uncut : ∀ siblings ∈ siblingLists nodes, siblings.KeepsReferences) :
    ∃ (jsx : Bool → String) (tree : Bool → List Child),
      (∀ keepComments,
        render { options with preserveComments := .bool keepComments } nodes =
            .ok (jsx keepComments) ∧
          StandsFor (· ∈ writtenTags nodes) (jsx keepComments) (tree keepComments) ∧
          (allHavePlainTags nodes = true → read? (jsx keepComments) = some (tree keepComments))) ∧
      letters (allTexts (tree true)) = letters (allTexts (tree false)) ∧
      ((∀ siblings ∈ siblingLists nodes, siblings.KeepsSpaces) →
        visibleText (tree true) = visibleText (tree false)) := by
  have layout (keepComments : Bool) :
      ∃ jsx, render { options with preserveComments := .bool keepComments } nodes = .ok jsx ∧
        StandsFor (· ∈ writtenTags nodes) jsx (normalForm keepComments nodes) ∧
        (allHavePlainTags nodes = true → read? jsx = some (normalForm keepComments nodes)) :=
    @exists_render_of_short { options with preserveComments := .bool keepComments } nodes whole
      (short keepComments)
  obtain ⟨jsx, written⟩ := Classical.axiomOfChoice layout
  rw [siblingLists, List.forall_mem_cons] at uncut
  obtain ⟨uncutOutside, uncutInside⟩ := uncut
  refine ⟨jsx, fun keepComments => normalForm keepComments nodes, written, ?_, ?_⟩
  · have elements := textsAlike_of_siblingLists
      (fun _ _ uncutIn alike => SiblingList.letters_texts uncutIn alike) nodes false uncutInside
    exact SiblingList.letters_texts uncutOutside elements
  · intro keeps
    rw [siblingLists, List.forall_mem_cons] at keeps
    obtain ⟨keepsOutside, keepsInside⟩ := keeps
    have step (siblings : SiblingList) (isNested : siblings.nested = true)
        (holds : siblings.KeepsReferences ∧ siblings.KeepsSpaces)
        (alike : ∀ node ∈ siblings.nodes, TextsAlike collapseBlanks siblings.preformatted node) :
        collapseBlanks (siblings.texts true) = collapseBlanks (siblings.texts false) := by
      have padded := SiblingList.collapseBlanks_texts holds.1 holds.2 alike
      simpa [padding, isNested] using padded
    have elements := textsAlike_of_siblingLists step nodes false
      fun siblings member => ⟨uncutInside siblings member, keepsInside siblings member⟩
    have padded := SiblingList.collapseBlanks_texts uncutOutside keepsOutside elements
    rw [visibleText, visibleText, ← trim_collapseBlanks_between_spaces,
      ← trim_collapseBlanks_between_spaces (allTexts (normalForm false nodes))]
    exact congrArg trim padded

/-- A paragraph and preformatted text, each with a comment in it. -/
def commentedFragment : List Node :=
  [.element { tag := "p" } [.text "a ", .comment "c", .text "\n b"],
    .element { tag := "pre" } [.text "x\n", .comment "d", .text "y"]]

theorem visibleText_of_render_commentedFragment :
    (∀ size, ({} : LayoutOptions).indentSize ≠ .real size) ∧
      (∀ keepComments, ∀ text ∈ preformattedTexts keepComments commentedFragment,
        ¬HasOverlongDecimal text.toList) ∧
      (∀ siblings ∈ siblingLists commentedFragment, siblings.KeepsReferences) ∧
      (∀ siblings ∈ siblingLists commentedFragment, siblings.KeepsSpaces) ∧
      ∃ (jsx : Bool → String) (tree : Bool → List Child),
        (∀ keepComments,
          render { preserveComments := .bool keepComments } commentedFragment =
              .ok (jsx keepComments) ∧
            read? (jsx keepComments) = some (tree keepComments)) ∧
        visibleText (tree true) = visibleText (tree false) := by
  have whole : ∀ size, ({} : LayoutOptions).indentSize ≠ .real size := nofun
  have short : ∀ keepComments, ∀ text ∈ preformattedTexts keepComments commentedFragment,
      ¬HasOverlongDecimal text.toList := by
    simp only [← overlongDecimal?_eq_none_iff]
    decide
  have uncut : ∀ siblings ∈ siblingLists commentedFragment, siblings.KeepsReferences := by
    decide +kernel
  have keeps : ∀ siblings ∈ siblingLists commentedFragment, siblings.KeepsSpaces := by
    decide +kernel
  obtain ⟨jsx, tree, written, _, same⟩ := visibleText_of_render whole short uncut
  exact ⟨whole, short, uncut, keeps, jsx, tree,
    fun keepComments => ⟨(written keepComments).1, (written keepComments).2.2 (by decide)⟩,
    same keeps⟩

/-- A line end between two words counts for nothing beside a comment, but for a space where the
comment is dropped. -/
theorem visibleText_ne_of_comment_behind_line_end :
    ∃ keptTree droppedTree,
      render {} [.text "a\n", .comment "c", .text "b"] =
          .ok "<>\n  a\n  \x7b/* c */\x7d\n  b\n</>" ∧
        read? "<>\n  a\n  \x7b/* c */\x7d\n  b\n</>" = some keptTree ∧
        visibleText keptTree = "ab".toList ∧
        render { preserveComments := .bool false } [.text "a\n", .comment "c", .text "b"] =
          .ok "a b" ∧
        read? "a b" = some droppedTree ∧ visibleText droppedTree = "a b".toList := by
  have kept : render {} [.text "a\n", .comment "c", .text "b"] =
      .ok "<>\n  a\n  \x7b/* c */\x7d\n  b\n</>" := by decide +kernel
  have dropped : render { preserveComments := .bool false }
      [.text "a\n", .comment "c", .text "b"] = .ok "a b" := by decide +kernel
  have whole : ∀ size, ({} : LayoutOptions).indentSize ≠ .real size := nofun
  have wholeDropped : ∀ size,
      ({ preserveComments := .bool false } : LayoutOptions).indentSize ≠ .real size := nofun
  obtain ⟨keptJsx, isKept, _, keptRead⟩ :=
    @exists_render_of_short {} [.text "a\n", .comment "c", .text "b"] whole nofun
  obtain ⟨droppedJsx, isDropped, _, droppedRead⟩ :=
    @exists_render_of_short { preserveComments := .bool false }
      [.text "a\n", .comment "c", .text "b"] wholeDropped nofun
  rw [kept, Except.ok.injEq] at isKept
  rw [dropped, Except.ok.injEq] at isDropped
  subst isKept isDropped
  exact ⟨_, _, kept, keptRead rfl, by decide +kernel, dropped, droppedRead rfl, by decide +kernel⟩

end JsxFragment
