import JsxFragment.Proofs.Jsx.Letters

/-!
# Where spaces stand

Where text flows, whether blanks leave a space depends on what stands at their two ends and on
whether there is a line end among them. The texts of siblings in normal form are their letters and
the texts of their elements, with these spaces between them.
-/

namespace JsxFragment.Jsx

open Text

/-! ## Spaces -/

/-- What stands at an end of blanks: the end of the siblings, a letter of the same text, or a
sibling that is no text. -/
inductive Edge where
  | margin
  | letter
  | block
  deriving DecidableEq, Repr

/-- Whether blanks between these edges leave a space. They do between two letters. Elsewhere they do
if they separate, but at an end of the siblings only if they are all the content of an element. -/
def leavesGap (nested : Bool) (left right : Edge) (blanks : List Char) : Bool :=
  match left, right with
  | .letter, .letter => !blanks.isEmpty
  | .margin, .margin => nested && separates blanks
  | .margin, _ | _, .margin => false
  | _, _ => separates blanks

/-- The space that blanks leave between these edges. -/
def gap (nested : Bool) (left right : Edge) (blanks : List Char) : List Char :=
  if leavesGap nested left right blanks then [' '] else []

theorem gap_nil (nested : Bool) (left right : Edge) : gap nested left right [] = [] := by
  cases left <;> cases right <;> cases nested <;> rfl

/-- A character of the texts among siblings, or the texts in a sibling that is no text. -/
inductive Mark where
  | char (c : Char)
  | block (texts : List Char)

/-- The texts of siblings, behind blanks that stand after this edge. -/
def spell (nested : Bool) (left : Edge) (blanks : List Char) : List Mark → List Char
  | [] => gap nested left .margin blanks
  | .char c :: rest =>
    if isBlank c then spell nested left (blanks ++ [c]) rest
    else gap nested left .letter blanks ++ referTextChar c ++ spell nested .letter [] rest
  | .block texts :: rest => gap nested left .block blanks ++ texts ++ spell nested .block [] rest

/-! ## Texts -/

/-- The edge at the end of a text that these marks follow. -/
def edgeBefore : List Mark → Edge
  | [] => .margin
  | .char _ :: _ => .letter
  | .block _ :: _ => .block

section Text

variable (nested : Bool) {marks : List Mark} (ends : edgeBefore marks ≠ .letter)

include ends

theorem spell_eq_gap_append (left : Edge) (blanks : List Char) :
    spell nested left blanks marks =
      gap nested left (edgeBefore marks) blanks ++ spell nested .block [] marks := by
  cases marks with
  | nil => rw [spell, spell, gap_nil, List.append_nil]; rfl
  | cons mark rest =>
      cases mark with
      | char c => exact absurd rfl ends
      | block texts => rw [spell, spell, gap_nil, List.nil_append, List.append_assoc]; rfl

/-- The rest of a text, of which a letter and then these blanks have been read. -/
theorem spell_behind_letter (content : List Char) : ∀ {blanks : List Char},
    (∀ c ∈ blanks, isBlank c = true) →
    spell nested .letter blanks (content.map .char ++ marks) =
      (trimEnd (collapseBlanks (blanks ++ content))).flatMap referTextChar
        ++ (gap nested .letter (edgeBefore marks) (trailingBlanks (blanks ++ content))
          ++ spell nested .block [] marks) := by
  induction content with
  | nil =>
      intro blanks blank
      have collapsed : ∀ c ∈ collapseBlanks blanks, isBlank c = true := by
        rw [collapseBlanks_of_blank blank]
        split
        · simp
        · exact List.forall_mem_singleton.mpr isBlank_space
      rw [List.append_nil, trimEnd_of_blank collapsed, trailingBlanks_of_blank blank]
      exact spell_eq_gap_append nested ends .letter blanks
  | cons c content inductionHypothesis =>
      intro blanks blank
      rw [List.map_cons, List.cons_append, spell]
      split
      · next isBlank =>
          rw [inductionHypothesis (List.forall_mem_append.mpr ⟨blank, by simpa using isBlank⟩),
            List.append_assoc, List.singleton_append]
      · next isLetter =>
          have letter : isBlank c = false := by simpa using isLetter
          have between : gap nested .letter .letter blanks =
              (if blanks.isEmpty then [] else [' ']).flatMap referTextChar := by
            cases blanks <;> rfl
          rw [inductionHypothesis (by simp),
            collapseBlanks_append_cons_of_letter letter content blank,
            trimEnd_append_cons_of_letter letter, trailingBlanks_append_cons_of_letter letter,
            List.flatMap_append, List.flatMap_cons, between]
          simp only [List.append_assoc, List.nil_append]

/-- A text that is not all blanks is spelled as its body, with spaces before and after it. -/
theorem spell_text (left : Edge) (content : List Char) : ∀ {blanks : List Char},
    (∀ c ∈ blanks, isBlank c = true) → content.all isBlank = false →
    spell nested left blanks (content.map .char ++ marks) =
      gap nested left .letter (leadingBlanks (blanks ++ content))
        ++ (flowBody (blanks ++ content)
          ++ (gap nested .letter (edgeBefore marks) (trailingBlanks (blanks ++ content))
            ++ spell nested .block [] marks)) := by
  induction content with
  | nil => exact fun _ someLetter => absurd someLetter (by simp)
  | cons c content inductionHypothesis =>
      intro blanks blank someLetter
      rw [List.map_cons, List.cons_append, spell]
      split
      · next isBlank =>
          rw [inductionHypothesis (List.forall_mem_append.mpr ⟨blank, by simpa using isBlank⟩)
            (by simpa [isBlank] using someLetter), List.append_assoc, List.singleton_append]
      · next isLetter =>
          have letter : isBlank c = false := by simpa using isLetter
          have body : flowBody (blanks ++ c :: content) =
              referTextChar c ++ (trimEnd (collapseBlanks content)).flatMap referTextChar := by
            have started : trimStart ((if blanks.isEmpty then [] else [' '])
                ++ c :: collapseBlanks content) = c :: collapseBlanks content := by
              cases blanks <;> simp [trimStart, letter, isBlank_space]
            have ended := @trimEnd_append_cons_of_letter c letter [] (collapseBlanks content)
            rw [List.nil_append, List.nil_append] at ended
            rw [flowBody, collapseBlanks_append_cons_of_letter letter content blank, trim, started,
              ended, List.flatMap_cons]
          rw [spell_behind_letter nested ends content (by simp),
            leadingBlanks_append_cons_of_letter letter content blank,
            trailingBlanks_append_cons_of_letter letter, body]
          simp only [List.append_assoc, List.nil_append]

theorem spell_blanks (left : Edge) (content : List Char) : ∀ {blanks : List Char},
    content.all isBlank = true →
    spell nested left blanks (content.map .char ++ marks) =
      gap nested left (edgeBefore marks) (blanks ++ content) ++ spell nested .block [] marks := by
  induction content with
  | nil =>
      intro blanks _
      rw [List.append_nil]
      exact spell_eq_gap_append nested ends left blanks
  | cons c content inductionHypothesis =>
      intro blanks allBlank
      rw [List.all_cons, Bool.and_eq_true] at allBlank
      rw [List.map_cons, List.cons_append, spell, if_pos allBlank.1,
        inductionHypothesis allBlank.2, List.append_assoc, List.singleton_append]

end Text

/-- The edge at the beginning of a text. -/
def edgeAfter (hasPrevious : Bool) : Edge :=
  if hasPrevious then .block else .margin

/-- The text in normal form is what is spelled of it. -/
theorem spell_eq_normalFlow_append (place : Place) {content : List Char} (nonempty : content ≠ [])
    {marks : List Mark} (follows : edgeBefore marks = edgeAfter place.hasNext) :
    spell place.nested (edgeAfter place.hasPrevious) [] (content.map .char ++ marks) =
      normalFlow place content ++ spell place.nested .block [] marks := by
  have ends : edgeBefore marks ≠ .letter := by
    rw [follows, edgeAfter]
    split <;> simp
  obtain ⟨hasPrevious, hasNext, nested⟩ := place
  unfold normalFlow
  dsimp only at follows ⊢
  split
  · next allBlank =>
      rw [spell_blanks nested ends _ _ allBlank, List.nil_append, follows]
      congr 1
      have someBlank : content.isEmpty = false := by simpa using nonempty
      cases hasPrevious <;> cases hasNext <;> cases nested <;>
        simp [gap, leavesGap, edgeAfter, separates, someBlank]
  · next someLetter =>
      have before (blanks : List Char) : gap nested (edgeAfter hasPrevious) .letter blanks =
          edgeSpace hasPrevious blanks := by
        cases hasPrevious <;> rfl
      have behind (blanks : List Char) : gap nested .letter (edgeAfter hasNext) blanks =
          edgeSpace hasNext blanks := by
        cases hasNext <;> rfl
      rw [spell_text nested ends _ _ (by simp) (by simpa using someLetter), List.nil_append,
        follows, before, behind]
      simp only [List.append_assoc]

/-! ## Siblings -/

/-- The marks that an item stands for. -/
def Item.marks : Item → List Mark
  | .text content => content.toList.map .char
  | .child inner => [.block inner.texts]

theorem edgeBefore_flatMap_marks {items : List Item}
    (apart : ∀ item ∈ items.head?, item.isText = false) :
    edgeBefore (items.flatMap Item.marks) = edgeAfter (!items.isEmpty) := by
  cases items with
  | nil => rfl
  | cons next rest =>
      cases next with
      | child inner => rfl
      | text following => exact absurd (apart _ rfl) (by simp [Item.isText])

/-- The texts of siblings in normal form are what is spelled of them, if no text is empty. -/
theorem allTexts_settle_eq_spell (nested : Bool) {items : List Item}
    (alternates : Alternates items) (noneEmpty : ∀ item ∈ items, item ≠ .text "") :
    ∀ hasPrevious, allTexts (settle nested false hasPrevious items) =
      spell nested (edgeAfter hasPrevious) [] (items.flatMap Item.marks) := by
  induction items with
  | nil =>
      intro hasPrevious
      rw [List.flatMap_nil, spell, gap_nil]
      rfl
  | cons item items inductionHypothesis =>
      intro hasPrevious
      obtain ⟨headAlternates, restAlternates⟩ := List.isChain_cons.mp alternates
      obtain ⟨notEmpty, othersNotEmpty⟩ := List.forall_mem_cons.mp noneEmpty
      have others := inductionHypothesis restAlternates othersNotEmpty true
      rw [List.flatMap_cons]
      cases item with
      | child inner =>
          rw [settle, allTexts, others, Item.marks, List.singleton_append, spell, gap_nil]
          rfl
      | text content =>
          have follows := edgeBefore_flatMap_marks fun item head =>
            (headAlternates item head).resolve_left (by simp [Item.isText])
          have nonempty : content.toList ≠ [] := by simpa using notEmpty
          have spelled := spell_eq_normalFlow_append
            { hasPrevious, hasNext := !items.isEmpty, nested } nonempty follows
          rw [allTexts_settle_text, others, Item.marks, normalText, if_neg (by simp)]
          exact spelled.symm

/-- The texts of preformatted siblings, behind text that has been read already. A text ends at the
next sibling that is none, and is decoded as a whole. -/
def spellDecoded (before : List Char) : List Mark → List Char
  | [] => Entity.decodeAll before
  | .char c :: rest => spellDecoded (before ++ [c]) rest
  | .block texts :: rest => Entity.decodeAll before ++ texts ++ spellDecoded [] rest

theorem spellDecoded_text {marks : List Mark} (ends : edgeBefore marks ≠ .letter)
    (content : List Char) : ∀ before, spellDecoded before (content.map .char ++ marks) =
      Entity.decodeAll (before ++ content) ++ spellDecoded [] marks := by
  have nothing : Entity.decodeAll [] = [] := rfl
  induction content with
  | nil =>
      intro before
      rw [List.map_nil, List.nil_append, List.append_nil]
      cases marks with
      | nil => rw [spellDecoded, spellDecoded, nothing, List.append_nil]
      | cons mark rest =>
          cases mark with
          | char c => exact absurd rfl ends
          | block texts =>
              rw [spellDecoded, spellDecoded, nothing, List.nil_append, List.append_assoc]
  | cons c content inductionHypothesis =>
      intro before
      rw [List.map_cons, List.cons_append, spellDecoded, inductionHypothesis, List.append_assoc,
        List.singleton_append]

/-- The texts of preformatted siblings in normal form are what is spelled of them. -/
theorem allTexts_settle_eq_spellDecoded (nested : Bool) {items : List Item}
    (alternates : Alternates items) :
    ∀ hasPrevious, allTexts (settle nested true hasPrevious items) =
      spellDecoded [] (items.flatMap Item.marks) := by
  have nothing : Entity.decodeAll [] = [] := rfl
  induction items with
  | nil => exact fun _ => nothing
  | cons item items inductionHypothesis =>
      intro hasPrevious
      obtain ⟨headAlternates, restAlternates⟩ := List.isChain_cons.mp alternates
      have others := inductionHypothesis restAlternates true
      rw [List.flatMap_cons]
      cases item with
      | child inner =>
          rw [settle, allTexts, others, Item.marks, List.singleton_append, spellDecoded, nothing,
            List.nil_append]
      | text content =>
          have follows := edgeBefore_flatMap_marks fun item head =>
            (headAlternates item head).resolve_left (by simp [Item.isText])
          have ends : edgeBefore (items.flatMap Item.marks) ≠ .letter := by
            rw [follows, edgeAfter]
            split <;> simp
          rw [allTexts_settle_text, others, Item.marks, normalText, if_pos rfl,
            spellDecoded_text ends, List.nil_append]

/-- A text that is joined of others is empty only if they are. -/
theorem ne_empty_of_mem_joinTexts {items : List Item}
    (noneEmpty : ∀ item ∈ items, item ≠ .text "") :
    ∀ item ∈ joinTexts items, item ≠ .text "" := by
  induction items with
  | nil => simp [joinTexts]
  | cons item items inductionHypothesis =>
      obtain ⟨notEmpty, others⟩ := List.forall_mem_cons.mp noneEmpty
      have joinedNotEmpty := inductionHypothesis others
      rw [joinTexts_cons]
      split
      · next content next rest joined =>
          rw [joined, List.forall_mem_cons] at joinedNotEmpty
          refine List.forall_mem_cons.mpr ⟨?_, joinedNotEmpty.2⟩
          intro empty
          rw [Item.text.injEq, String.append_eq_empty_iff] at empty
          exact notEmpty (by rw [empty.1])
      · exact List.forall_mem_cons.mpr ⟨notEmpty, joinedNotEmpty⟩

theorem flatMap_marks_joinTexts (items : List Item) :
    (joinTexts items).flatMap Item.marks = items.flatMap Item.marks := by
  refine flatMap_joinTexts (fun first second => ?_) items
  rw [Item.marks, String.toList_append, List.map_append]
  rfl

end JsxFragment.Jsx
