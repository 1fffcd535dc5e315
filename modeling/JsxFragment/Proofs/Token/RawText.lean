import JsxFragment.Proofs.Token.TagReading

/-!
# Raw text

The lexer looks for the end tag of raw text from each `>` backwards. It finds the tag exactly where
one stands that closes the element, so raw text goes on to the first such tag.
-/

namespace JsxFragment

open Text

theorem isBlank_eq_false_of_isAsciiLetter {c : Char} (letter : isAsciiLetter c = true) :
    isBlank c = false :=
  (isTagNameChar_iff.mp (isTagNameChar_of_isAsciiLetter letter)).1

theorem isAsciiLetter_of_mem_name {element : RawElement} {letter : Char}
    (member : letter ∈ element.name.toList) : isAsciiLetter letter = true := by
  have letters : element.name.toList.all isAsciiLetter = true := by
    cases element <;> decide
  exact List.all_eq_true.mp letters letter member

theorem isBlank_eq_false_of_spells {letter c : Char} (isLetter : isAsciiLetter letter = true)
    (spelled : RawElement.spells letter c = true) : isBlank c = false := by
  simp only [RawElement.spells, Bool.or_eq_true, Bool.and_eq_true, decide_eq_true_eq] at spelled
  rcases spelled with (lowered | ⟨_, rfl⟩) | ⟨_, rfl | rfl⟩
  · unfold Char.toLower at lowered
    split at lowered
    · next upper =>
        have bounds : 65 ≤ c.toNat ∧ c.toNat ≤ 90 := upper
        apply isBlank_eq_false_of_isAsciiLetter
        simp [isAsciiLetter, bounds]
    · rw [lowered]
      exact isBlank_eq_false_of_isAsciiLetter isLetter
  · decide
  · decide
  · decide

namespace EndTag

/-- The tag names the element in some spelling, and has nothing but blanks beside the name. -/
structure Names (tag : EndTag) (element : RawElement) : Prop where
  name : List.Forall₂ (fun letter c => RawElement.spells letter c = true)
    element.name.toList tag.name
  ignored : ∀ c ∈ tag.ignored, isBlank c = true

theorem Closes.names {tag : EndTag} {element : RawElement} (closes : tag.Closes element) :
    tag.Names element where
  name := closes.name
  ignored := closes.ignored

theorem names_iff_all {tag : EndTag} {element : RawElement} :
    tag.Names element ↔
      (element.name.toList.length = tag.name.length ∧
        ((element.name.toList.zip tag.name).all fun pair => RawElement.spells pair.1 pair.2) =
          true) ∧
        tag.ignored.all isBlank = true := by
  rw [List.all_eq_true, List.all_eq_true]
  constructor
  · intro names
    obtain ⟨lengths, spells⟩ := List.forall₂_iff_zip.mp names.name
    exact ⟨⟨lengths, fun pair member => spells member⟩, names.ignored⟩
  · rintro ⟨⟨lengths, spells⟩, blank⟩
    exact ⟨List.forall₂_iff_zip.mpr ⟨lengths, fun {letter c} member => spells (letter, c) member⟩,
      blank⟩

instance (tag : EndTag) (element : RawElement) : Decidable (tag.Names element) :=
  decidable_of_iff _ names_iff_all.symm

namespace Names

variable {tag : EndTag} {element : RawElement} (names : tag.Names element)
include names

theorem spells_letter :
    ∀ c ∈ tag.name, ∃ letter, isAsciiLetter letter = true ∧ RawElement.spells letter c = true := by
  have letters : ∀ c ∈ element.name.toList, isAsciiLetter c = true :=
    fun c member => isAsciiLetter_of_mem_name member
  have spelled := names.name
  generalize element.name.toList = names at letters spelled
  generalize tag.name = name at spelled
  induction spelled with
  | nil => simp
  | cons head _ inductionHypothesis =>
      rw [List.forall_mem_cons] at letters ⊢
      exact ⟨⟨_, letters.1, head⟩, inductionHypothesis letters.2⟩

theorem not_blank : ∀ c ∈ tag.name, isBlank c = false := by
  intro c member
  obtain ⟨letter, isLetter, spelled⟩ := names.spells_letter c member
  exact isBlank_eq_false_of_spells isLetter spelled

theorem not_mem_angle : '>' ∉ '<' :: '/' :: (tag.name ++ tag.ignored) := by
  have inName : '>' ∉ tag.name := by
    intro member
    obtain ⟨letter, isLetter, spelled⟩ := names.spells_letter '>' member
    have same : '>' = letter := by simpa [RawElement.spells] using spelled
    rw [← same] at isLetter
    exact absurd isLetter (by decide)
  have inIgnored : '>' ∉ tag.ignored := fun member =>
    absurd (names.ignored '>' member) (by decide)
  simp [inName, inIgnored]

theorem length_name : tag.name.length = element.name.length := by
  rw [← names.name.length_eq, String.length_toList]

theorem name_ne_nil : tag.name ≠ [] := by
  intro empty
  have lengths : tag.name.length = element.name.length := names.length_name
  rw [empty] at lengths
  cases element <;> exact absurd lengths (by decide)

end Names

/-- The length of the tag without its `>`, as the search for it measures it. -/
theorem length_reverse (tag : EndTag) :
    ('<' :: '/' :: (tag.name ++ tag.ignored)).reverse.length =
      "</".length + tag.name.length + tag.ignored.length := by
  have opening : "</".length = 2 := rfl
  simp only [List.length_reverse, List.length_cons, List.length_append]
  omega

end EndTag

namespace RawElement

theorem endTagAtEnd?_of_names {element : RawElement} {tag : EndTag} (before : List Char)
    (names : tag.Names element) :
    element.endTagAtEnd? (before ++ '<' :: '/' :: (tag.name ++ tag.ignored)).reverse =
      some (tag.name, "</".length + tag.name.length + tag.ignored.length) := by
  have reversed :
      (before ++ '<' :: '/' :: (tag.name ++ tag.ignored)).reverse =
        tag.ignored.reverse ++ (tag.name.reverse ++ '/' :: '<' :: before.reverse) := by
    simp
  have blanks :
      (tag.ignored.reverse ++ (tag.name.reverse ++ '/' :: '<' :: before.reverse)).takeWhile
        isBlank = tag.ignored.reverse := by
    rw [List.takeWhile_append_of_pos (by simpa using names.ignored)]
    obtain ⟨last, rest, split⟩ :=
      List.exists_cons_of_ne_nil (List.reverse_ne_nil_iff.mpr names.name_ne_nil)
    have inName : last ∈ tag.name := by
      rw [← List.mem_reverse, split]
      exact List.mem_cons_self
    have notBlank : isBlank last = false := names.not_blank last inName
    rw [split, List.cons_append, List.takeWhile_cons_of_neg (by simp [notBlank]), List.append_nil]
  have spells := (EndTag.names_iff_all.mp names).1.2
  have lengths : element.name.toList.length = tag.name.reverse.length := by
    rw [List.length_reverse, names.name.length_eq]
  unfold endTagAtEnd?
  dsimp only
  rw [reversed, blanks, List.drop_left, lengths, List.take_left, List.drop_left,
    List.reverse_reverse]
  simp [spells]

theorem names_of_endTagAtEnd? {element : RawElement} {reversed spelling : List Char} {size : Nat}
    (found : element.endTagAtEnd? reversed = some (spelling, size)) :
    ∃ (before : List Char) (tag : EndTag), tag.Names element ∧ spelling = tag.name ∧
      size = "</".length + tag.name.length + tag.ignored.length ∧
      reversed.reverse = before ++ '<' :: '/' :: (tag.name ++ tag.ignored) := by
  unfold endTagAtEnd? at found
  simp only at found
  split at found
  · next before beforeEquality =>
      split at found
      · next conditions =>
          simp only [Option.some.injEq, Prod.mk.injEq] at found
          obtain ⟨rfl, rfl⟩ := found
          simp only [Bool.and_eq_true, decide_eq_true_eq] at conditions
          obtain ⟨lengths, spells⟩ := conditions
          generalize blanksEquality : reversed.takeWhile isBlank = blanks at *
          generalize lettersEquality : element.name.toList = letters at *
          have outer : blanks ++ reversed.drop blanks.length = reversed :=
            List.prefix_iff_eq_append.mp (blanksEquality ▸ List.takeWhile_prefix isBlank)
          have inner := List.take_append_drop letters.length (reversed.drop blanks.length)
          rw [beforeEquality] at inner
          refine ⟨before.reverse,
            ⟨((reversed.drop blanks.length).take letters.length).reverse, blanks.reverse⟩,
            EndTag.names_iff_all.mpr ⟨?_, ?_⟩, rfl, ?_, ?_⟩
          · rw [lettersEquality]
            exact ⟨lengths.symm, spells⟩
          · rw [List.all_reverse, ← blanksEquality]
            exact List.all_takeWhile
          · rw [lengths, List.length_reverse]
          · have whole :
                reversed =
                  blanks ++ ((reversed.drop blanks.length).take letters.length ++
                    '/' :: '<' :: before) := by
              rw [inner, outer]
            rw [congrArg List.reverse whole]
            simp
      · exact absurd found (by simp)
  · exact absurd found (by simp)

/-- The marks of an end tag, counted: both of them, the opening one, and the closing one. -/
theorem length_endTagMarks : "</>".length = 3 ∧ "</".length = 2 ∧ ">".length = 1 :=
  ⟨rfl, rfl, rfl⟩

/-- A tag that closes the element lies within the part of the text that is searched. -/
theorem endTag?_of_closes {element : RawElement} {tag : EndTag} (before : List Char)
    (closes : tag.Closes element) :
    element.endTag? (before ++ '<' :: '/' :: (tag.name ++ tag.ignored)).reverse =
      some (before.reverse, String.ofList tag.name) := by
  have names := closes.names
  have fits :
      ('<' :: '/' :: (tag.name ++ tag.ignored)).reverse.length ≤
        element.searchedLength - ">".length := by
    have slack := closes.slack
    rw [tag.length_reverse, searchedLength, ← names.length_name]
    rw [length_endTagMarks.1] at slack
    rw [length_endTagMarks.2.1, length_endTagMarks.2.2]
    omega
  have tail :
      (before ++ '<' :: '/' :: (tag.name ++ tag.ignored)).reverse.take
          (element.searchedLength - ">".length) =
        ((before.reverse.take (element.searchedLength - ">".length -
          ('<' :: '/' :: (tag.name ++ tag.ignored)).reverse.length)).reverse ++
            '<' :: '/' :: (tag.name ++ tag.ignored)).reverse := by
    rw [List.reverse_append, List.reverse_append, List.reverse_reverse, List.take_append,
      List.take_of_length_le fits]
  unfold endTag?
  dsimp only
  rw [tail, endTagAtEnd?_of_names _ names, ← tag.length_reverse, List.reverse_append,
    Option.map_some]
  dsimp only
  rw [List.drop_left]

/-- A tag within the part of the text that is searched has few enough blanks to close an element. -/
theorem closes_of_endTag? {element : RawElement} {reversed content : List Char}
    {spelling : String} (found : element.endTag? reversed = some (content, spelling)) :
    ∃ tag : EndTag, tag.Closes element ∧ spelling = String.ofList tag.name ∧
      reversed.reverse = content.reverse ++ '<' :: '/' :: (tag.name ++ tag.ignored) := by
  unfold endTag? at found
  obtain ⟨⟨name, size⟩, atEnd, result⟩ := Option.map_eq_some_iff.mp found
  simp only [Prod.mk.injEq] at result
  obtain ⟨rfl, rfl⟩ := result
  obtain ⟨before, tag, names, rfl, rfl, searched⟩ := names_of_endTagAtEnd? atEnd
  generalize limitEquality : element.searchedLength - ">".length = limit at searched
  have whole :
      reversed =
        ('<' :: '/' :: (tag.name ++ tag.ignored)).reverse ++
          (before.reverse ++ reversed.drop limit) := by
    have taken := congrArg List.reverse searched
    rw [List.reverse_reverse, List.reverse_append] at taken
    rw [← List.append_assoc, ← taken, List.take_append_drop]
  refine ⟨tag, ⟨names.name, names.ignored, ?_⟩, rfl, ?_⟩
  · have length := congrArg List.length searched
    have fits : (reversed.take limit).length ≤ limit := List.length_take_le _ _
    have ending := tag.length_reverse
    rw [List.length_reverse] at ending
    rw [List.length_reverse, List.length_append, ending, length_endTagMarks.2.1] at length
    rw [searchedLength, length_endTagMarks.2.2, ← names.length_name] at limitEquality
    rw [length_endTagMarks.1]
    omega
  · rw [← tag.length_reverse, congrArg List.reverse whole]
    conv_rhs => rw [whole]
    rw [List.drop_left, List.reverse_append, List.reverse_reverse]

end RawElement

/-! ## Turns in raw text -/

theorem LacksEndTag.of_prefix {element : RawElement} {content longer : List Char}
    (lacks : LacksEndTag element longer) (isPrefix : content <+: longer) :
    LacksEndTag element content := by
  intro found
  obtain ⟨before, after, tag, closes, rfl⟩ := found
  obtain ⟨more, rfl⟩ := isPrefix
  exact lacks ⟨before, after ++ more, tag, closes, by simp⟩

theorem EndTag.source_eq_concat (tag : EndTag) :
    tag.source = '<' :: '/' :: (tag.name ++ tag.ignored) ++ ['>'] := by
  simp [EndTag.source]

/-- An end tag in the longer text would end with its last character. -/
theorem LacksEndTag.append {element : RawElement} {content : List Char} {c : Char}
    (lacks : LacksEndTag element content)
    (notFound : c = '>' → element.endTag? content.reverse = none) :
    LacksEndTag element (content ++ [c]) := by
  intro found
  obtain ⟨before, after, tag, closes, equality⟩ := found
  rcases List.eq_nil_or_concat after with rfl | ⟨shorter, last, rfl⟩
  · have split : content ++ [c] = (before ++ '<' :: '/' :: (tag.name ++ tag.ignored)) ++ ['>'] := by
      rw [equality, EndTag.source_eq_concat]
      simp
    obtain ⟨contentEquality, lastEquality⟩ := List.append_inj' split rfl
    have found := RawElement.endTag?_of_closes before closes
    rw [← contentEquality, notFound (by simpa using lastEquality)] at found
    exact absurd found (by simp)
  · have split : content ++ [c] = (before ++ tag.source ++ shorter) ++ [last] := by
      simpa using equality
    exact lacks ⟨before, shorter, tag, closes, (List.append_inj' split rfl).1⟩

namespace Lexer

/-- A character of raw text goes on with it, or ends it with an end tag. -/
theorem inRawText_reads {element : RawElement} {tagStart position : Position}
    {stretch : Stretch} {c : Char} (lacks : LacksEndTag element stretch.characters) :
    (inRawText element tagStart stretch position c).Reads (some element)
        (stretch.characters ++ [c]) [] (stretch.characters ++ [c]) ∨
      ∃ content tag, (inRawText element tagStart stretch position c).Reads (some element)
        (stretch.characters ++ [c]) [.rawText element content (some tag)] [] := by
  have goesOn (notFound : c = '>' → element.endTag? stretch.characters.reverse = none) :
      Turn.Reads { mode := .rawText element tagStart (stretch.push c) } (some element)
        (stretch.characters ++ [c]) [] (stretch.characters ++ [c]) :=
    Turn.reads_of_pending ⟨rfl, by simp, by simpa using lacks.append notFound⟩
  have reversed : stretch.characters.reverse = stretch.reversed := by
    simp [Stretch.characters]
  unfold inRawText
  by_cases angle : c = '>'
  · subst angle
    simp only [if_true]
    cases found : element.endTag? stretch.reversed with
    | none => exact Or.inl (goesOn fun _ => by rw [reversed, found])
    | some result =>
        obtain ⟨content, spelling⟩ := result
        obtain ⟨tag, closes, rfl, source⟩ := RawElement.closes_of_endTag? found
        have whole :
            stretch.characters = content.reverse ++ '<' :: '/' :: (tag.name ++ tag.ignored) :=
          source
        have lacksContent : LacksEndTag element content.reverse :=
          lacks.of_prefix (whole ▸ List.prefix_append _ _)
        refine Or.inr ⟨content.reverse, tag, ?_⟩
        refine Turn.reads_of_construct (.rawText element content.reverse (some tag)) ?_ ?_ rfl
          (fun _ => ⟨rfl, lacksContent, closes⟩) ⟨rfl, rfl⟩
        · simp [whole, Construct.source, EndTag.source]
        · cases content with
          | nil => rfl
          | cons first rest =>
              simp [Construct.lexemes, Construct.phrases, EndTag.phrase, Phrase.lexemes,
                Token.lexeme]
  · simp only [angle, if_false]
    exact Or.inl (goesOn fun isAngle => absurd isAngle angle)

theorem inRawText_progresses {element : RawElement} {tagStart position : Position}
    {stretch : Stretch} {c : Char} (lacks : LacksEndTag element stretch.characters) :
    (inRawText element tagStart stretch position c).Progresses (some element)
      (stretch.characters ++ [c]) := by
  rcases inRawText_reads lacks with reads | ⟨_, _, reads⟩
  · exact ⟨_, _, reads⟩
  · exact ⟨_, _, reads⟩

end Lexer

end JsxFragment
