import JsxFragment.Proofs.Token.Pending

/-!
# Reading tags

One character more of a tag under way: the tag goes on, or it is whole, or it turns out to be no tag
at all. There is one lemma for each place in a tag.
-/

namespace JsxFragment

open Text

/-! ## Growing a tag -/

theorem isGapChar_of_isBlank {c : Char} (blank : isBlank c = true) : isGapChar c = true := by
  simp [isGapChar, blank]

theorem isTagNameChar_iff {c : Char} :
    isTagNameChar c = true ↔ isBlank c = false ∧ c ≠ '/' ∧ c ≠ '>' := by
  simp [isTagNameChar, and_assoc]

theorem IsTagName.append {name : List Char} {c : Char} (named : IsTagName name)
    (continues : isTagNameChar c = true) : IsTagName (name ++ [c]) := by
  obtain ⟨first, rest, rfl, letter⟩ := named.starts
  refine ⟨⟨first, rest ++ [c], rfl, letter⟩, ?_⟩
  intro d member
  rcases List.mem_append.mp member with inName | isNew
  · exact named.closed d inName
  · rwa [List.mem_singleton.mp isNew]

theorem isTagNameChar_of_isAsciiLetter {c : Char} (letter : isAsciiLetter c = true) :
    isTagNameChar c = true := by
  have bounds : (65 ≤ c.toNat ∧ c.toNat ≤ 90) ∨ (97 ≤ c.toNat ∧ c.toNat ≤ 122) := by
    simpa [isAsciiLetter] using letter
  have notBlank : isBlank c = false := by
    simp only [isBlank, Bool.or_eq_false_iff, Bool.and_eq_false_iff, decide_eq_false_iff_not,
      beq_eq_false_iff_ne]
    omega
  refine isTagNameChar_iff.mpr ⟨notBlank, ?_, ?_⟩
  · rintro rfl
    simp at bounds
  · rintro rfl
    simp at bounds

theorem isTagName_singleton {c : Char} (letter : isAsciiLetter c = true) : IsTagName [c] := by
  refine ⟨⟨c, [], rfl, letter⟩, ?_⟩
  intro d member
  rw [List.mem_singleton.mp member]
  exact isTagNameChar_of_isAsciiLetter letter

theorem isAttributeName_singleton {c : Char} (continues : isTagNameChar c = true) :
    IsAttributeName [c] := by
  refine ⟨List.cons_ne_nil c [], ?_, by simp⟩
  intro d member
  rwa [List.mem_singleton.mp member]

theorem IsAttributeName.append {name : List Char} {c : Char} (named : IsAttributeName name)
    (continues : isTagNameChar c = true) (notAssigned : c ≠ '=') :
    IsAttributeName (name ++ [c]) := by
  refine ⟨by simp, ?_, ?_⟩
  · intro d member
    rcases List.mem_append.mp member with inName | isNew
    · exact named.closed d inName
    · rwa [List.mem_singleton.mp isNew]
  · intro d member
    rw [List.tail_append_of_ne_nil named.nonempty] at member
    rcases List.mem_append.mp member with inTail | isNew
    · exact named.unassigned d inTail
    · rwa [List.mem_singleton.mp isNew]

theorem Edge.AllowsGap.append {edge : Edge} {gap : List Char} {c : Char}
    (allowed : edge.AllowsGap gap) (gapChar : isGapChar c = true) :
    edge.AllowsGap (gap ++ [c]) := by
  obtain ⟨gapChars, shape⟩ := allowed
  refine ⟨?_, ?_⟩
  · intro d member
    rcases List.mem_append.mp member with inGap | isNew
    · exact gapChars d inGap
    · rwa [List.mem_singleton.mp isNew]
  · cases edge with
    | tagName => simp
    | bareName => simp
    | quotedValue => trivial
    | unquotedValue =>
        obtain ⟨first, rest, rfl, blank⟩ := shape
        exact ⟨first, rest ++ [c], rfl, blank⟩
    | missingValue => exact shape

theorem Edge.allowsGap_singleton {edge : Edge} {c : Char} (gapChar : isGapChar c = true)
    (blankUnlessNamed : edge = .unquotedValue → isBlank c = true)
    (notMissing : edge ≠ .missingValue) : edge.AllowsGap [c] := by
  refine ⟨by simpa using gapChar, ?_⟩
  cases edge with
  | tagName => simp
  | bareName => simp
  | quotedValue => trivial
  | unquotedValue => exact ⟨c, [], rfl, blankUnlessNamed rfl⟩
  | missingValue => exact notMissing rfl

theorem lastEdge_append (edge : Edge) (first : List AttributeSpelling)
    (spelling : AttributeSpelling) :
    lastEdge edge (first ++ [spelling]) = spelling.edge := by
  induction first generalizing edge with
  | nil =>
      rfl
  | cons head rest inductionHypothesis =>
      exact inductionHypothesis head.edge

theorem attributesFollow_append {edge : Edge} {first : List AttributeSpelling}
    {spelling : AttributeSpelling} (follow : AttributesFollow edge first)
    (follows : spelling.Follows (lastEdge edge first)) :
    AttributesFollow edge (first ++ [spelling]) := by
  induction first generalizing edge with
  | nil =>
      exact ⟨follows, trivial⟩
  | cons head rest inductionHypothesis =>
      exact ⟨follow.1, inductionHypothesis follow.2 follows⟩

namespace TagHead

/-- The head with one more attribute. -/
def add (head : TagHead) (spelling : AttributeSpelling) : TagHead :=
  { head with attributes := head.attributes ++ [spelling] }

@[simp]
theorem name_add (head : TagHead) (spelling : AttributeSpelling) :
    (head.add spelling).name = head.name :=
  rfl

@[simp]
theorem source_add (head : TagHead) (spelling : AttributeSpelling) :
    (head.add spelling).source = head.source ++ spelling.source := by
  simp [source, add]

@[simp]
theorem lexemes_add (head : TagHead) (spelling : AttributeSpelling) :
    (head.add spelling).lexemes = head.lexemes ++ spelling.given.lexemes := by
  simp [lexemes, add]

@[simp]
theorem edge_add (head : TagHead) (spelling : AttributeSpelling) :
    (head.add spelling).edge = spelling.edge :=
  lastEdge_append .tagName head.attributes spelling

theorem IsSpelled.add {head : TagHead} {spelling : AttributeSpelling} (spelled : head.IsSpelled)
    (follows : spelling.Follows head.edge) : (head.add spelling).IsSpelled :=
  ⟨spelled.name, attributesFollow_append spelled.attributes follows⟩

theorem lexemes_phrase (tag : StartTag) :
    tag.phrase.lexemes =
      tag.head.lexemes ++ [⟨.tagEnd, if tag.selfClosing then "/>" else ">"⟩] := by
  simp [StartTag.phrase, Phrase.lexemes, lexemes, List.flatMap_map]

end TagHead

namespace Lexer

/-! ## Parts of a tag become whole -/

theorem headRead_addName {source : TagSource} {stretch : Stretch} {after : List Char}
    (named : IsTagName stretch.characters)
    (characters : source.characters = '<' :: (stretch.characters ++ after))
    (lexemes : source.lexemes = [⟨.tagStart, "<"⟩]) :
    HeadRead (source.addName stretch) ⟨stretch.characters, []⟩ after := by
  refine ⟨⟨named, trivial⟩, ?_, ?_, rfl⟩
  · simp [TagHead.source, characters]
  · simp [TagHead.lexemes, lexemes]

theorem HeadRead.addName {source : TagSource} {head : TagHead} {gap after : List Char}
    {stretch : Stretch} (read : HeadRead source head (gap ++ stretch.characters ++ after))
    (allowed : head.edge.AllowsName gap stretch.characters)
    (named : IsAttributeName stretch.characters) :
    NameRead (source.addPart .attributeName stretch) head gap stretch.characters after where
  spelled := read.spelled
  allowed := allowed
  named := named
  characters := by simp [read.characters]
  lexemes := by simp [read.lexemes]
  raw := read.raw

theorem NameRead.bare {source : TagSource} {head : TagHead} {gap name after : List Char}
    (read : NameRead source head gap name after) :
    HeadRead source (head.add ⟨gap, name, none⟩) after where
  spelled := read.spelled.add ⟨read.allowed, read.named, by simp⟩
  characters := by simp [read.characters, AttributeSpelling.source]
  lexemes := by simp [read.lexemes, AttributeSpelling.given, Attribute.lexemes]
  raw := read.raw

theorem NameRead.valued {source : TagSource} {head : TagHead}
    {gap name before blanks after : List Char} {value : ValueSpelling} {stretch : Stretch}
    (read : NameRead source head gap name (before ++ '=' :: (blanks ++ value.source) ++ after))
    (blankBefore : ∀ c ∈ before, isBlank c = true) (blankAfter : ∀ c ∈ blanks, isBlank c = true)
    (spelled : value.IsSpelled) (content : stretch.characters = value.content) :
    HeadRead (source.addPart .attributeValue stretch)
      (head.add ⟨gap, name, some ⟨before, blanks, value⟩⟩) after where
  spelled := read.spelled.add
    ⟨read.allowed, read.named, by
      intro assignment member
      cases member
      exact ⟨blankBefore, blankAfter, spelled⟩⟩
  characters := by simp [read.characters, AttributeSpelling.source, Assignment.source]
  lexemes := by simp [read.lexemes, content, AttributeSpelling.given, Attribute.lexemes]
  raw := read.raw

/-! ## The end of a tag -/

theorem commit_startTag {source : TagSource} {head : TagHead} (gap : List Char) {marker : String}
    {position : Position} (read : HeadRead source head (gap ++ ['>']))
    (allowed : head.edge.AllowsEnd gap)
    (marked : marker = if gap.getLast? = some '/' then "/>" else ">") :
    (commit source marker position).Progresses none source.characters := by
  let tag : StartTag := ⟨head, gap⟩
  have selfClosing : tag.selfClosing = decide (gap.getLast? = some '/') := rfl
  have lexemes :
      ((⟨.tagEnd, marker, position⟩ :: source.parts).reverse).map Token.lexeme =
        (Construct.startTag tag).lexemes := by
    have parts : source.parts.reverse.map Token.lexeme = head.lexemes := read.lexemes
    simp [Construct.lexemes, Construct.phrases, TagHead.lexemes_phrase, parts, Token.lexeme,
      marked, selfClosing, tag]
  have characters : source.characters = (Construct.startTag tag).source ++ [] := by
    simp [read.characters, Construct.source, StartTag.source, tag]
  have fits : ∀ more, (Construct.startTag tag).Fits none ([] ++ more) :=
    fun _ => ⟨read.spelled, allowed⟩
  unfold commit
  cases raw : source.raw with
  | none =>
      have opensRaw : (Construct.startTag tag).opensRaw = none := by
        rw [read.raw] at raw
        simp [Construct.opensRaw, StartTag.opensRaw, raw, tag]
      refine Turn.progresses_of_construct (.startTag tag) characters lexemes rfl fits ?_
      exact ⟨opensRaw, rfl⟩
  | some element =>
      rw [read.raw] at raw
      by_cases closing : gap.getLast? = some '/'
      · have opensRaw : (Construct.startTag tag).opensRaw = none := by
          simp [Construct.opensRaw, StartTag.opensRaw, selfClosing, closing]
        have notAngle : marker ≠ ">" := by
          simp [marked, closing]
        simp only [notAngle, if_false]
        refine Turn.progresses_of_construct (.startTag tag) characters lexemes rfl fits ?_
        exact ⟨opensRaw, rfl⟩
      · have opensRaw : (Construct.startTag tag).opensRaw = some element := by
          simp [Construct.opensRaw, StartTag.opensRaw, selfClosing, closing, raw, tag]
        have angle : marker = ">" := by
          simp [marked, closing]
        simp only [angle, if_true]
        rw [angle] at lexemes
        refine Turn.progresses_of_construct (.startTag tag) characters lexemes rfl fits ?_
        refine ⟨opensRaw, rfl, ?_⟩
        intro found
        obtain ⟨before, after, ending, _, equality⟩ := found
        simp [EndTag.source] at equality

theorem commit_endTag {source : TagSource} (tag : EndTag) {position : Position}
    (spelled : tag.IsSpelled) (characters : source.characters = tag.source)
    (lexemes : source.lexemes =
      [⟨.tagStart, "</"⟩, ⟨.tagName, String.ofList tag.name⟩])
    (raw : source.raw = none) :
    (commit source ">" position).Progresses none source.characters := by
  have parts :
      source.parts.reverse.map Token.lexeme =
        [⟨.tagStart, "</"⟩, ⟨.tagName, String.ofList tag.name⟩] := lexemes
  unfold commit
  rw [raw]
  have whole : source.characters = (Construct.endTag tag).source ++ [] := by
    simp [characters, Construct.source]
  refine Turn.progresses_of_construct (.endTag tag) whole ?_ rfl ?_ ⟨rfl, rfl⟩
  · simp [parts, Construct.lexemes, Construct.phrases, EndTag.phrase, Phrase.lexemes,
      Token.lexeme]
  · exact fun _ => spelled

end Lexer

end JsxFragment
