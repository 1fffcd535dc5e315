import JsxFragment.Proofs.Node.EventRun
import JsxFragment.Proofs.Node.WholeTag
import JsxFragment.Proofs.Token.Location

/-!
# Tags of texts

The tokens of a text are in order: all tags among them are whole and have a name, and every start
tag begins at a place of its own.
-/

namespace JsxFragment

open Text

/-! ## Whole tags -/

/-- Every tag of the tokens is whole, has a name and begins with `<` or `</`. -/
structure AreTagsWhole (tokens : List Token) : Prop where
  openings : (wholeTags tokens).map (·.opening) = tokens.filter (·.kind = .tagStart)
  named : ∀ tag ∈ wholeTags tokens, tag.name ≠ ""
  marked : ∀ tag ∈ wholeTags tokens,
    tag.opening.lexeme = ⟨.tagStart, "<"⟩ ∨ tag.opening.lexeme = ⟨.tagStart, "</"⟩

theorem areTagsWhole_nil : AreTagsWhole [] where
  openings := rfl
  named := by simp [wholeTags]
  marked := by simp [wholeTags]

theorem AreTagsWhole.cons {tokens : List Token} (whole : AreTagsWhole tokens) {token : Token}
    (notStart : token.kind ≠ .tagStart) : AreTagsWhole (token :: tokens) := by
  have sameTags := wholeTags_cons_of_ne notStart tokens
  constructor
  · rw [sameTags, whole.openings, List.filter_cons_of_neg (by simpa using notStart)]
  · rw [sameTags]
    exact whole.named
  · rw [sameTags]
    exact whole.marked

/-- The lexemes are those of a tag with the name, which begins with the marker. -/
structure WholeTag.IsSpelledBy (tag : WholeTag) (marker name : String) : Prop where
  opening : tag.opening.lexeme = ⟨.tagStart, marker⟩
  noLimit : ∀ token ∈ tag.inner, token.isTagLimit = false
  nameToken : ∃ token ∈ tag.inner, token.lexeme = ⟨.tagName, name⟩
  name_eq : tag.name = name
  ending : tag.ending.kind = .tagEnd

/-- Only the first token of a tag begins one. -/
theorem WholeTag.IsSpelledBy.noStart {tag : WholeTag} {marker name : String}
    (spelled : tag.IsSpelledBy marker name) :
    ∀ token ∈ tag.inner ++ [tag.ending], token.kind ≠ .tagStart := by
  intro token member isStart
  rcases List.mem_append.mp member with inInner | isLast
  · have noLimit := spelled.noLimit token inInner
    simp [Token.isTagLimit, isStart] at noLimit
  · rw [List.mem_singleton.mp isLast, spelled.ending] at isStart
    exact absurd isStart (by simp)

theorem AreTagsWhole.tag {tokens : List Token} (whole : AreTagsWhole tokens) {tag : WholeTag}
    {marker name : String} (spelled : tag.IsSpelledBy marker name) (named : name ≠ "")
    (isMarker : marker = "<" ∨ marker = "</") :
    AreTagsWhole (tag.opening :: (tag.inner ++ [tag.ending]) ++ tokens) := by
  obtain ⟨isStart, _⟩ := Token.lexeme_eq_iff.mp spelled.opening
  have tags : wholeTags (tag.opening :: (tag.inner ++ [tag.ending]) ++ tokens) =
      tag :: wholeTags tokens := by
    simpa using wholeTags_of_closed isStart spelled.noLimit spelled.ending tokens
  have noMore : (tag.inner ++ [tag.ending]).filter (·.kind = .tagStart) = [] := by
    simpa only [List.filter_eq_nil_iff, decide_eq_true_eq] using spelled.noStart
  refine ⟨?_, ?_, ?_⟩
  · rw [tags, List.map_cons, whole.openings, List.filter_append,
      List.filter_cons_of_pos (by simpa using isStart), noMore]
    rfl
  · rw [tags, List.forall_mem_cons, spelled.name_eq]
    exact ⟨named, whole.named⟩
  · rw [tags, List.forall_mem_cons, spelled.opening]
    refine ⟨?_, whole.marked⟩
    exact isMarker.imp (congrArg (Lexeme.mk .tagStart)) (congrArg (Lexeme.mk .tagStart))

/-- Tokens whose lexemes are those of a tag are a whole one. -/
theorem exists_wholeTag {tokens : List Token} (attributes : List Attribute)
    {marker name ending : String}
    (lexemes : tokens.map Token.lexeme =
      ⟨.tagStart, marker⟩ :: ⟨.tagName, name⟩ ::
        (attributes.flatMap Attribute.lexemes ++ [⟨.tagEnd, ending⟩])) :
    ∃ tag : WholeTag, tag.IsSpelledBy marker name ∧
      tokens = tag.opening :: (tag.inner ++ [tag.ending]) := by
  obtain ⟨opening, _, rfl, openingLexeme, lexemes⟩ := List.map_eq_cons_iff.mp lexemes
  obtain ⟨nameToken, _, rfl, nameLexeme, lexemes⟩ := List.map_eq_cons_iff.mp lexemes
  obtain ⟨others, _, rfl, otherLexemes, lexemes⟩ := List.map_eq_append_iff.mp lexemes
  obtain ⟨last, rfl, lastLexeme⟩ := List.map_eq_singleton_iff.mp lexemes
  obtain ⟨isName, nameValue⟩ := Token.lexeme_eq_iff.mp nameLexeme
  have otherKinds : ∀ token ∈ others,
      token.kind = .attributeName ∨ token.kind = .attributeValue := by
    intro token member
    have inLexemes : token.lexeme ∈ attributes.flatMap Attribute.lexemes :=
      otherLexemes ▸ List.mem_map_of_mem member
    exact Event.attribute_lexemes_kind inLexemes
  refine ⟨⟨opening, nameToken :: others, last⟩, ⟨openingLexeme, ?_, ?_, ?_, ?_⟩, rfl⟩
  · rw [List.forall_mem_cons]
    refine ⟨by simp [Token.isTagLimit, isName], fun token member => ?_⟩
    rcases otherKinds token member with kind | kind <;> simp [Token.isTagLimit, kind]
  · exact ⟨nameToken, List.mem_cons_self, nameLexeme⟩
  · have otherNames : others.filter (·.kind = .tagName) = [] := by
      rw [List.filter_eq_nil_iff]
      intro token member
      rcases otherKinds token member with kind | kind <;> simp [kind]
    simp [WholeTag.name, lastValue?, isName, nameValue, otherNames]
  · exact (Token.lexeme_eq_iff.mp lastLexeme).1

theorem areTagsWhole_of_lexemes {phrases : List Phrase} {tokens : List Token}
    (named : ∀ phrase ∈ phrases, phrase.IsNamed)
    (lexemes : tokens.map Token.lexeme = phrases.flatMap Phrase.lexemes) :
    AreTagsWhole tokens := by
  induction phrases generalizing tokens with
  | nil =>
      obtain rfl : tokens = [] := by simpa using lexemes
      exact areTagsWhole_nil
  | cons phrase rest inductionHypothesis =>
      rw [List.forall_mem_cons] at named
      rw [List.flatMap_cons, List.map_eq_append_iff] at lexemes
      obtain ⟨group, others, rfl, groupLexemes, otherLexemes⟩ := lexemes
      have whole := inductionHypothesis named.2 otherLexemes
      cases phrase with
      | text content | cdata content | comment content | doctype content =>
          obtain ⟨token, rfl, lexeme⟩ := List.map_eq_singleton_iff.mp groupLexemes
          obtain ⟨kind, _⟩ := Token.lexeme_eq_iff.mp lexeme
          exact whole.cons (by simp [kind])
      | startTag name attributes selfClosing =>
          obtain ⟨tag, spelled, rfl⟩ := exists_wholeTag attributes groupLexemes
          exact whole.tag spelled named.1 (Or.inl rfl)
      | endTag name =>
          obtain ⟨tag, spelled, rfl⟩ := exists_wholeTag [] groupLexemes
          exact whole.tag spelled named.1 (Or.inr rfl)

theorem areTagsWhole_tokenize (html : String) : AreTagsWhole (tokenize html).tokens := by
  obtain ⟨phrases, named, lexemes⟩ := tokenize_phrases html
  exact areTagsWhole_of_lexemes named lexemes

namespace AreTagsWhole

variable {tokens : List Token}

theorem openings_of_lexeme (whole : AreTagsWhole tokens) {isOne : WholeTag → Bool}
    {marker : String}
    (byOpening : ∀ tag ∈ wholeTags tokens,
      isOne tag = decide (tag.opening.lexeme = ⟨.tagStart, marker⟩)) :
    ((wholeTags tokens).filter isOne).map (·.opening) =
      tokens.filter (·.lexeme = ⟨.tagStart, marker⟩) := by
  rw [List.filter_congr byOpening]
  calc ((wholeTags tokens).filter (·.opening.lexeme = ⟨.tagStart, marker⟩)).map (·.opening)
    _ = ((wholeTags tokens).map (·.opening)).filter (·.lexeme = ⟨.tagStart, marker⟩) := by
        rw [List.filter_map]
        rfl
    _ = tokens.filter (·.lexeme = ⟨.tagStart, marker⟩) := by
        rw [whole.openings, List.filter_filter]
        apply List.filter_congr
        intro token _
        by_cases lexeme : token.lexeme = ⟨.tagStart, marker⟩
        · simp [lexeme, (Token.lexeme_eq_iff.mp lexeme).1]
        · simp [lexeme]

/-- Every `<` begins a start tag with a name, and every start tag begins with one. -/
theorem openings_startTags (whole : AreTagsWhole tokens) :
    ((wholeTags tokens).filter (·.startsElement)).map (·.opening) =
      tokens.filter (·.lexeme = ⟨.tagStart, "<"⟩) := by
  apply whole.openings_of_lexeme
  intro tag member
  have named := whole.named tag member
  rcases whole.marked tag member with lexeme | lexeme
  all_goals
    obtain ⟨_, value⟩ := Token.lexeme_eq_iff.mp lexeme
    simp [WholeTag.startsElement, WholeTag.isEndTag, lexeme, value, named]

theorem openings_endTags (whole : AreTagsWhole tokens) :
    ((wholeTags tokens).filter (·.isEndTag)).map (·.opening) =
      tokens.filter (·.lexeme = ⟨.tagStart, "</"⟩) := by
  apply whole.openings_of_lexeme
  intro tag member
  rcases whole.marked tag member with lexeme | lexeme
  all_goals
    obtain ⟨_, value⟩ := Token.lexeme_eq_iff.mp lexeme
    simp [WholeTag.isEndTag, lexeme, value]

end AreTagsWhole

/-! ## Places of start tags -/

/-- Only a start tag has a `<` among its lexemes. -/
theorem Construct.noStart_or_isStartTag (construct : Construct) :
    (∀ lexeme ∈ construct.lexemes, lexeme ≠ ⟨.tagStart, "<"⟩) ∨
      ∃ tag, construct = .startTag tag := by
  cases construct with
  | startTag tag => exact Or.inr ⟨tag, rfl⟩
  | rawText element content ending =>
      left
      rw [lexemes, phrases, List.flatMap_append, List.forall_mem_append]
      constructor
      · split <;> simp [Phrase.lexemes]
      · cases ending <;> simp [EndTag.phrase, Phrase.lexemes]
  | _ => exact Or.inl (by simp [lexemes, phrases, EndTag.phrase, Phrase.lexemes])

/-- The name of a start tag stands after its `<`, since it begins with a letter. -/
theorem offset_lt_of_startTag {text : List Char} {opening name : Token} {spelling : List Char}
    (openingLexeme : opening.lexeme = ⟨.tagStart, "<"⟩)
    (nameLexeme : name.lexeme = ⟨.tagName, String.ofList spelling⟩)
    (openingSpelled : opening.IsSpelledIn text) (nameSpelled : name.IsSpelledIn text)
    (named : IsTagName spelling) (le : opening.position.offset ≤ name.position.offset) :
    opening.position.offset < name.position.offset := by
  obtain ⟨first, rest, rfl, letter⟩ := named.starts
  obtain ⟨openingKind, openingValue⟩ := Token.lexeme_eq_iff.mp openingLexeme
  obtain ⟨nameKind, nameValue⟩ := Token.lexeme_eq_iff.mp nameLexeme
  have atOpening : ['<'] <+: text.drop opening.position.offset := by
    simpa [openingValue] using openingSpelled (by simp [openingKind, TokenKind.isCopied])
  have atName : first :: rest <+: text.drop name.position.offset := by
    simpa [nameValue] using nameSpelled (by simp [nameKind, TokenKind.isCopied])
  apply Nat.lt_of_le_of_ne le
  intro same
  rw [same] at atOpening
  obtain ⟨after, afterOpening⟩ := atOpening
  obtain ⟨others, afterName⟩ := atName
  have sameFirst : '<' = first := by
    have both := afterOpening.trans afterName.symm
    simp only [List.cons_append, List.cons.injEq] at both
    exact both.1
  rw [← sameFirst] at letter
  exact absurd letter (by decide)

/-- Of the tokens of a start tag the first one begins it, and another one stands after that. -/
theorem exists_later_of_startTag {text : List Char} {tag : StartTag} {tokens : List Token}
    (named : IsTagName tag.head.name) (lexemes : tokens.map Token.lexeme = tag.phrase.lexemes)
    (spelled : ∀ token ∈ tokens, token.IsSpelledIn text)
    (ascending : (tokens.map (·.position.offset)).Pairwise (· ≤ ·)) :
    ∃ opening, tokens.filter (·.lexeme = ⟨.tagStart, "<"⟩) = [opening] ∧
      ∃ later ∈ tokens, opening.position.offset < later.position.offset := by
  obtain ⟨whole, isSpelled, rfl⟩ := exists_wholeTag _ lexemes
  obtain ⟨name, inInner, nameLexeme⟩ := isSpelled.nameToken
  have inTag : name ∈ whole.inner ++ [whole.ending] := List.mem_append_left _ inInner
  have noMore : (whole.inner ++ [whole.ending]).filter (·.lexeme = ⟨.tagStart, "<"⟩) = [] := by
    rw [List.filter_eq_nil_iff]
    intro token member isStart
    apply isSpelled.noStart token member
    exact (Token.lexeme_eq_iff.mp (of_decide_eq_true isStart)).1
  refine ⟨whole.opening, ?_, name, List.mem_cons_of_mem _ inTag, ?_⟩
  · rw [List.filter_cons_of_pos (by simp [isSpelled.opening]), noMore]
  · apply offset_lt_of_startTag isSpelled.opening nameLexeme (spelled _ List.mem_cons_self)
      (spelled _ (List.mem_cons_of_mem _ inTag)) named
    exact List.rel_of_pairwise_cons ascending (List.mem_map_of_mem inTag)

theorem startOffsets_increase {text before rest : List Char} {raw : Option RawElement}
    {constructs : List Construct} {tokens : List Token}
    (located : Located text before constructs tokens) (placed : WellPlaced raw constructs rest)
    (ascending : (tokens.map (·.position.offset)).Pairwise (· ≤ ·)) :
    ((tokens.filter (·.lexeme = ⟨.tagStart, "<"⟩)).map (·.position.offset)).Pairwise (· < ·) := by
  induction located generalizing raw with
  | nil => exact List.Pairwise.nil
  | @cons before construct constructs tokens others lexemes locates _ inductionHypothesis =>
      rw [List.map_append, List.pairwise_append] at ascending
      obtain ⟨ascendingFirst, ascendingOthers, across⟩ := ascending
      have increasing := inductionHypothesis placed.2 ascendingOthers
      rw [List.filter_append, List.map_append]
      rcases construct.noStart_or_isStartTag with noStart | ⟨tag, rfl⟩
      · have noStarts : tokens.filter (·.lexeme = ⟨.tagStart, "<"⟩) = [] := by
          rw [List.filter_eq_nil_iff]
          intro token member
          simpa using noStart token.lexeme (lexemes ▸ List.mem_map_of_mem member)
        rw [noStarts]
        exact increasing
      · cases raw with
        | some due => exact placed.1.elim
        | none =>
            have ofPhrase : tokens.map Token.lexeme = tag.phrase.lexemes := by
              rw [lexemes, Construct.lexemes, Construct.phrases, List.flatMap_singleton]
            obtain ⟨opening, isFirst, later, inTag, below⟩ :=
              exists_later_of_startTag placed.1.head.name ofPhrase locates ascendingFirst
            rw [isFirst]
            refine List.pairwise_cons.mpr ⟨fun offset member => ?_, increasing⟩
            have inOthers := (List.filter_sublist.map _).subset member
            exact Nat.lt_of_lt_of_le below (across _ (List.mem_map_of_mem inTag) _ inOthers)

/-- The start tags of a text begin at different places. -/
theorem nodup_positions_startTags (html : String) :
    (((wholeTags (tokenize html).tokens).filter (·.startsElement)).map
      (·.opening.position)).Nodup := by
  obtain ⟨⟨constructs, _, placed, located⟩, _, _, ascending, _⟩ := tokenize_located html
  have increasing := startOffsets_increase located placed ascending
  rw [← (areTagsWhole_tokenize html).openings_startTags, List.map_map] at increasing
  rw [List.nodup_iff_pairwise_ne, List.pairwise_map]
  rw [List.pairwise_map] at increasing
  exact increasing.imp fun below same => Nat.ne_of_lt below (congrArg Position.offset same)

end JsxFragment
