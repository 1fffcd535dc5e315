import JsxFragment.Conversion
import JsxFragment.Proofs.Token.MarkupTurn
import JsxFragment.Proofs.Token.RawText

/-!
# Texts as constructs

Every character keeps what was read accounted for, and so does the end of the text. The tokens of a
text are therefore those of the constructs that make it up, which is all of it.
-/

namespace JsxFragment

open Text Number

namespace Lexer

/-! ## One character more -/

theorem react_progresses {raw : Option RawElement} {mode : Mode} {rest : List Char}
    {position : Position} {c : Char} (pending : Pending raw mode rest) :
    (react mode position c).Progresses raw (rest ++ [c]) := by
  cases mode with
  | between =>
      obtain ⟨rfl, rfl⟩ := pending
      unfold react
      by_cases less : c = '<'
      · subst less
        exact Turn.progresses_of_pending ⟨rfl, rfl, rfl, rfl, rfl⟩
      · simp only [less, if_false]
        refine Turn.progresses_of_pending ⟨rfl, rfl, by simp, by simp, ?_⟩
        intro after more equality
        exact absurd (List.cons.inj equality).1 less
  | text stretch =>
      obtain ⟨rfl, rfl, openText⟩ := pending
      exact openText.progresses
  | tag source tagMode =>
      obtain ⟨rfl, rfl, reads⟩ := pending
      exact inTag_progresses reads
  | markup start kind reversed =>
      obtain ⟨rfl, reads⟩ := pending
      cases kind with
      | declaration => exact inMarkup_declaration_progresses reads
      | comment => exact inMarkup_comment_progresses reads
      | bogusComment => exact inMarkup_bogusComment_progresses reads
      | doctype => exact inMarkup_doctype_progresses reads
      | cdata => exact inMarkup_cdata_progresses reads
  | rawText element tagStart stretch =>
      obtain ⟨rfl, rfl, lacks⟩ := pending
      exact inRawText_progresses lacks

/-- All that the turns so far brought about. -/
def State.turn (state : State) : Turn :=
  { mode := state.mode
    tokens := state.tokens.reverse
    repairs := state.repairs.reverse }

theorem State.turn_record (state : State) (next : Turn) :
    (state.record next).turn =
      { mode := next.mode
        tokens := state.turn.tokens ++ next.tokens
        repairs := state.turn.repairs ++ next.repairs } := by
  simp [State.turn, State.record]

theorem State.turn_step (state : State) (c : Char) :
    (state.step c).turn =
      { mode := (react state.mode state.position c).mode
        tokens := state.turn.tokens ++ (react state.mode state.position c).tokens
        repairs := state.turn.repairs ++ (react state.mode state.position c).repairs } :=
  state.turn_record _

theorem State.step_progresses {state : State} {consumed : List Char}
    (progress : state.turn.Progresses none consumed) (c : Char) :
    (state.step c).turn.Progresses none (consumed ++ [c]) := by
  obtain ⟨constructs, rest, reads⟩ := progress
  obtain ⟨others, left, readsOthers⟩ := react_progresses reads.pending
  rw [State.turn_step]
  exact ⟨constructs ++ others, left, reads.append readsOthers⟩

theorem State.run_progresses {state : State} {consumed : List Char}
    (progress : state.turn.Progresses none consumed) (text : List Char) :
    (state.run text).turn.Progresses none (consumed ++ text) := by
  induction text generalizing state consumed with
  | nil =>
      simpa [State.run] using progress
  | cons c others inductionHypothesis =>
      have stepped := inductionHypothesis (State.step_progresses progress c)
      rw [List.append_assoc] at stepped
      exact stepped

/-! ## The end of the text -/

/-- What a turn leaves is nothing: the characters read are whole constructs up to the end. -/
def Turn.Completes (turn : Turn) (raw : Option RawElement) (source : List Char) : Prop :=
  ∃ constructs, sourceOf constructs = source ∧
    turn.tokens.map Token.lexeme = lexemesOf constructs ∧
    turn.repairs.map (·.cause) = constructs.flatMap Construct.repairs ∧
    WellPlaced raw constructs []

theorem Turn.completes_of_construct {turn : Turn} {raw : Option RawElement} {source : List Char}
    (construct : Construct) (isSource : construct.source = source)
    (lexemes : turn.tokens.map Token.lexeme = construct.lexemes)
    (repairs : turn.repairs.map (·.cause) = construct.repairs)
    (fits : construct.Fits raw []) : turn.Completes raw source :=
  ⟨[construct], by simpa [sourceOf] using isSource, by simpa [lexemesOf] using lexemes,
    by simpa using repairs, by simpa [sourceOf] using fits, trivial⟩

/-- A `>` after a head and a gap makes a whole start tag. -/
theorem HeadRead.isCutTag {source : TagSource} {head : TagHead} {gap : List Char}
    (read : HeadRead source head gap) (allowed : head.edge.AllowsEnd gap) :
    IsCutTag source.characters where
  nonempty := by simp [read.characters, TagHead.source]
  completes := by
    refine ⟨['>'], by simp, Or.inl ⟨⟨head, gap⟩, ⟨read.spelled, allowed⟩, ?_⟩⟩
    simp [StartTag.source, read.characters]

/-- Some characters more, the last of them a `>`, make a whole start tag of a head under way. -/
theorem NameRead.isCutTag {source : TagSource} {head : TagHead}
    {gap name before blanks sofar : List Char} (value : ValueSpelling) (completion : List Char)
    (read : NameRead source head gap name (before ++ '=' :: (blanks ++ sofar)))
    (blankBefore : ∀ c ∈ before, isBlank c = true) (blankAfter : ∀ c ∈ blanks, isBlank c = true)
    (spelled : value.IsSpelled) (completes : value.source = sofar ++ completion) :
    IsCutTag source.characters where
  nonempty := by simp [read.characters, TagHead.source]
  completes := by
    let spelling : AttributeSpelling := ⟨gap, name, some ⟨before, blanks, value⟩⟩
    have follows : spelling.Follows head.edge := by
      refine ⟨read.allowed, read.named, ?_⟩
      intro assignment member
      cases member
      exact ⟨blankBefore, blankAfter, spelled⟩
    refine ⟨completion ++ ['>'], by simp,
      Or.inl ⟨⟨head.add spelling, []⟩, ⟨read.spelled.add follows, Or.inl rfl⟩, ?_⟩⟩
    simp [StartTag.source, read.characters, spelling, AttributeSpelling.source, Assignment.source,
      completes]

theorem isCutTag_of_endTag (tag : EndTag) {source : List Char} (spelled : tag.IsSpelled)
    (begins : source = '<' :: '/' :: (tag.name ++ tag.ignored)) : IsCutTag source where
  nonempty := by simp [begins]
  completes :=
    ⟨['>'], by simp, Or.inr ⟨tag, spelled, by simp [EndTag.source, begins]⟩⟩

/-- Wherever a tag is cut off, it could have been completed. -/
theorem TagReads.isCutTag {source : TagSource} {mode : TagMode} (reads : TagReads source mode) :
    IsCutTag source.characters := by
  have letter : IsTagName ['a'] := isTagName_singleton rfl
  cases mode with
  | opening =>
      rw [reads.1]
      exact
        { nonempty := by simp
          completes :=
            ⟨['a', '>'], by simp,
              Or.inl ⟨⟨⟨['a'], []⟩, []⟩, ⟨⟨letter, trivial⟩, Or.inl rfl⟩, rfl⟩⟩ }
  | closing =>
      rw [reads.1]
      exact
        { nonempty := by simp
          completes :=
            ⟨['a', '>'], by simp, Or.inr ⟨⟨['a'], []⟩, ⟨letter, by simp, by simp⟩, rfl⟩⟩ }
  | name stretch =>
      obtain ⟨named, characters, _, _⟩ := reads
      rw [characters]
      exact
        { nonempty := by simp
          completes :=
            ⟨['>'], by simp,
              Or.inl ⟨⟨⟨stretch.characters, []⟩, []⟩, ⟨⟨named, trivial⟩, Or.inl rfl⟩,
                by simp [StartTag.source, TagHead.source]⟩⟩ }
  | endName stretch =>
      obtain ⟨named, characters, _, _⟩ := reads
      exact isCutTag_of_endTag ⟨stretch.characters, []⟩ ⟨named, by simp, by simp⟩
        (by simpa using characters)
  | afterEndName =>
      obtain ⟨tag, spelled, characters, _⟩ := reads
      exact isCutTag_of_endTag tag spelled characters
  | beforeAttribute =>
      obtain ⟨head, gap, read, allowed, _⟩ := reads
      exact read.isCutTag (Or.inr allowed)
  | attributeName stretch =>
      obtain ⟨head, gap, read, allowed, named⟩ := reads
      have named :
          NameRead (source.addPart .attributeName stretch) head gap stretch.characters [] :=
        HeadRead.addName (by simpa using read) allowed named
      simpa using named.bare.isCutTag (Or.inl rfl)
  | afterAttributeName =>
      obtain ⟨head, gap, name, before, read, nonempty, blank⟩ := reads
      refine read.bare.isCutTag (Or.inr ?_)
      rw [TagHead.edge_add]
      exact ⟨fun c member => isGapChar_of_isBlank (blank c member), nonempty⟩
  | beforeValue =>
      obtain ⟨head, gap, name, before, after, read, blankBefore, blankAfter⟩ := reads
      have read : NameRead source head gap name (before ++ '=' :: (after ++ [])) := by
        simpa using read
      exact NameRead.isCutTag .missing [] read blankBefore blankAfter trivial rfl
  | quotedValue quote stretch =>
      obtain ⟨head, gap, name, before, after, read, blankBefore, blankAfter, spelled⟩ := reads
      exact NameRead.isCutTag (.quoted quote stretch.characters) [quote] read blankBefore blankAfter
        spelled (by simp [ValueSpelling.source])
  | unquotedValue stretch =>
      obtain ⟨head, gap, name, before, after, read, blankBefore, blankAfter, spelled⟩ := reads
      exact NameRead.isCutTag (.unquoted stretch.characters) [] read blankBefore blankAfter
        spelled (by simp [ValueSpelling.source])
  | slash =>
      obtain ⟨head, gap, read, allowed, _⟩ := reads
      exact read.isCutTag (Or.inr allowed)

theorem finish_markup_completes {start : Position} {kind : MarkupKind}
    {reversed source : List Char} (reads : MarkupReads reversed.reverse source kind) :
    (finish (.markup start kind reversed)).Completes none source := by
  cases kind with
  | declaration =>
      obtain ⟨rfl, noAngle, closed⟩ := reads
      exact Turn.completes_of_construct (.bogusComment .exclamation reversed.reverse false)
        (by simp [Construct.source, BogusMark.char]) rfl rfl
        ⟨noAngle, fun _ => closed, fun _ => rfl⟩
  | comment =>
      obtain ⟨rfl, isContent⟩ := reads
      exact Turn.completes_of_construct (.comment reversed.reverse false)
        (by simp [Construct.source]) rfl rfl ⟨isContent, fun _ => rfl⟩
  | bogusComment =>
      obtain ⟨mark, after, content, rfl, noAngle, closed⟩ := reads
      refine Turn.completes_of_construct (.bogusComment mark after false)
        (by simp [Construct.source]) ?_ ?_
        ⟨noAngle, fun isMark => by simpa using closed isMark [], fun _ => rfl⟩
      · simp [finish, settle, content, Token.lexeme, Construct.lexemes, Construct.phrases,
          Phrase.lexemes]
      · simp [finish, settle, content, Construct.repairs]
  | doctype =>
      obtain ⟨keyword, isKeyword, rfl, noAngle⟩ := reads
      exact Turn.completes_of_construct (.doctype keyword reversed.reverse false)
        (by simp [Construct.source]) rfl rfl ⟨isKeyword, noAngle, fun _ => rfl⟩
  | cdata =>
      obtain ⟨rfl, unclosed⟩ := reads
      exact Turn.completes_of_construct (.cdata reversed.reverse false)
        (by simp [Construct.source]) rfl rfl ⟨unclosed, fun _ => rfl⟩

theorem finish_completes {raw : Option RawElement} {mode : Mode} {rest : List Char}
    (pending : Pending raw mode rest) : (finish mode).Completes raw rest := by
  cases mode with
  | between =>
      obtain ⟨rfl, rfl⟩ := pending
      exact ⟨[], rfl, rfl, rfl, trivial⟩
  | text stretch =>
      obtain ⟨rfl, rfl, openText⟩ := pending
      refine Turn.completes_of_construct (.text stretch.characters) rfl rfl rfl ?_
      exact
        { nonempty := openText.nonempty
          plain := openText.plain
          literal := fun after equality => openText.literal after [] equality
          maximal := by simp }
  | tag source tagMode =>
      obtain ⟨rfl, rfl, reads⟩ := pending
      exact Turn.completes_of_construct (.cutTag source.characters) rfl rfl rfl
        ⟨reads.isCutTag, rfl⟩
  | markup start kind reversed =>
      obtain ⟨rfl, reads⟩ := pending
      exact finish_markup_completes reads
  | rawText element tagStart stretch =>
      obtain ⟨rfl, rfl, lacks⟩ := pending
      unfold finish
      by_cases empty : stretch.reversed = []
      · refine ⟨[], ?_, ?_, ?_, trivial⟩ <;> simp [empty, sourceOf, lexemesOf, Stretch.characters]
      · have nonempty : stretch.characters ≠ [] := by
          simpa [Stretch.characters] using empty
        have isEmpty : stretch.reversed.isEmpty = false := by
          simpa using empty
        have content : stretch.characters.isEmpty = false := by
          simpa using nonempty
        refine Turn.completes_of_construct (.rawText element stretch.characters none) ?_ ?_ ?_
          ⟨rfl, lacks, nonempty, rfl⟩
        · simp [Construct.source]
        · simp [isEmpty, content, Construct.lexemes, Construct.phrases, Phrase.lexemes,
            Token.lexeme, Stretch.text_eq]
        · simp [isEmpty, Construct.repairs, Stretch.text_eq]

end Lexer

/-! ## The whole text -/

theorem Construct.source_ne_nil {raw : Option RawElement} {construct : Construct}
    {rest : List Char} (fits : construct.Fits raw rest) : construct.source ≠ [] := by
  cases raw with
  | none =>
      cases construct with
      | text content => exact IsText.nonempty fits
      | cutTag source => exact fits.1.nonempty
      | rawText element content ending => exact fits.elim
      | _ => simp [source, StartTag.source, TagHead.source, EndTag.source]
  | some due =>
      cases construct with
      | rawText element content ending =>
          cases ending with
          | none =>
              obtain ⟨_, _, nonempty, _⟩ := fits
              simpa [source] using nonempty
          | some tag => simp [source, EndTag.source]
      | _ => exact fits.elim

theorem WellPlaced.source_ne_nil {raw : Option RawElement} {constructs : List Construct}
    {rest : List Char} (placed : WellPlaced raw constructs rest) :
    ∀ construct ∈ constructs, construct.source ≠ [] := by
  induction constructs generalizing raw with
  | nil => simp
  | cons construct others inductionHypothesis =>
      rw [List.forall_mem_cons]
      exact ⟨Construct.source_ne_nil placed.1, inductionHypothesis placed.2⟩

theorem tokenize_constructs (text : String) :
    ∃ constructs, sourceOf constructs = text.toList ∧
      (tokenize text).tokens.map Token.lexeme = lexemesOf constructs ∧
      (tokenize text).repairs.map (·.cause) = constructs.flatMap Construct.repairs ∧
      WellPlaced none constructs [] := by
  have start : Lexer.State.initial.turn.Progresses none [] :=
    Lexer.Turn.progresses_of_pending ⟨rfl, rfl⟩
  obtain ⟨constructs, rest, reads⟩ := Lexer.State.run_progresses start text.toList
  obtain ⟨ending, source, lexemes, repairs, placed⟩ := Lexer.finish_completes reads.pending
  refine ⟨constructs ++ ending, ?_, ?_, ?_, ?_⟩
  · rw [sourceOf_append, source, ← reads.source, List.nil_append]
  · rw [lexemesOf_append, ← reads.lexemes, ← lexemes, ← List.map_append]
    simp [tokenize, Lexer.State.record, Lexer.State.turn]
  · rw [List.flatMap_append, ← reads.repairs, ← repairs, ← List.map_append]
    simp [tokenize, Lexer.State.record, Lexer.State.turn]
  · refine wellPlaced_append ?_ placed
    rw [source, List.append_nil]
    simpa using reads.placed []

theorem tokenizeWithin_of_within {limit : Option Amount} {text : String}
    (within : ∀ amount ∈ limit, amount.exceededBy text.length = false) :
    tokenizeWithin limit text = .ok (tokenize text) := by
  cases limit with
  | none => rfl
  | some amount => simp [tokenizeWithin, within amount rfl]

/-- A text within the limit is a sequence of constructs, each with at least one character. Its
tokens are the tokens of the constructs in order, and its repairs are theirs. -/
theorem tokenizeWithin_constructs {limit : Option Amount} {html : String}
    (within : ∀ amount ∈ limit, amount.exceededBy html.length = false) :
    ∃ tokenization constructs, tokenizeWithin limit html = .ok tokenization ∧
      sourceOf constructs = html.toList ∧
      (∀ construct ∈ constructs, construct.source ≠ []) ∧
      tokenization.tokens.map Token.lexeme = lexemesOf constructs ∧
      tokenization.repairs.map (·.cause) = constructs.flatMap Construct.repairs ∧
      WellPlaced none constructs [] := by
  obtain ⟨constructs, source, lexemes, repairs, placed⟩ := tokenize_constructs html
  exact ⟨tokenize html, constructs, tokenizeWithin_of_within within, source,
    placed.source_ne_nil, lexemes, repairs, placed⟩

theorem tokenizeWithin_constructs_of_cut_tag :
    (∀ amount ∈ some (Amount.whole 9), amount.exceededBy "a<b c=1>x".length = false) ∧
      ∃ tokenization constructs,
        tokenizeWithin (some (.whole 9)) "a<b c=1>x" = .ok tokenization ∧
        sourceOf constructs = "a<b c=1>x".toList ∧
        (∀ construct ∈ constructs, construct.source ≠ []) ∧
        tokenization.tokens.map Token.lexeme = lexemesOf constructs ∧
        tokenization.repairs.map (·.cause) = constructs.flatMap Construct.repairs ∧
        WellPlaced none constructs [] := by
  have within : ∀ amount ∈ some (Amount.whole 9),
      amount.exceededBy "a<b c=1>x".length = false := by
    decide
  exact ⟨within, tokenizeWithin_constructs within⟩

end JsxFragment
