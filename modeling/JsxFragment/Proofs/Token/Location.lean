import JsxFragment.Proofs.Token.PlacedTurn
import JsxFragment.Proofs.Token.Reading

/-!
# Where tokens stand

Tokens and repairs stand in order at characters of the text. What is copied from the text into a
token stands there; only the tokens of an end tag of raw text all stand where it is closed.
-/

namespace JsxFragment

open Text

/-! ## Tokens of constructs -/

/-- The tokens of the construct stand where they are spelled. Those of an end tag of raw text stand
at the last character of the construct, with `before` before it. -/
def Construct.Locates (text before : List Char) (construct : Construct)
    (tokens : List Token) : Prop :=
  match construct with
  | .rawText _ _ (some tag) =>
      ∃ content closing, tokens = content ++ closing ∧
        (∀ token ∈ content, token.IsSpelledIn text) ∧
        closing.map Token.lexeme = tag.phrase.lexemes ∧
        ∀ token ∈ closing, token.position.offset + 1 = (before ++ construct.source).length
  | _ => ∀ token ∈ tokens, token.IsSpelledIn text

/-- The tokens are those of the constructs, one group after the other, and stand where these have
them. -/
inductive Located (text : List Char) : List Char → List Construct → List Token → Prop
  | nil (before : List Char) : Located text before [] []
  | cons {before : List Char} {construct : Construct} {constructs : List Construct}
      {tokens others : List Token} (lexemes : tokens.map Token.lexeme = construct.lexemes)
      (locates : construct.Locates text before tokens)
      (rest : Located text (before ++ construct.source) constructs others) :
      Located text before (construct :: constructs) (tokens ++ others)

theorem Construct.Locates.append {text before : List Char} {construct : Construct}
    {tokens : List Token} (locates : construct.Locates text before tokens) (more : List Char) :
    construct.Locates (text ++ more) before tokens := by
  have spelled {tokens : List Token} (all : ∀ token ∈ tokens, token.IsSpelledIn text) :
      ∀ token ∈ tokens, token.IsSpelledIn (text ++ more) :=
    fun token member => (all token member).append more
  unfold Locates at locates ⊢
  split
  · obtain ⟨content, closing, split, all, lexemes, ends⟩ := locates
    exact ⟨content, closing, split, spelled all, lexemes, ends⟩
  · next notRawText =>
      split at locates
      · exact absurd rfl (notRawText _ _ _)
      · exact spelled locates

theorem Located.extend {text before : List Char} {constructs : List Construct}
    {tokens : List Token} (located : Located text before constructs tokens) (more : List Char) :
    Located (text ++ more) before constructs tokens := by
  induction located with
  | nil before => exact .nil before
  | cons lexemes locates _ inductionHypothesis =>
      exact .cons lexemes (locates.append more) inductionHypothesis

theorem Located.append {text before : List Char} {first second : List Construct}
    {tokens others : List Token} (located : Located text before first tokens)
    (following : Located text (before ++ sourceOf first) second others) :
    Located text before (first ++ second) (tokens ++ others) := by
  induction located with
  | nil before => simpa [sourceOf] using following
  | cons lexemes locates _ inductionHypothesis =>
      rw [List.cons_append, List.append_assoc]
      refine .cons lexemes locates (inductionHypothesis ?_)
      simpa [sourceOf] using following

/-! ## End tags of raw text -/

/-- The construct is raw text with an end tag. -/
def Construct.endsRaw : Construct → Bool
  | .rawText _ _ (some _) => true
  | _ => false

/-- How many tags end among the lexemes. -/
def countEnds (lexemes : List Lexeme) : Nat :=
  lexemes.countP fun lexeme => lexeme.kind = .tagEnd

theorem countEnds_lexemesOf_cons (construct : Construct) (others : List Construct) :
    countEnds (lexemesOf (construct :: others)) =
      countEnds construct.lexemes + countEnds (lexemesOf others) := by
  simp [countEnds, lexemesOf, List.countP_append]

theorem countEnds_pos_of_endsRaw {construct : Construct} (endsRaw : construct.endsRaw = true) :
    0 < countEnds construct.lexemes := by
  cases construct with
  | rawText element content ending =>
      cases ending with
      | none => exact absurd endsRaw (by simp [Construct.endsRaw])
      | some tag =>
          simp [countEnds, Construct.lexemes, Construct.phrases, EndTag.phrase, Phrase.lexemes,
            List.countP_append]
  | _ => exact absurd endsRaw (by simp [Construct.endsRaw])

theorem countEnds_pos_of_opensRaw {construct : Construct} (opens : construct.opensRaw ≠ none) :
    0 < countEnds construct.lexemes := by
  cases construct with
  | startTag tag =>
      simp [countEnds, Construct.lexemes, Construct.phrases, StartTag.phrase, Phrase.lexemes,
        List.countP_append]
  | _ => exact absurd rfl opens

theorem endsRaw_eq_false_of_countEnds {constructs : List Construct}
    (unended : countEnds (lexemesOf constructs) = 0) :
    ∀ construct ∈ constructs, construct.endsRaw = false := by
  induction constructs with
  | nil => simp
  | cons construct others inductionHypothesis =>
      rw [countEnds_lexemesOf_cons] at unended
      rw [List.forall_mem_cons]
      refine ⟨?_, inductionHypothesis (by omega)⟩
      by_contra endsRaw
      have positive := countEnds_pos_of_endsRaw (by simpa using endsRaw)
      omega

/-- Raw text is opened by a tag that ends, and so two tags end where it does. -/
theorem endsRaw_eq_false_of_wellPlaced {constructs : List Construct} {rest : List Char}
    (placed : WellPlaced none constructs rest) (few : countEnds (lexemesOf constructs) ≤ 1) :
    ∀ construct ∈ constructs, construct.endsRaw = false := by
  induction constructs with
  | nil => simp
  | cons construct others inductionHypothesis =>
      rw [countEnds_lexemesOf_cons] at few
      obtain ⟨fits, placedOthers⟩ := placed
      have notRaw : construct.endsRaw = false := by
        cases construct with
        | rawText element content ending => exact fits.elim
        | _ => rfl
      rw [List.forall_mem_cons]
      refine ⟨notRaw, ?_⟩
      cases opens : construct.opensRaw with
      | none =>
          rw [opens] at placedOthers
          exact inductionHypothesis placedOthers (by omega)
      | some due =>
          have positive : 0 < countEnds construct.lexemes :=
            countEnds_pos_of_opensRaw (by simp [opens])
          exact endsRaw_eq_false_of_countEnds (by omega)

theorem located_of_spelled {text before : List Char} {constructs : List Construct}
    {tokens : List Token} (lexemes : tokens.map Token.lexeme = lexemesOf constructs)
    (spelled : ∀ token ∈ tokens, token.IsSpelledIn text)
    (notRaw : ∀ construct ∈ constructs, construct.endsRaw = false) :
    Located text before constructs tokens := by
  induction constructs generalizing before tokens with
  | nil =>
      obtain rfl : tokens = [] := by simpa [lexemesOf] using lexemes
      exact .nil before
  | cons construct others inductionHypothesis =>
      rw [lexemesOf, List.flatMap_cons, List.map_eq_append_iff] at lexemes
      obtain ⟨group, rest, rfl, groupLexemes, restLexemes⟩ := lexemes
      rw [List.forall_mem_append] at spelled
      rw [List.forall_mem_cons] at notRaw
      refine .cons groupLexemes ?_ (inductionHypothesis restLexemes spelled.2 notRaw.2)
      unfold Construct.Locates
      split
      · exact absurd notRaw.1 (by simp [Construct.endsRaw])
      · exact spelled.1

namespace Lexer

/-! ## One character more -/

theorem Pending.raw_eq_none {raw : Option RawElement} {mode : Mode} {rest : List Char}
    (pending : Pending raw mode rest) (notRaw : mode.isRaw = false) : raw = none := by
  cases mode with
  | rawText element tagStart stretch => exact absurd notRaw (by simp [Mode.isRaw])
  | _ => exact pending.1

theorem Turn.Copies.located {text before source : List Char} {low : Nat} {turn : Turn}
    {constructs : List Construct} (copies : turn.Copies text low)
    (lexemes : turn.tokens.map Token.lexeme = lexemesOf constructs)
    (placed : WellPlaced none constructs source) :
    Located text before constructs turn.tokens := by
  have few : countEnds (lexemesOf constructs) ≤ 1 := by
    rw [← lexemes, countEnds, List.countP_map]
    exact copies.ends
  exact located_of_spelled lexemes copies.spelled (endsRaw_eq_false_of_wellPlaced placed few)

/-- The tokens of raw text that ends stand where it says. -/
theorem Turn.EndsRaw.locates {text before content : List Char} {turn : Turn}
    {element : RawElement} {tag : EndTag} (ends : turn.EndsRaw text)
    (lexemes : turn.tokens.map Token.lexeme =
      (Construct.rawText element content (some tag)).lexemes)
    (whole : text = before ++ (Construct.rawText element content (some tag)).source) :
    (Construct.rawText element content (some tag)).Locates text before turn.tokens := by
  obtain ⟨copied, closing, name, split, spelled, closingLexemes, offsets⟩ := ends
  have lexemesSplit : copied.map Token.lexeme ++ closing.map Token.lexeme =
      (if content.isEmpty then [] else [⟨.text, String.ofList content⟩]) ++
        tag.phrase.lexemes := by
    rw [← List.map_append, ← split, lexemes]
    cases content with
    | nil => rfl
    | cons first rest => rfl
  have sameLength : (closing.map Token.lexeme).length = tag.phrase.lexemes.length := by
    rw [closingLexemes]
    rfl
  refine ⟨copied, closing, split, spelled, ?_, ?_⟩
  · exact (List.append_inj' lexemesSplit sameLength).2
  · intro token member
    rw [offsets token member, whole]

theorem inRawText_located {element : RawElement} {tagStart : Position} {stretch : Stretch}
    {before : List Char} {c : Char} (ends : stretch.Ends (before ++ stretch.characters))
    (within : tagStart.Within (before ++ stretch.characters))
    (lacks : LacksEndTag element stretch.characters) :
    let text := before ++ stretch.characters
    let turn := inRawText element tagStart stretch (.after text) c
    ∃ constructs rest, turn.Reads (some element) (stretch.characters ++ [c]) constructs rest ∧
      Located (text ++ [c]) before constructs turn.tokens := by
  intro text turn
  rcases inRawText_reads lacks with reads | ⟨content, tag, reads⟩
  · refine ⟨_, _, reads, ?_⟩
    have noTokens : turn.tokens = [] := by simpa [lexemesOf] using reads.lexemes
    rw [noTokens]
    exact .nil before
  · refine ⟨_, _, reads, ?_⟩
    have lexemes : turn.tokens.map Token.lexeme =
        (Construct.rawText element content (some tag)).lexemes := by
      simpa [lexemesOf] using reads.lexemes
    have whole : text ++ [c] =
        before ++ (Construct.rawText element content (some tag)).source := by
      rw [List.append_assoc, reads.source]
      simp [sourceOf]
    rcases (inRawText_placed (c := c) ends within).2 with noTokens | endsRaw
    · -- A turn without tokens ends no tag, but this construct does.
      have positive : 0 < countEnds (Construct.rawText element content (some tag)).lexemes :=
        countEnds_pos_of_endsRaw rfl
      rw [← lexemes, noTokens] at positive
      exact absurd positive (Nat.lt_irrefl 0)
    · have located := Located.cons lexemes (endsRaw.locates lexemes whole) (.nil _)
      rwa [List.append_nil] at located

theorem react_located {raw : Option RawElement} {mode : Mode} {before rest : List Char} {c : Char}
    (placed : mode.Placed (before ++ rest)) (pending : Pending raw mode rest) :
    ∃ constructs left,
      (react mode (.after (before ++ rest)) c).Reads raw (rest ++ [c]) constructs left ∧
        Located (before ++ rest ++ [c]) before constructs
          (react mode (.after (before ++ rest)) c).tokens := by
  by_cases isRaw : mode.isRaw = true
  · cases mode with
    | rawText element tagStart stretch =>
        obtain ⟨rfl, rfl, lacks⟩ := pending
        exact inRawText_located placed.1 placed.2 lacks
    | _ => exact absurd isRaw (by simp [Mode.isRaw])
  · -- One tag at most ends in this turn, too few for raw text to be opened and closed again.
    have notRaw : mode.isRaw = false := by simpa using isRaw
    obtain rfl := pending.raw_eq_none notRaw
    obtain ⟨constructs, left, reads⟩ : (react mode (.after (before ++ rest)) c).Progresses none
        (rest ++ [c]) := react_progresses pending
    exact ⟨constructs, left, reads, (react_copies placed notRaw).located reads.lexemes
      (reads.placed [])⟩

theorem react_placed {mode : Mode} {text : List Char} {c : Char} (placed : mode.Placed text) :
    (react mode (.after text) c).Placed (text ++ [c]) (mode.floor text)
      (mode.repairFloor text) := by
  cases mode with
  | rawText element tagStart stretch => exact (inRawText_placed placed.1 placed.2).1
  | _ => exact (react_copies placed rfl).toPlaced

/-! ## All of the text -/

/-- All that the lexer has read is the text, and what came of it is where it stands there. -/
structure State.Locates (text : List Char) (state : State) : Prop where
  position : state.position = .after text
  placed : state.turn.Placed text 0 0
  located : ∃ constructs rest, state.turn.Reads none text constructs rest ∧
    Located text [] constructs state.turn.tokens

theorem State.locates_initial : State.initial.Locates [] where
  position := rfl
  placed := Turn.placed_of_mode trivial (Nat.le_refl _) (Nat.le_refl _)
  located := ⟨[], [], Turn.reads_of_pending ⟨rfl, rfl⟩, .nil []⟩

theorem State.Locates.step {text : List Char} {state : State} (locates : state.Locates text)
    (c : Char) : (state.step c).Locates (text ++ [c]) := by
  obtain ⟨position, placed, constructs, rest, reads, located⟩ := locates
  have whole := reads.source
  refine ⟨?_, ?_, ?_⟩
  · change state.position.advance c = _
    rw [position, Position.after_concat]
  · rw [State.turn_step, position]
    exact placed.append (react_placed placed.mode)
  · have modePlaced : state.mode.Placed (sourceOf constructs ++ rest) := whole ▸ placed.mode
    obtain ⟨others, left, readsOthers, locatedOthers⟩ :=
      react_located (c := c) modePlaced reads.pending
    rw [← whole] at readsOthers locatedOthers
    rw [State.turn_step, position]
    exact ⟨constructs ++ others, left, reads.append readsOthers,
      (located.extend [c]).append locatedOthers⟩

theorem State.Locates.run {text : List Char} {state : State} (locates : state.Locates text)
    (more : List Char) : (state.run more).Locates (text ++ more) := by
  induction more generalizing state text with
  | nil => simpa [State.run] using locates
  | cons c others inductionHypothesis =>
      have ran := inductionHypothesis (locates.step c)
      rw [List.append_assoc] at ran
      exact ran

theorem finish_placed {mode : Mode} {text : List Char} (placed : mode.Placed text) :
    (finish mode).Placed text (mode.floor text) (mode.repairFloor text) := by
  cases mode with
  | rawText element tagStart stretch => exact (finish_rawText_placed placed.1 placed.2).1
  | _ => exact (finish_copies placed rfl).toPlaced

theorem finish_located {raw : Option RawElement} {mode : Mode} {text before source : List Char}
    {constructs : List Construct} (placed : mode.Placed text) (pending : Pending raw mode source)
    (lexemes : (finish mode).tokens.map Token.lexeme = lexemesOf constructs)
    (wellPlaced : WellPlaced raw constructs []) :
    Located text before constructs (finish mode).tokens := by
  by_cases isRaw : mode.isRaw = true
  · cases mode with
    | rawText element tagStart stretch =>
        have areTexts : ∀ token ∈ (finish (.rawText element tagStart stretch)).tokens,
            token.kind = .text ∧ token.IsSpelledIn text :=
          (finish_rawText_placed placed.1 placed.2).2
        have unended : countEnds (lexemesOf constructs) = 0 := by
          rw [← lexemes, countEnds, List.countP_map, List.countP_eq_zero]
          intro token member
          simp [Token.lexeme, (areTexts token member).1]
        exact located_of_spelled lexemes (fun token member => (areTexts token member).2)
          (endsRaw_eq_false_of_countEnds unended)
    | _ => exact absurd isRaw (by simp [Mode.isRaw])
  · have notRaw : mode.isRaw = false := by simpa using isRaw
    obtain rfl := pending.raw_eq_none notRaw
    exact (finish_copies placed notRaw).located lexemes wellPlaced

end Lexer

/-- Every token and every repair stands at a character of the text, on its line and in its column,
and they are in the order in which they stand. The text has what the tokens are copied from where
they stand; only an end tag of raw text stands where it is closed. -/
theorem tokenize_located (html : String) :
    (∃ constructs, sourceOf constructs = html.toList ∧ WellPlaced none constructs [] ∧
      Located html.toList [] constructs (tokenize html).tokens) ∧
    (∀ token ∈ (tokenize html).tokens, token.position.Within html.toList) ∧
    (∀ repair ∈ (tokenize html).repairs, repair.position.Within html.toList) ∧
    ((tokenize html).tokens.map (·.position.offset)).Pairwise (· ≤ ·) ∧
    ((tokenize html).repairs.map (·.position.offset)).Pairwise (· ≤ ·) := by
  let read := Lexer.State.initial.run html.toList
  have locates : read.Locates html.toList := Lexer.State.locates_initial.run html.toList
  obtain ⟨_, placed, constructs, rest, reads, located⟩ := locates
  obtain ⟨ending, source, lexemes, _, wellPlaced⟩ := Lexer.finish_completes reads.pending
  have ended : (read.record (Lexer.finish read.mode)).turn.Placed (html.toList ++ []) 0 0 := by
    have following : (Lexer.finish read.mode).Placed html.toList
        (read.turn.mode.floor html.toList) (read.turn.mode.repairFloor html.toList) :=
      Lexer.finish_placed placed.mode
    rw [Lexer.State.turn_record]
    exact placed.append (by rwa [List.append_nil])
  rw [List.append_nil] at ended
  have tokens : (tokenize html).tokens = read.turn.tokens ++ (Lexer.finish read.mode).tokens := by
    simp [read, tokenize, Lexer.State.record, Lexer.State.turn]
  refine ⟨⟨constructs ++ ending, ?_, ?_, ?_⟩, ended.tokens, ended.repairs,
    ended.tokensAscend.pairwise, ended.repairsAscend.pairwise⟩
  · rw [sourceOf_append, source, ← reads.source]
  · refine wellPlaced_append ?_ wellPlaced
    rw [source, List.append_nil]
    simpa using reads.placed []
  · rw [tokens]
    exact located.append (Lexer.finish_located placed.mode reads.pending lexemes wellPlaced)

end JsxFragment
