import JsxFragment.Conversion
import JsxFragment.Proofs.Token.Place

/-!
# Texts one after the other

The lexer copies places and advances them, but never decides by one. Between two constructs it has
nothing under way, so it reads the rest of a text as it would read it alone, with its places behind
what was read before.
-/

namespace JsxFragment

variable {move : Position → Position}

def Token.moved (move : Position → Position) (token : Token) : Token :=
  { token with position := move token.position }

def TokenRepair.moved (move : Position → Position) (repair : TokenRepair) : TokenRepair :=
  { repair with position := move repair.position }

namespace Lexer

/-! ## Moving what is under way -/

def Stretch.moved (move : Position → Position) (stretch : Stretch) : Stretch :=
  { stretch with start := move stretch.start }

def TagSource.moved (move : Position → Position) (source : TagSource) : TagSource :=
  { source with start := move source.start, parts := source.parts.map (Token.moved move) }

def TagMode.moved (move : Position → Position) : TagMode → TagMode
  | .name stretch => .name (stretch.moved move)
  | .endName stretch => .endName (stretch.moved move)
  | .attributeName stretch => .attributeName (stretch.moved move)
  | .quotedValue quote stretch => .quotedValue quote (stretch.moved move)
  | .unquotedValue stretch => .unquotedValue (stretch.moved move)
  | .opening => .opening
  | .closing => .closing
  | .afterEndName => .afterEndName
  | .beforeAttribute => .beforeAttribute
  | .afterAttributeName => .afterAttributeName
  | .beforeValue => .beforeValue
  | .slash => .slash

def Mode.moved (move : Position → Position) : Mode → Mode
  | .between => .between
  | .text stretch => .text (stretch.moved move)
  | .tag source mode => .tag (source.moved move) (mode.moved move)
  | .markup start kind reversed => .markup (move start) kind reversed
  | .rawText element tagStart stretch => .rawText element (move tagStart) (stretch.moved move)

def Turn.moved (move : Position → Position) (turn : Turn) : Turn :=
  { mode := turn.mode.moved move
    tokens := turn.tokens.map (Token.moved move)
    repairs := turn.repairs.map (TokenRepair.moved move) }

@[simp]
theorem Stretch.text_moved (stretch : Stretch) : (stretch.moved move).text = stretch.text :=
  rfl

@[simp]
theorem Stretch.push_moved (stretch : Stretch) (c : Char) :
    (stretch.moved move).push c = (stretch.push c).moved move :=
  rfl

@[simp]
theorem TagSource.push_moved (source : TagSource) (c : Char) :
    (source.moved move).push c = (source.push c).moved move :=
  rfl

@[simp]
theorem TagSource.addPart_moved (source : TagSource) (kind : TokenKind) (stretch : Stretch) :
    (source.moved move).addPart kind (stretch.moved move) =
      (source.addPart kind stretch).moved move :=
  rfl

@[simp]
theorem TagSource.addName_moved (source : TagSource) (stretch : Stretch) :
    (source.moved move).addName (stretch.moved move) = (source.addName stretch).moved move :=
  rfl

@[simp]
theorem TagSource.beginParts_moved (source : TagSource) (value : String) :
    (source.moved move).beginParts value = (source.beginParts value).moved move :=
  rfl

theorem Turn.moved_ite (condition : Prop) [Decidable condition] (first second : Turn) :
    (if condition then first else second).moved move =
      if condition then first.moved move else second.moved move :=
  apply_ite (Turn.moved move) condition first second

/-! ## One character -/

theorem inText_moved (stretch : Stretch) (position : Position) (c : Char) :
    inText (stretch.moved move) (move position) c = (inText stretch position c).moved move := by
  simp only [inText, Turn.moved_ite]
  rfl

theorem afterLess_moved (source : TagSource) (position : Position) (c : Char) :
    afterLess (source.moved move) (move position) c =
      (afterLess source position c).moved move := by
  simp only [afterLess, Turn.moved_ite, ← inText_moved]
  rfl

theorem afterLessSlash_moved (source : TagSource) (position : Position) (c : Char) :
    afterLessSlash (source.moved move) (move position) c =
      (afterLessSlash source position c).moved move := by
  simp only [afterLessSlash, Turn.moved_ite, ← inText_moved]
  rfl

theorem inMarkup_moved (start : Position) (reversed : List Char) (c : Char) (kind : MarkupKind) :
    inMarkup (move start) reversed c kind = (inMarkup start reversed c kind).moved move := by
  cases kind with
  | declaration =>
      simp only [inMarkup, Turn.moved_ite]
      cases declared (c :: reversed).reverse <;> rfl
  | comment =>
      simp only [inMarkup, Turn.moved_ite]
      congr 1
      split <;> rfl
  | cdata =>
      simp only [inMarkup, Turn.moved_ite]
      congr 1
      split <;> rfl
  | bogusComment | doctype =>
      simp only [inMarkup, Turn.moved_ite]
      rfl

theorem inRawText_moved (element : RawElement) (tagStart : Position) (stretch : Stretch)
    (position : Position) (c : Char) :
    inRawText element (move tagStart) (stretch.moved move) (move position) c =
      (inRawText element tagStart stretch position c).moved move := by
  have reversed : (stretch.moved move).reversed = stretch.reversed := rfl
  simp only [inRawText, Turn.moved_ite, reversed]
  cases element.endTag? stretch.reversed with
  | none => rfl
  | some split => cases empty : split.1.isEmpty <;> simp [empty] <;> rfl

variable (advances : ∀ position c, move (position.advance c) = (move position).advance c)
include advances

theorem commit_moved (source : TagSource) (marker : String) (position : Position) :
    commit (source.moved move) marker (move position) =
      (commit source marker position).moved move := by
  have raw : (source.moved move).raw = source.raw := rfl
  have tokens :
      (Token.mk .tagEnd marker (move position) :: (source.moved move).parts).reverse =
        (Token.mk .tagEnd marker position :: source.parts).reverse.map (Token.moved move) := by
    rw [List.map_reverse]
    rfl
  simp only [commit, raw, tokens, ← advances]
  cases source.raw with
  | none => rfl
  | some element =>
      rw [Turn.moved_ite]
      rfl

theorem beforeAttribute_moved (source : TagSource) (position : Position) (c : Char) :
    beforeAttribute (source.moved move) (move position) c =
      (beforeAttribute source position c).moved move := by
  simp only [beforeAttribute, Turn.moved_ite, ← commit_moved advances]
  rfl

theorem inTag_moved (source : TagSource) (position : Position) (c : Char) (mode : TagMode) :
    inTag (source.moved move) (move position) c (mode.moved move) =
      (inTag source position c mode).moved move := by
  cases mode with
  | opening => exact afterLess_moved source position c
  | closing => exact afterLessSlash_moved source position c
  | beforeAttribute => exact beforeAttribute_moved advances source position c
  | slash =>
      simp only [inTag, TagMode.moved, Turn.moved_ite, ← commit_moved advances,
        ← beforeAttribute_moved advances]
  | _ =>
      simp only [inTag, TagMode.moved, Turn.moved_ite, ← commit_moved advances,
        ← beforeAttribute_moved advances]
      rfl

theorem react_moved (mode : Mode) (position : Position) (c : Char) :
    react (mode.moved move) (move position) c = (react mode position c).moved move := by
  cases mode with
  | between =>
      simp only [react, Mode.moved, Turn.moved_ite]
      rfl
  | text stretch => exact inText_moved stretch position c
  | tag source tagMode => exact inTag_moved advances (source.push c) position c tagMode
  | markup start kind reversed => exact inMarkup_moved start reversed c kind
  | rawText element tagStart stretch => exact inRawText_moved element tagStart stretch position c

omit advances in
theorem finish_moved (mode : Mode) : finish (mode.moved move) = (finish mode).moved move := by
  cases mode with
  | between | text stretch | tag source tagMode => rfl
  | markup start kind reversed => cases kind <;> rfl
  | rawText element tagStart stretch =>
      have reversed : (stretch.moved move).reversed = stretch.reversed := rfl
      simp only [finish, Mode.moved, Turn.moved_ite, reversed]
      rfl

/-! ## More characters -/

namespace State

/-- The lexer that has read more after `before`, as another one reads it from the beginning. -/
def continuedBy (move : Position → Position) (before state : State) : State :=
  { position := move state.position
    mode := state.mode.moved move
    tokens := state.tokens.map (Token.moved move) ++ before.tokens
    repairs := state.repairs.map (TokenRepair.moved move) ++ before.repairs }

omit advances in
@[simp]
theorem position_continuedBy (before state : State) :
    (before.continuedBy move state).position = move state.position :=
  rfl

omit advances in
@[simp]
theorem mode_continuedBy (before state : State) :
    (before.continuedBy move state).mode = state.mode.moved move :=
  rfl

omit advances in
theorem record_continuedBy (before state : State) (turn : Turn) :
    (before.continuedBy move state).record (turn.moved move) =
      before.continuedBy move (state.record turn) := by
  simp [record, continuedBy, Turn.moved]

theorem step_continuedBy (before state : State) (c : Char) :
    (before.continuedBy move state).step c = before.continuedBy move (state.step c) := by
  rw [step, position_continuedBy, mode_continuedBy, react_moved advances, record_continuedBy,
    ← advances]
  rfl

theorem run_continuedBy (before state : State) (text : List Char) :
    (before.continuedBy move state).run text = before.continuedBy move (state.run text) := by
  induction text generalizing state with
  | nil => rfl
  | cons c rest inductionHypothesis =>
      rw [run, run, List.foldl_cons, List.foldl_cons, step_continuedBy advances]
      exact inductionHypothesis (state.step c)

omit advances in
theorem position_run (state : State) (text : List Char) :
    (state.run text).position = text.foldl Position.advance state.position := by
  induction text generalizing state with
  | nil => rfl
  | cons c rest inductionHypothesis => exact inductionHypothesis (state.step c)

omit advances in
theorem continuedBy_initial {before : State} (settled : before.mode = .between)
    (begins : move .first = before.position) : before.continuedBy move initial = before := by
  rw [continuedBy, initial]
  dsimp only
  rw [begins, Mode.moved, ← settled]
  rfl

end State

end Lexer

/-- Where nothing is under way a text can be cut in two, and its tokens and repairs are those of the
two texts, those of the second one with their places behind the first. -/
theorem tokenizeWithin_append {first second : String}
    (boundary : (Lexer.State.initial.run first.toList).mode = .between) :
    tokenizeWithin none (first ++ second) =
      .ok
        { tokens :=
            (tokenize first).tokens ++
              (tokenize second).tokens.map (Token.moved (Position.behind first.toList))
          repairs :=
            (tokenize first).repairs ++
              (tokenize second).repairs.map (TokenRepair.moved (Position.behind first.toList))
          characterCount := first.length + second.length } := by
  have advances := Position.behind_advance first.toList
  have begins := Position.behind_first first.toList
  -- Nothing else is used of how a place comes to stand behind the first text.
  generalize Position.behind first.toList = move at advances begins ⊢
  generalize read : Lexer.State.initial.run first.toList = before at boundary
  have settled : tokenize first =
      { tokens := before.tokens.reverse, repairs := before.repairs.reverse,
        characterCount := first.length } := by
    simp [tokenize, read, boundary, Lexer.finish, Lexer.State.record]
  generalize readSecond : Lexer.State.initial.run second.toList = state
  have whole : Lexer.State.initial.run (first ++ second).toList = before.continuedBy move state := by
    have place : move .first = before.position := by
      rw [← read, Lexer.State.position_run]
      exact begins
    rw [← readSecond, ← Lexer.State.run_continuedBy advances,
      Lexer.State.continuedBy_initial boundary place, ← read, String.toList_append]
    exact List.foldl_append
  have ended :
      (before.continuedBy move state).record (Lexer.finish (state.mode.moved move)) =
        before.continuedBy move (state.record (Lexer.finish state.mode)) := by
    rw [Lexer.finish_moved, Lexer.State.record_continuedBy]
  have joined : tokenizeWithin none (first ++ second) = .ok (tokenize (first ++ second)) := rfl
  rw [joined, settled]
  simp only [tokenize, whole, readSecond, Lexer.State.mode_continuedBy, ended]
  simp [Lexer.State.continuedBy]

theorem tokenizeWithin_append_after_line :
    (Lexer.State.initial.run "<i>\n</i>".toList).mode = .between ∧
      tokenizeWithin none ("<i>\n</i>" ++ "x\ny<") =
        .ok
          { tokens :=
              (tokenize "<i>\n</i>").tokens ++
                [⟨.text, "x\ny", { line := 2, column := 5, offset := 8 }⟩,
                  ⟨.text, "<", { line := 3, column := 2, offset := 11 }⟩]
            repairs := [⟨.unterminatedTag "<", { line := 3, column := 2, offset := 11 }⟩]
            characterCount := 12 } :=
  ⟨rfl, (tokenizeWithin_append rfl).trans rfl⟩

end JsxFragment
