import JsxFragment.Proofs.Token.Pending
import JsxFragment.Proofs.Token.Place

/-!
# Places of what is under way

What was read of a construct ends where the reading stands, so its start is known from its
characters. Every place that the lexer keeps is that of a character that was read, and they are kept
in order.
-/

namespace JsxFragment

/-! ## Tokens -/

/-- Tokens of the kind have a value that is copied from the place where they stand. -/
def TokenKind.isCopied : TokenKind → Bool
  | .text | .tagStart | .tagName | .attributeName => true
  | .attributeValue | .tagEnd | .comment | .cdata | .doctype => false

/-- The text has the value of the token at its place, if the token is copied from it. -/
def Token.IsSpelledIn (text : List Char) (token : Token) : Prop :=
  token.kind.isCopied = true → token.value.toList <+: text.drop token.position.offset

theorem Token.IsSpelledIn.append {text : List Char} {token : Token}
    (spelled : token.IsSpelledIn text) (more : List Char) : token.IsSpelledIn (text ++ more) := by
  intro copied
  rw [List.drop_append]
  exact (spelled copied).trans (List.prefix_append _ _)

/-! ## Ascending offsets -/

/-- The offsets do not decrease, from `low` on and up to `high`. -/
def Ascends (low : Nat) : List Nat → Nat → Prop
  | [], high => low ≤ high
  | offset :: rest, high => low ≤ offset ∧ Ascends offset rest high

namespace Ascends

theorem le {low high : Nat} {offsets : List Nat} (ascends : Ascends low offsets high) :
    low ≤ high := by
  induction offsets generalizing low with
  | nil => exact ascends
  | cons offset rest inductionHypothesis =>
      exact Nat.le_trans ascends.1 (inductionHypothesis ascends.2)

theorem append {low middle high : Nat} {first second : List Nat}
    (ascendsFirst : Ascends low first middle) (ascendsSecond : Ascends middle second high) :
    Ascends low (first ++ second) high := by
  induction first generalizing low with
  | nil =>
      cases second with
      | nil => exact Nat.le_trans ascendsFirst ascendsSecond
      | cons offset rest => exact ⟨Nat.le_trans ascendsFirst ascendsSecond.1, ascendsSecond.2⟩
  | cons offset rest inductionHypothesis =>
      exact ⟨ascendsFirst.1, inductionHypothesis ascendsFirst.2⟩

theorem raise {low middle high : Nat} {offsets : List Nat} (ascends : Ascends low offsets middle)
    (higher : middle ≤ high) : Ascends low offsets high := by
  have raised : Ascends low (offsets ++ []) high := ascends.append higher
  rwa [List.append_nil] at raised

theorem pairwise {low high : Nat} {offsets : List Nat} (ascends : Ascends low offsets high) :
    offsets.Pairwise (· ≤ ·) := by
  have bounded : ∀ low offsets, Ascends low offsets high → ∀ offset ∈ offsets, low ≤ offset := by
    intro low offsets
    induction offsets generalizing low with
    | nil => simp
    | cons first rest inductionHypothesis =>
        intro ascends
        rw [List.forall_mem_cons]
        refine ⟨ascends.1, fun offset member => ?_⟩
        exact Nat.le_trans ascends.1 (inductionHypothesis first ascends.2 offset member)
  induction offsets generalizing low with
  | nil => exact List.Pairwise.nil
  | cons offset rest inductionHypothesis =>
      exact List.Pairwise.cons (bounded offset rest ascends.2) (inductionHypothesis ascends.2)

end Ascends

namespace Lexer

/-! ## Stretches -/

/-- The stretch is the end of the text. -/
def Stretch.Ends (text : List Char) (stretch : Stretch) : Prop :=
  ∃ before, text = before ++ stretch.characters ∧ stretch.start = Position.after before

namespace Stretch

theorem ends_singleton (text : List Char) (c : Char) :
    Stretch.Ends (text ++ [c]) ⟨.after text, [c]⟩ :=
  ⟨text, rfl, rfl⟩

theorem Ends.push {text : List Char} {stretch : Stretch} (ends : stretch.Ends text) (c : Char) :
    (stretch.push c).Ends (text ++ [c]) := by
  obtain ⟨before, rfl, start⟩ := ends
  exact ⟨before, by simp, start⟩

theorem Ends.within {text : List Char} {stretch : Stretch} (ends : stretch.Ends text)
    (nonempty : stretch.characters ≠ []) : stretch.start.Within text := by
  obtain ⟨before, rfl, start⟩ := ends
  rw [start]
  exact Position.within_after nonempty

theorem Ends.isSpelledIn {text : List Char} {stretch : Stretch} (ends : stretch.Ends text)
    (kind : TokenKind) : Token.IsSpelledIn text ⟨kind, stretch.text, stretch.start⟩ := by
  obtain ⟨before, rfl, start⟩ := ends
  intro _
  have copied : (before ++ stretch.characters).drop stretch.start.offset =
      stretch.text.toList := by
    rw [start, Position.offset_after, List.drop_left, text_eq, String.toList_ofList]
  exact ⟨[], (List.append_nil _).trans copied.symm⟩

end Stretch

/-! ## Tags -/

/-- The tag is the end of the text, and its parts stand in order up to the offset `high`. -/
structure TagSource.Placed (text : List Char) (source : TagSource) (high : Nat) : Prop where
  ends : ∃ before, text = before ++ source.characters ∧ source.start = Position.after before
  begins : ['<'] <+: source.characters
  within : ∀ part ∈ source.parts, part.position.Within text
  spelled : ∀ part ∈ source.parts, part.IsSpelledIn text
  unended : ∀ part ∈ source.parts, part.kind ≠ .tagEnd
  ascends :
    Ascends source.start.offset (source.parts.reverse.map (·.position.offset)) high

namespace TagSource

variable {text : List Char} {source : TagSource} {high : Nat}

theorem placed_opened (text : List Char) :
    (opened (.after text)).Placed (text ++ ['<']) text.length where
  ends := ⟨text, rfl, rfl⟩
  begins := List.prefix_rfl
  within := by simp [opened]
  spelled := by simp [opened]
  unended := by simp [opened]
  ascends := Nat.le_of_eq (Position.offset_after text)

theorem Placed.start_within (placed : source.Placed text high) : source.start.Within text := by
  obtain ⟨before, rfl, start⟩ := placed.ends
  rw [start]
  exact Position.within_after (List.ne_nil_of_mem (placed.begins.subset List.mem_cons_self))

theorem Placed.push (placed : source.Placed text high) (c : Char) :
    (source.push c).Placed (text ++ [c]) high where
  ends := by
    obtain ⟨before, rfl, start⟩ := placed.ends
    exact ⟨before, by simp, start⟩
  begins := by
    rw [characters_push]
    exact placed.begins.trans (List.prefix_append _ _)
  within := fun part member => (placed.within part member).append [c]
  spelled := fun part member => (placed.spelled part member).append [c]
  unended := placed.unended
  ascends := placed.ascends

theorem Placed.raise (placed : source.Placed text high) {higher : Nat} (le : high ≤ higher) :
    source.Placed text higher :=
  { placed with ascends := placed.ascends.raise le }

theorem Placed.addPart {stretch : Stretch} {kind : TokenKind}
    (placed : source.Placed text stretch.start.offset) (within : stretch.start.Within text)
    (spelled : Token.IsSpelledIn text ⟨kind, stretch.text, stretch.start⟩)
    (unended : kind ≠ .tagEnd) :
    (source.addPart kind stretch).Placed text stretch.start.offset where
  ends := placed.ends
  begins := placed.begins
  within := List.forall_mem_cons.mpr ⟨within, placed.within⟩
  spelled := List.forall_mem_cons.mpr ⟨spelled, placed.spelled⟩
  unended := List.forall_mem_cons.mpr ⟨unended, placed.unended⟩
  ascends := by
    have last : Ascends stretch.start.offset [stretch.start.offset] stretch.start.offset :=
      ⟨Nat.le_refl _, Nat.le_refl _⟩
    have all := placed.ascends.append last
    simpa [TagSource.addPart] using all

/-- The part that begins a tag stands where the tag does. -/
theorem Placed.beginParts (placed : source.Placed text high) {value : String}
    (begins : value.toList <+: source.characters) :
    (source.beginParts value).Placed text high where
  ends := placed.ends
  begins := placed.begins
  within := List.forall_mem_singleton.mpr placed.start_within
  spelled := by
    refine List.forall_mem_singleton.mpr fun _ => ?_
    obtain ⟨before, rfl, start⟩ := placed.ends
    rw [start, Position.offset_after, List.drop_left]
    exact begins
  unended := List.forall_mem_singleton.mpr TokenKind.noConfusion
  ascends := ⟨Nat.le_refl _, placed.ascends.le⟩

end TagSource

/-- The tag and the stretch under way in it are where they are said to be. -/
def TagMode.Placed (text : List Char) (source : TagSource) : TagMode → Prop
  | .opening => source.Placed text text.length ∧ source.characters = ['<']
  | .closing => source.Placed text text.length ∧ source.characters = ['<', '/']
  | .name stretch | .endName stretch | .attributeName stretch =>
      source.Placed text stretch.start.offset ∧ stretch.Ends text ∧ stretch.characters ≠ []
  | .quotedValue _ stretch | .unquotedValue stretch =>
      source.Placed text stretch.start.offset ∧ stretch.start.Within text
  | .afterEndName | .beforeAttribute | .afterAttributeName | .beforeValue | .slash =>
      source.Placed text text.length

/-! ## Modes and turns -/

/-- What is under way is where it is said to be. -/
def Mode.Placed (text : List Char) : Mode → Prop
  | .between => True
  | .text stretch => stretch.Ends text ∧ stretch.characters ≠ []
  | .tag source mode => mode.Placed text source
  | .markup start _ _ => start.Within text
  | .rawText _ tagStart stretch => stretch.Ends text ∧ tagStart.Within text

/-- The offset where what is under way begins. No token that is whole stands after it. -/
def Mode.floor (text : List Char) : Mode → Nat
  | .between => text.length
  | .text stretch => stretch.start.offset
  | .tag source _ => source.start.offset
  | .markup start _ _ => start.offset
  | .rawText _ _ stretch => stretch.start.offset

/-- The offset where what may still be repaired begins, which for raw text is its start tag. -/
def Mode.repairFloor (text : List Char) : Mode → Nat
  | .rawText _ tagStart _ => tagStart.offset
  | mode => mode.floor text

/-- What the turn brings about is where it is said to be: tokens from the offset `low` on, repairs
from `repairLow` on, each in order and none after what is under way. -/
structure Turn.Placed (text : List Char) (low repairLow : Nat) (turn : Turn) : Prop where
  mode : turn.mode.Placed text
  tokens : ∀ token ∈ turn.tokens, token.position.Within text
  tokensAscend : Ascends low (turn.tokens.map (·.position.offset)) (turn.mode.floor text)
  repairs : ∀ repair ∈ turn.repairs, repair.position.Within text
  repairsAscend :
    Ascends repairLow (turn.repairs.map (·.position.offset)) (turn.mode.repairFloor text)

theorem Turn.Placed.append {text more : List Char} {low repairLow : Nat} {turn next : Turn}
    (placed : turn.Placed text low repairLow)
    (following : next.Placed (text ++ more) (turn.mode.floor text)
      (turn.mode.repairFloor text)) :
    Turn.Placed (text ++ more) low repairLow
      { mode := next.mode
        tokens := turn.tokens ++ next.tokens
        repairs := turn.repairs ++ next.repairs } where
  mode := following.mode
  tokens := List.forall_mem_append.mpr
    ⟨fun token member => (placed.tokens token member).append more, following.tokens⟩
  tokensAscend := by
    rw [List.map_append]
    exact placed.tokensAscend.append following.tokensAscend
  repairs := List.forall_mem_append.mpr
    ⟨fun repair member => (placed.repairs repair member).append more, following.repairs⟩
  repairsAscend := by
    rw [List.map_append]
    exact placed.repairsAscend.append following.repairsAscend

/-- The turn only goes on with what is under way. -/
theorem Turn.placed_of_mode {text : List Char} {low repairLow : Nat} {mode : Mode}
    (placed : mode.Placed text) (le : low ≤ mode.floor text)
    (repairLe : repairLow ≤ mode.repairFloor text) :
    Turn.Placed text low repairLow { mode } where
  mode := placed
  tokens := by simp
  tokensAscend := le
  repairs := by simp
  repairsAscend := repairLe

end Lexer

end JsxFragment
