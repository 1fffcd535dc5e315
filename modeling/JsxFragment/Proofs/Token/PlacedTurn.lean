import JsxFragment.Proofs.Token.Placed
import JsxFragment.Proofs.Token.RawText

/-!
# Turns keep places

Every character leaves what is under way where it is said to be, and so does the end of the text.
The tokens of a turn stand where they are spelled, unless the turn closes raw text.
-/

namespace JsxFragment

open Text

namespace Lexer

/-- All tokens of the turn stand where they are spelled, and it ends no more than one tag. -/
structure Turn.Copies (text : List Char) (low : Nat) (turn : Turn) : Prop
    extends turn.Placed text low low where
  spelled : ∀ token ∈ turn.tokens, token.IsSpelledIn text
  ends : turn.tokens.countP (fun token => token.kind = .tagEnd) ≤ 1

variable {text : List Char} {c : Char}

theorem Turn.copies_of_mode {low : Nat} {mode : Mode} (placed : mode.Placed text)
    (le : low ≤ mode.floor text) (repairLe : low ≤ mode.repairFloor text) :
    Turn.Copies text low { mode } where
  toPlaced := Turn.placed_of_mode placed le repairLe
  spelled := by simp
  ends := by simp

theorem Turn.copies_of_tag {low : Nat} {source : TagSource} {mode : TagMode}
    (placed : mode.Placed text source) (start : low = source.start.offset) :
    Turn.Copies text low { mode := .tag source mode } :=
  copies_of_mode placed (Nat.le_of_eq start) (Nat.le_of_eq start)

theorem Turn.copies_ite {low : Nat} {condition : Prop} [Decidable condition] {first second : Turn}
    (copiesFirst : first.Copies text low) (copiesSecond : second.Copies text low) :
    Turn.Copies text low (if condition then first else second) := by
  split
  · exact copiesFirst
  · exact copiesSecond

/-- A single token is made of what was under way, and nothing else is. -/
theorem Turn.copies_of_token {kind : TokenKind} {value : String} {start : Position} {mode : Mode}
    {repairs : List TokenRepair} (placed : mode.Placed text) (within : start.Within text)
    (spelled : Token.IsSpelledIn text ⟨kind, value, start⟩) (unended : kind ≠ .tagEnd)
    (repaired : ∀ repair ∈ repairs, repair.position = start) (few : repairs.length ≤ 1)
    (le : start.offset ≤ mode.floor text) (repairLe : start.offset ≤ mode.repairFloor text) :
    Turn.Copies text start.offset { mode, tokens := [⟨kind, value, start⟩], repairs } where
  mode := placed
  tokens := List.forall_mem_singleton.mpr within
  tokensAscend := ⟨Nat.le_refl _, le⟩
  repairs := fun repair member => repaired repair member ▸ within
  repairsAscend := by
    match repairs, few with
    | [], _ => exact repairLe
    | [repair], _ =>
        have position := repaired repair List.mem_cons_self
        exact ⟨Nat.le_of_eq (position ▸ rfl), position ▸ repairLe⟩
  spelled := List.forall_mem_singleton.mpr spelled
  ends := by simp [unended]

/-! ## Text -/

theorem inText_copies {stretch : Stretch} (ends : stretch.Ends text)
    (nonempty : stretch.characters ≠ []) :
    (inText stretch (.after text) c).Copies (text ++ [c]) stretch.start.offset := by
  have within := ends.within nonempty
  have le : stretch.start.offset ≤ (Position.after text).offset := by
    rw [Position.offset_after]
    exact Nat.le_of_lt within.offset_lt
  unfold inText
  by_cases less : c = '<'
  · subst less
    rw [if_pos rfl]
    have opened : TagMode.Placed (text ++ ['<']) (.opened (.after text)) .opening :=
      ⟨(TagSource.placed_opened text).raise (by simp), rfl⟩
    exact Turn.copies_of_token opened (within.append _) ((ends.isSpelledIn .text).append _)
      (by decide) (by simp) (by simp) le le
  · rw [if_neg less]
    exact Turn.copies_of_mode ⟨ends.push c, by simp⟩ (Nat.le_refl _) (Nat.le_refl _)

/-! ## Tags -/

theorem commit_copies {source : TagSource} (placed : source.Placed (text ++ ['>']) text.length)
    (marker : String) :
    (commit source marker (.after text)).Copies (text ++ ['>']) source.start.offset := by
  have within : (Position.after text).Within (text ++ ['>']) := Position.within_after (by simp)
  have offset : (Position.after text).offset = text.length := Position.offset_after text
  let tokens := (Token.mk .tagEnd marker (.after text) :: source.parts).reverse
  have tokensWithin : ∀ token ∈ tokens, token.position.Within (text ++ ['>']) := by
    simp only [tokens, List.mem_reverse, List.forall_mem_cons]
    exact ⟨within, placed.within⟩
  have spelled : ∀ token ∈ tokens, token.IsSpelledIn (text ++ ['>']) := by
    simp only [tokens, List.mem_reverse, List.forall_mem_cons]
    exact ⟨fun copied => absurd copied (by simp [TokenKind.isCopied]), placed.spelled⟩
  have ends : tokens.countP (fun token => token.kind = .tagEnd) ≤ 1 := by
    have unended : source.parts.countP (fun token => token.kind = .tagEnd) = 0 := by
      rw [List.countP_eq_zero]
      simpa using placed.unended
    simp [tokens, unended]
  have ascends : Ascends source.start.offset (tokens.map (·.position.offset))
      (text ++ ['>']).length := by
    have last : Ascends text.length [(Position.after text).offset] (text ++ ['>']).length :=
      ⟨Nat.le_of_eq offset.symm, Nat.le_of_lt within.offset_lt⟩
    have all := placed.ascends.append last
    simpa [tokens] using all
  have settles : Turn.Copies (text ++ ['>']) source.start.offset { mode := .between, tokens } :=
    ⟨⟨trivial, tokensWithin, ascends, by simp, Nat.le_of_lt placed.start_within.offset_lt⟩,
      spelled, ends⟩
  unfold commit
  cases source.raw with
  | none => exact settles
  | some element =>
      dsimp only
      by_cases opens : marker = ">"
      · -- Raw text begins right after the tag, where none of it has been read.
        rw [if_pos opens]
        have following : (Position.after text).advance '>' = .after (text ++ ['>']) :=
          (Position.after_concat text '>').symm
        have begins : Stretch.Ends (text ++ ['>']) ⟨(Position.after text).advance '>', []⟩ :=
          ⟨text ++ ['>'], by simp, following⟩
        refine ⟨⟨⟨begins, placed.start_within⟩, tokensWithin, ?_, by simp, Nat.le_refl _⟩,
          spelled, ends⟩
        rw [Mode.floor, following, Position.offset_after]
        exact ascends
      · rw [if_neg opens]
        exact settles

/-- A `>` ends the tag, and any other character does something else. -/
theorem commit_or_copies {source : TagSource} {other : Turn}
    (placed : source.Placed (text ++ [c]) text.length) (marker : String)
    (copies : other.Copies (text ++ [c]) source.start.offset) :
    Turn.Copies (text ++ [c]) source.start.offset
      (if c = '>' then commit source marker (.after text) else other) := by
  by_cases angle : c = '>'
  · subst angle
    rw [if_pos rfl]
    exact commit_copies placed marker
  · rw [if_neg angle]
    exact copies

theorem beforeAttribute_copies {source : TagSource}
    (placed : source.Placed (text ++ [c]) text.length) :
    (beforeAttribute source (.after text) c).Copies (text ++ [c]) source.start.offset := by
  have raised : source.Placed (text ++ [c]) (text ++ [c]).length := placed.raise (by simp)
  have named : TagMode.Placed (text ++ [c]) source (.attributeName ⟨.after text, [c]⟩) := by
    refine ⟨?_, Stretch.ends_singleton text c, by simp⟩
    rwa [Position.offset_after]
  unfold beforeAttribute
  apply Turn.copies_ite
  · exact Turn.copies_of_tag raised rfl
  apply Turn.copies_ite
  · exact Turn.copies_of_tag raised rfl
  exact commit_or_copies placed ">" (Turn.copies_of_tag named rfl)

theorem afterLess_copies {source : TagSource} (placed : source.Placed text text.length)
    (characters : source.characters = ['<']) :
    (afterLess (source.push c) (.after text) c).Copies (text ++ [c]) source.start.offset := by
  have pushed := placed.push c
  have within := pushed.start_within
  unfold afterLess
  by_cases slash : c = '/'
  · subst slash
    rw [if_pos rfl]
    have closing : TagMode.Placed (text ++ ['/']) (source.push '/') .closing :=
      ⟨pushed.raise (by simp), by simp [characters]⟩
    exact Turn.copies_of_tag closing rfl
  rw [if_neg slash]
  apply Turn.copies_ite
  · exact Turn.copies_of_mode within (Nat.le_refl _) (Nat.le_refl _)
  apply Turn.copies_ite
  · exact Turn.copies_of_mode within (Nat.le_refl _) (Nat.le_refl _)
  apply Turn.copies_ite
  · have begun : ((source.push c).beginParts "<").Placed (text ++ [c])
        (Position.after text).offset := by
      rw [Position.offset_after]
      exact pushed.beginParts (by simp [characters])
    have named : TagMode.Placed (text ++ [c]) ((source.push c).beginParts "<")
        (.name ⟨.after text, [c]⟩) :=
      ⟨begun, Stretch.ends_singleton text c, by simp⟩
    exact Turn.copies_of_tag named rfl
  · have ends : Stretch.Ends text ⟨source.start, ['<']⟩ := by
      have ends := placed.ends
      rw [characters] at ends
      exact ends
    exact inText_copies ends (by simp)

theorem afterLessSlash_copies {source : TagSource} (placed : source.Placed text text.length)
    (characters : source.characters = ['<', '/']) :
    (afterLessSlash (source.push c) (.after text) c).Copies (text ++ [c]) source.start.offset := by
  have pushed := placed.push c
  have within := pushed.start_within
  unfold afterLessSlash
  apply Turn.copies_ite
  · have begun : ((source.push c).beginParts "</").Placed (text ++ [c])
        (Position.after text).offset := by
      rw [Position.offset_after]
      exact pushed.beginParts (by simp [characters])
    have named : TagMode.Placed (text ++ [c]) ((source.push c).beginParts "</")
        (.endName ⟨.after text, [c]⟩) :=
      ⟨begun, Stretch.ends_singleton text c, by simp⟩
    exact Turn.copies_of_tag named rfl
  apply Turn.copies_ite
  · have le := Nat.le_of_lt within.offset_lt
    exact ⟨⟨trivial, by simp, le, List.forall_mem_singleton.mpr within, Nat.le_refl _, le⟩,
      by simp, by simp⟩
  · have ends : Stretch.Ends text ⟨source.start, ['/', '<']⟩ := by
      have ends := placed.ends
      rw [characters] at ends
      exact ends
    exact inText_copies ends (by simp)

/-- A part that is whole stands in order before whatever the character begins. -/
theorem TagSource.Placed.finishPart {source : TagSource} {stretch : Stretch} {kind : TokenKind}
    (placed : source.Placed text stretch.start.offset) (within : stretch.start.Within text)
    (spelled : Token.IsSpelledIn text ⟨kind, stretch.text, stretch.start⟩)
    (unended : kind ≠ .tagEnd) (c : Char) :
    ((source.push c).addPart kind stretch).Placed (text ++ [c]) text.length :=
  ((placed.push c).addPart (within.append [c]) (spelled.append [c]) unended).raise
    (Nat.le_of_lt within.offset_lt)

theorem TagSource.Placed.named {source : TagSource} {stretch : Stretch} {high : Nat}
    (placed : (source.addPart .tagName stretch).Placed text high) :
    (source.addName stretch).Placed text high :=
  ⟨placed.ends, placed.begins, placed.within, placed.spelled, placed.unended, placed.ascends⟩

theorem isSpelledIn_value (value : String) (position : Position) :
    Token.IsSpelledIn text ⟨.attributeValue, value, position⟩ :=
  fun copied => absurd copied (by simp [TokenKind.isCopied])

theorem inTag_copies {source : TagSource} {mode : TagMode} (placed : mode.Placed text source) :
    (inTag (source.push c) (.after text) c mode).Copies (text ++ [c]) source.start.offset := by
  have longer : text.length ≤ (text ++ [c]).length := by simp
  cases mode with
  | opening => exact afterLess_copies placed.1 placed.2
  | closing => exact afterLessSlash_copies placed.1 placed.2
  | beforeAttribute => exact beforeAttribute_copies (placed.push c)
  | name stretch =>
      obtain ⟨placed, ends, nonempty⟩ := placed
      have named := (placed.finishPart (ends.within nonempty) (ends.isSpelledIn .tagName)
        TokenKind.noConfusion c).named
      have more : TagMode.Placed (text ++ [c]) (source.push c) (.name (stretch.push c)) :=
        ⟨placed.push c, ends.push c, by simp⟩
      unfold inTag
      dsimp only
      apply Turn.copies_ite
      · exact Turn.copies_of_tag (named.raise longer) rfl
      apply Turn.copies_ite
      · exact Turn.copies_of_tag (named.raise longer) rfl
      exact commit_or_copies named ">" (Turn.copies_of_tag more rfl)
  | endName stretch =>
      obtain ⟨placed, ends, nonempty⟩ := placed
      have named := placed.finishPart (ends.within nonempty) (ends.isSpelledIn .tagName)
        TokenKind.noConfusion c
      have more : TagMode.Placed (text ++ [c]) (source.push c) (.endName (stretch.push c)) :=
        ⟨placed.push c, ends.push c, by simp⟩
      unfold inTag
      dsimp only
      apply Turn.copies_ite
      · exact Turn.copies_of_tag (named.raise longer) rfl
      exact commit_or_copies named ">" (Turn.copies_of_tag more rfl)
  | afterEndName =>
      have pushed := TagSource.Placed.push placed c
      unfold inTag
      exact commit_or_copies pushed ">" (Turn.copies_of_tag (pushed.raise longer) rfl)
  | attributeName stretch =>
      obtain ⟨placed, ends, nonempty⟩ := placed
      have named := placed.finishPart (ends.within nonempty) (ends.isSpelledIn .attributeName)
        TokenKind.noConfusion c
      have more : TagMode.Placed (text ++ [c]) (source.push c) (.attributeName (stretch.push c)) :=
        ⟨placed.push c, ends.push c, by simp⟩
      unfold inTag
      dsimp only
      apply Turn.copies_ite
      · exact Turn.copies_of_tag (named.raise longer) rfl
      apply Turn.copies_ite
      · exact Turn.copies_of_tag (named.raise longer) rfl
      apply Turn.copies_ite
      · exact Turn.copies_of_tag (named.raise longer) rfl
      exact commit_or_copies named ">" (Turn.copies_of_tag more rfl)
  | afterAttributeName =>
      have pushed := TagSource.Placed.push placed c
      unfold inTag
      dsimp only
      apply Turn.copies_ite
      · exact Turn.copies_of_tag (pushed.raise longer) rfl
      apply Turn.copies_ite
      · exact Turn.copies_of_tag (pushed.raise longer) rfl
      exact beforeAttribute_copies pushed
  | beforeValue =>
      have pushed := TagSource.Placed.push placed c
      have within : (Position.after text).Within (text ++ [c]) := Position.within_after (by simp)
      have here : (source.push c).Placed (text ++ [c]) (Position.after text).offset := by
        rwa [Position.offset_after]
      have quoted : TagMode.Placed (text ++ [c]) (source.push c)
          (.quotedValue c ⟨.after text, []⟩) := ⟨here, within⟩
      have unquoted : TagMode.Placed (text ++ [c]) (source.push c)
          (.unquotedValue ⟨.after text, [c]⟩) := ⟨here, within⟩
      have valued : ((source.push c).addPart .attributeValue ⟨.after text, []⟩).Placed
          (text ++ [c]) text.length := by
        rw [← Position.offset_after text]
        exact TagSource.Placed.addPart here within (isSpelledIn_value _ _) TokenKind.noConfusion
      unfold inTag
      dsimp only
      apply Turn.copies_ite
      · exact Turn.copies_of_tag (pushed.raise longer) rfl
      apply Turn.copies_ite
      · exact Turn.copies_of_tag quoted rfl
      exact commit_or_copies valued ">" (Turn.copies_of_tag unquoted rfl)
  | quotedValue quote stretch =>
      obtain ⟨placed, within⟩ := placed
      have valued := placed.finishPart within (isSpelledIn_value _ _) TokenKind.noConfusion c
      have more : TagMode.Placed (text ++ [c]) (source.push c)
          (.quotedValue quote (stretch.push c)) := ⟨placed.push c, within.append [c]⟩
      unfold inTag
      dsimp only
      apply Turn.copies_ite
      · exact Turn.copies_of_tag (valued.raise longer) rfl
      · exact Turn.copies_of_tag more rfl
  | unquotedValue stretch =>
      obtain ⟨placed, within⟩ := placed
      have valued := placed.finishPart within (isSpelledIn_value _ _) TokenKind.noConfusion c
      have more : TagMode.Placed (text ++ [c]) (source.push c)
          (.unquotedValue (stretch.push c)) := ⟨placed.push c, within.append [c]⟩
      unfold inTag
      dsimp only
      apply Turn.copies_ite
      · exact Turn.copies_of_tag (valued.raise longer) rfl
      exact commit_or_copies valued ">" (Turn.copies_of_tag more rfl)
  | slash =>
      have pushed := TagSource.Placed.push placed c
      unfold inTag
      exact commit_or_copies pushed "/>" (beforeAttribute_copies pushed)

/-! ## Markup that is neither a tag nor text -/

theorem settle_copies {start : Position} {kind : TokenKind} (within : start.Within text)
    (notCopied : kind.isCopied = false) (unended : kind ≠ .tagEnd) (characters : List Char)
    {repairs : List TokenRepair} (repaired : ∀ repair ∈ repairs, repair.position = start)
    (few : repairs.length ≤ 1) :
    Turn.Copies text start.offset { settle start kind characters with repairs } := by
  have le := Nat.le_of_lt within.offset_lt
  have spelled : Token.IsSpelledIn text ⟨kind, String.ofList characters, start⟩ :=
    fun copied => absurd copied (by simp [notCopied])
  exact Turn.copies_of_token trivial within spelled unended repaired few le le

theorem inMarkup_copies {start : Position} (within : start.Within text) (reversed : List Char)
    (kind : MarkupKind) :
    (inMarkup start reversed c kind).Copies text start.offset := by
  have more (kind : MarkupKind) (characters : List Char) :
      Turn.Copies text start.offset { mode := .markup start kind characters } :=
    Turn.copies_of_mode within (Nat.le_refl _) (Nat.le_refl _)
  have comment (characters : List Char) :
      (settle start .comment characters).Copies text start.offset :=
    settle_copies within rfl TokenKind.noConfusion characters (by simp) (by simp)
  have abrupt (ending : String) : Turn.Copies text start.offset
      { settle start .comment [] with repairs := [⟨.abruptComment ending, start⟩] } :=
    settle_copies within rfl TokenKind.noConfusion [] (by simp) (by simp)
  unfold inMarkup
  cases kind with
  | declaration =>
      dsimp only
      split
      · exact comment _
      · split <;> exact more _ _
  | comment =>
      dsimp only
      split
      · split
        · exact abrupt ">"
        · exact abrupt "->"
        · exact comment _
        · exact more _ _
      · exact more _ _
  | bogusComment =>
      dsimp only
      split
      · exact comment _
      · exact more _ _
  | doctype =>
      dsimp only
      split
      · exact settle_copies within rfl TokenKind.noConfusion _ (by simp) (by simp)
      · exact more _ _
  | cdata =>
      dsimp only
      split
      · split
        · exact settle_copies within rfl TokenKind.noConfusion _ (by simp) (by simp)
        · exact more _ _
      · exact more _ _

/-! ## Raw text -/

/-- The turn ends raw text: it has the text, if there is any, and an end tag that stands at the
last character that was read. -/
def Turn.EndsRaw (text : List Char) (turn : Turn) : Prop :=
  ∃ (content closing : List Token) (name : String),
    turn.tokens = content ++ closing ∧
      (∀ token ∈ content, token.IsSpelledIn text) ∧
      closing.map Token.lexeme = Phrase.lexemes (.endTag name) ∧
      ∀ token ∈ closing, token.position.offset + 1 = text.length

theorem rawContent_placed {stretch : Stretch} (ends : stretch.Ends text) {content : List Char}
    (isPrefix : content <+: stretch.characters) :
    let texts : List Token :=
      if content.isEmpty then [] else [⟨.text, String.ofList content, stretch.start⟩]
    (∀ token ∈ texts, token.position.Within text ∧ token.IsSpelledIn text) ∧
      Ascends stretch.start.offset (texts.map (·.position.offset)) text.length := by
  intro texts
  have le : stretch.start.offset ≤ text.length := by
    obtain ⟨before, rfl, start⟩ := ends
    rw [start, Position.offset_after, List.length_append]
    exact Nat.le_add_right _ _
  by_cases empty : content.isEmpty = true
  · have noTexts : texts = [] := if_pos empty
    rw [noTexts]
    exact ⟨by simp, le⟩
  · have single : texts = [⟨.text, String.ofList content, stretch.start⟩] := if_neg empty
    have unread : stretch.characters ≠ [] := by
      intro nothing
      rw [nothing, List.prefix_nil] at isPrefix
      exact empty (by simp [isPrefix])
    have spelled : Token.IsSpelledIn text ⟨.text, String.ofList content, stretch.start⟩ := by
      intro copied
      have whole : stretch.characters <+: text.drop stretch.start.offset := by
        simpa [Stretch.text_eq] using ends.isSpelledIn .text copied
      simpa using isPrefix.trans whole
    rw [single]
    exact ⟨List.forall_mem_singleton.mpr ⟨ends.within unread, spelled⟩, Nat.le_refl _, le⟩

theorem rawEnd_placed {tagStart : Position} {stretch : Stretch} (ends : stretch.Ends text)
    (within : tagStart.Within text) {content : List Char} (isPrefix : content <+: stretch.characters)
    (name : String) :
    let turn : Turn :=
      { mode := .between
        tokens :=
          (if content.isEmpty then [] else [⟨.text, String.ofList content, stretch.start⟩]) ++
            [⟨.tagStart, "</", .after text⟩, ⟨.tagName, name, .after text⟩,
              ⟨.tagEnd, ">", .after text⟩] }
    turn.Placed (text ++ [c]) stretch.start.offset tagStart.offset ∧ turn.EndsRaw (text ++ [c]) := by
  intro turn
  obtain ⟨areTexts, ascends⟩ := rawContent_placed ends isPrefix
  have here : (Position.after text).Within (text ++ [c]) := Position.within_after (by simp)
  have offset : (Position.after text).offset = text.length := Position.offset_after text
  have closing : Ascends text.length [(Position.after text).offset, (Position.after text).offset,
      (Position.after text).offset] (text ++ [c]).length :=
    ⟨Nat.le_of_eq offset.symm, Nat.le_refl _, Nat.le_refl _, Nat.le_of_lt here.offset_lt⟩
  refine ⟨⟨trivial, ?_, ?_, by simp [turn], ?_⟩, _, _, name, rfl, ?_, rfl, ?_⟩
  · rw [List.forall_mem_append]
    refine ⟨fun token member => (areTexts token member).1.append [c], ?_⟩
    simpa using here
  · rw [List.map_append]
    exact ascends.append closing
  · exact Nat.le_of_lt (within.append [c]).offset_lt
  · exact fun token member => (areTexts token member).2.append [c]
  · simp

theorem inRawText_placed {element : RawElement} {tagStart : Position} {stretch : Stretch}
    (ends : stretch.Ends text) (within : tagStart.Within text) :
    (inRawText element tagStart stretch (.after text) c).Placed (text ++ [c])
        stretch.start.offset tagStart.offset ∧
      ((inRawText element tagStart stretch (.after text) c).tokens = [] ∨
        (inRawText element tagStart stretch (.after text) c).EndsRaw (text ++ [c])) := by
  have more : Turn.Placed (text ++ [c]) stretch.start.offset tagStart.offset
      { mode := .rawText element tagStart (stretch.push c) } :=
    Turn.placed_of_mode ⟨ends.push c, within.append [c]⟩ (Nat.le_refl _) (Nat.le_refl _)
  unfold inRawText
  dsimp only
  by_cases angle : c = '>'
  · rw [if_pos angle]
    cases found : element.endTag? stretch.reversed with
    | none => exact ⟨more, Or.inl rfl⟩
    | some result =>
        obtain ⟨content, spelling⟩ := result
        obtain ⟨tag, _, _, source⟩ := RawElement.closes_of_endTag? found
        have isPrefix : content.reverse <+: stretch.characters :=
          ⟨'<' :: '/' :: (tag.name ++ tag.ignored), source.symm⟩
        have placed := rawEnd_placed (c := c) ends within isPrefix spelling
        simp only [List.isEmpty_reverse] at placed
        exact ⟨placed.1, Or.inr placed.2⟩
  · rw [if_neg angle]
    exact ⟨more, Or.inl rfl⟩

/-! ## All modes -/

/-- The mode is not within raw text. -/
def Mode.isRaw : Mode → Bool
  | .rawText _ _ _ => true
  | .between | .text _ | .tag _ _ | .markup _ _ _ => false

theorem react_copies {mode : Mode} (placed : mode.Placed text) (notRaw : mode.isRaw = false) :
    (react mode (.after text) c).Copies (text ++ [c]) (mode.floor text) := by
  cases mode with
  | between =>
      have low : text.length = (Position.after text).offset := (Position.offset_after text).symm
      unfold react
      dsimp only
      by_cases less : c = '<'
      · subst less
        rw [if_pos rfl]
        have opened : TagMode.Placed (text ++ ['<']) (.opened (.after text)) .opening :=
          ⟨(TagSource.placed_opened text).raise (by simp), rfl⟩
        exact Turn.copies_of_tag opened low
      · rw [if_neg less]
        exact Turn.copies_of_mode ⟨Stretch.ends_singleton text c, by simp⟩ (Nat.le_of_eq low)
          (Nat.le_of_eq low)
  | text stretch => exact inText_copies placed.1 placed.2
  | tag source tagMode => exact inTag_copies placed
  | markup start kind reversed => exact inMarkup_copies (placed.append [c]) reversed kind
  | rawText element tagStart stretch => exact absurd notRaw (by simp [Mode.isRaw])

theorem tag_start_within {source : TagSource} {mode : TagMode}
    (placed : mode.Placed text source) :
    source.start.Within text ∧ Stretch.Ends text ⟨source.start, source.reversed⟩ := by
  obtain ⟨high, sourcePlaced⟩ : ∃ high, source.Placed text high := by
    cases mode with
    | opening | closing | name | endName | attributeName | quotedValue | unquotedValue =>
        exact ⟨_, placed.1⟩
    | _ => exact ⟨_, placed⟩
  exact ⟨sourcePlaced.start_within, sourcePlaced.ends⟩

theorem finish_copies {mode : Mode} (placed : mode.Placed text) (notRaw : mode.isRaw = false) :
    (finish mode).Copies text (mode.floor text) := by
  cases mode with
  | between => exact Turn.copies_of_mode placed (Nat.le_refl _) (Nat.le_refl _)
  | text stretch =>
      have within := placed.1.within placed.2
      have le := Nat.le_of_lt within.offset_lt
      exact Turn.copies_of_token trivial within (placed.1.isSpelledIn .text) TokenKind.noConfusion
        (by simp) (by simp) le le
  | tag source tagMode =>
      obtain ⟨within, ends⟩ := tag_start_within placed
      have le := Nat.le_of_lt within.offset_lt
      exact Turn.copies_of_token trivial within (ends.isSpelledIn .text) TokenKind.noConfusion
        (by simp) (by simp) le le
  | markup start kind reversed =>
      cases kind with
      | doctype | cdata | declaration | comment | bogusComment =>
          exact settle_copies placed rfl TokenKind.noConfusion _ (by simp) (by simp)
  | rawText element tagStart stretch => exact absurd notRaw (by simp [Mode.isRaw])

theorem finish_rawText_placed {element : RawElement} {tagStart : Position} {stretch : Stretch}
    (ends : stretch.Ends text) (within : tagStart.Within text) :
    (finish (.rawText element tagStart stretch)).Placed text stretch.start.offset
        tagStart.offset ∧
      ∀ token ∈ (finish (.rawText element tagStart stretch)).tokens,
        token.kind = .text ∧ token.IsSpelledIn text := by
  have le := Nat.le_of_lt within.offset_lt
  unfold finish
  dsimp only
  by_cases empty : stretch.reversed = []
  · rw [if_pos (by simp [empty])]
    obtain ⟨before, rfl, start⟩ := ends
    refine ⟨Turn.placed_of_mode trivial ?_ le, by simp⟩
    simp [Mode.floor, start]
  · rw [if_neg (by simpa using empty)]
    have startWithin := ends.within (by simpa [Stretch.characters] using empty)
    have startLe := Nat.le_of_lt startWithin.offset_lt
    refine ⟨⟨trivial, ?_, ⟨Nat.le_refl _, startLe⟩, ?_, ⟨Nat.le_refl _, le⟩⟩, ?_⟩
    · exact List.forall_mem_singleton.mpr startWithin
    · exact List.forall_mem_singleton.mpr within
    · exact List.forall_mem_singleton.mpr ⟨rfl, ends.isSpelledIn .text⟩

end Lexer

end JsxFragment
