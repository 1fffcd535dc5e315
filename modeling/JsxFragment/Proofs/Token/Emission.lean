import JsxFragment.Proofs.Token.Pending

/-!
# Emissions

What reading a stretch of text brings about, whatever was read before it: a triple of the modes in
which it may begin, the text with the lexemes that it settles, and the modes in which it ends.
Positions play no part in it.
-/

namespace JsxFragment

open Text

namespace Lexer

/-! ## Triples -/

/-- A turn that settles these lexemes without a repair, and leads to a mode of `after`. -/
structure Turn.Settles (turn : Turn) (lexemes : List Lexeme) (after : Mode → Prop) : Prop where
  mode : after turn.mode
  lexemes : turn.tokens.map Token.lexeme = lexemes
  repairs : turn.repairs = []

/-- From every mode of `before`, the text settles the lexemes without a repair, and leads to a mode
of `after`. -/
def Emits (before : Mode → Prop) (text : List Char) (lexemes : List Lexeme)
    (after : Mode → Prop) : Prop :=
  ∀ state : State, before state.mode →
    after (state.run text).mode ∧
      (state.run text).tokens.reverse.map Token.lexeme =
        state.tokens.reverse.map Token.lexeme ++ lexemes ∧
      (state.run text).repairs = state.repairs

namespace Emits

variable {before between after : Mode → Prop} {lexemes more : List Lexeme}

theorem nil (weaker : ∀ mode, before mode → after mode) : Emits before [] [] after :=
  fun state holds => ⟨weaker state.mode holds, by simp [State.run], rfl⟩

theorem single {c : Char}
    (reacts : ∀ mode position, before mode → (react mode position c).Settles lexemes after) :
    Emits before [c] lexemes after := by
  intro state holds
  have settles := reacts state.mode state.position holds
  refine ⟨settles.mode, ?_, ?_⟩
  · simp [State.run, State.step, State.record, settles.lexemes]
  · simp [State.run, State.step, State.record, settles.repairs]

theorem append {first second : List Char} (emitsFirst : Emits before first lexemes between)
    (emitsSecond : Emits between second more after) :
    Emits before (first ++ second) (lexemes ++ more) after := by
  intro state holds
  obtain ⟨middle, firstTokens, firstRepairs⟩ := emitsFirst state holds
  obtain ⟨last, secondTokens, secondRepairs⟩ := emitsSecond (state.run first) middle
  have ran : state.run (first ++ second) = (state.run first).run second := by
    simp [State.run]
  rw [ran]
  exact ⟨last, by rw [secondTokens, firstTokens, List.append_assoc],
    by rw [secondRepairs, firstRepairs]⟩

theorem cons {c : Char} {rest : List Char} (emitsFirst : Emits before [c] lexemes between)
    (emitsRest : Emits between rest more after) :
    Emits before (c :: rest) (lexemes ++ more) after :=
  emitsFirst.append emitsRest

/-- The same as `append` where the first text settles nothing. -/
theorem silently {first second : List Char} (emitsFirst : Emits before first [] between)
    (emitsSecond : Emits between second lexemes after) :
    Emits before (first ++ second) lexemes after :=
  emitsFirst.append emitsSecond

/-- The same as `append` where the second text settles nothing. -/
theorem beforeSilence {first second : List Char} (emitsFirst : Emits before first lexemes between)
    (emitsSecond : Emits between second [] after) :
    Emits before (first ++ second) lexemes after := by
  simpa using emitsFirst.append emitsSecond

theorem weaken {text : List Char} (emits : Emits before text lexemes between)
    (weaker : ∀ mode, between mode → after mode) : Emits before text lexemes after := by
  intro state holds
  obtain ⟨last, rest⟩ := emits state holds
  exact ⟨weaker _ last, rest⟩

theorem strengthen {stronger : Mode → Prop} {text : List Char}
    (emits : Emits before text lexemes after) (implies : ∀ mode, stronger mode → before mode) :
    Emits stronger text lexemes after :=
  fun state holds => emits state (implies _ holds)

/-- Characters that are collected one by one are collected together. Whether one is may depend on
those before it. -/
theorem each (collected : List Char → Mode → Prop) {text : List Char}
    (one : ∀ sofar c, sofar ++ [c] <+: text →
      Emits (collected sofar) [c] [] (collected (sofar ++ [c]))) :
    Emits (collected []) text [] (collected text) := by
  have fromHere (rest : List Char) : ∀ sofar, sofar ++ rest = text →
      Emits (collected sofar) rest [] (collected text) := by
    induction rest with
    | nil =>
        rintro sofar rfl
        rw [List.append_nil]
        exact nil fun _ holds => holds
    | cons c others inductionHypothesis =>
        intro sofar whole
        have split : (sofar ++ [c]) ++ others = text := by simpa using whole
        exact (one sofar c ⟨others, split⟩).cons (inductionHypothesis (sofar ++ [c]) split)
  exact fromHere text [] rfl

theorem many (collected : List Char → Mode → Prop) {allowed : Char → Prop} {text : List Char}
    (one : ∀ sofar c, allowed c → Emits (collected sofar) [c] [] (collected (sofar ++ [c])))
    (all : ∀ c ∈ text, allowed c) (start : List Char) :
    Emits (collected start) text [] (collected (start ++ text)) := by
  have emits : Emits (collected (start ++ [])) text [] (collected (start ++ text)) := by
    refine each (fun content => collected (start ++ content)) fun sofar c isPrefix => ?_
    have member : c ∈ text := isPrefix.subset (by simp)
    rw [← List.append_assoc]
    exact one (start ++ sofar) c (all c member)
  rwa [List.append_nil] at emits

end Emits

/-! ## Modes without their positions -/

/-- Text is under way with this content so far. -/
def InText (content : List Char) (mode : Mode) : Prop :=
  ∃ stretch, mode = .text stretch ∧ stretch.characters = content

/-- No construct is under way, or just text; the lexemes are those that a `<` will settle. -/
def Resting (waiting : List Lexeme) (mode : Mode) : Prop :=
  (mode = .between ∧ waiting = []) ∨
    ∃ content, InText content mode ∧ waiting = [⟨.text, String.ofList content⟩]

/-- A tag is under way with these lexemes, and at this place in it. -/
def InTag (lexemes : List Lexeme) (raw : Option RawElement) (place : TagMode → Prop)
    (mode : Mode) : Prop :=
  ∃ source tagMode, mode = .tag source tagMode ∧
    source.lexemes = lexemes ∧ source.raw = raw ∧ place tagMode

/-- Markup is under way with this content so far. -/
def InMarkup (kind : MarkupKind) (content : List Char) (mode : Mode) : Prop :=
  ∃ start reversed, mode = .markup start kind reversed ∧ reversed.reverse = content

/-- Raw text is under way with this content so far. -/
def InRawText (element : RawElement) (content : List Char) (mode : Mode) : Prop :=
  ∃ start stretch, mode = .rawText element start stretch ∧ stretch.characters = content

/-- After a tag that opens the raw text of `raw`, or none. -/
def AfterTag (raw : Option RawElement) (mode : Mode) : Prop :=
  match raw with
  | none => mode = .between
  | some element => InRawText element [] mode

/-! ## Text -/

theorem emits_less (waiting : List Lexeme) :
    Emits (Resting waiting) ['<'] waiting (InTag [] none (· = .opening)) := by
  refine Emits.single ?_
  rintro mode position (⟨rfl, rfl⟩ | ⟨content, ⟨stretch, rfl, rfl⟩, rfl⟩)
  · exact ⟨⟨_, _, rfl, rfl, rfl, rfl⟩, rfl, rfl⟩
  · exact ⟨⟨_, _, rfl, rfl, rfl, rfl⟩, rfl, rfl⟩

theorem emits_text {content : List Char} (nonempty : content ≠ []) (plain : '<' ∉ content) :
    Emits (· = .between) content [] (InText content) := by
  have begins (c : Char) (notLess : c ≠ '<') : Emits (· = .between) [c] [] (InText [c]) := by
    refine Emits.single ?_
    rintro mode position rfl
    simp only [react, notLess, if_false]
    exact ⟨⟨_, rfl, rfl⟩, rfl, rfl⟩
  have goesOn (before : List Char) (c : Char) (notLess : c ≠ '<') :
      Emits (InText before) [c] [] (InText (before ++ [c])) := by
    refine Emits.single ?_
    intro mode position holds
    obtain ⟨stretch, rfl, rfl⟩ := holds
    simp only [react, inText, notLess, if_false]
    exact ⟨⟨_, rfl, by simp⟩, rfl, rfl⟩
  cases content with
  | nil => exact absurd rfl nonempty
  | cons first rest =>
      simp only [List.mem_cons, not_or] at plain
      refine (begins first (Ne.symm plain.1)).silently ?_
      refine Emits.many InText goesOn ?_ [first]
      exact fun c member isLess => plain.2 (isLess ▸ member)

end Lexer

end JsxFragment
