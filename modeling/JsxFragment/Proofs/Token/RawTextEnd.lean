import JsxFragment.Proofs.Token.RawText
import Mathlib.Data.List.Induction

/-!
# Where raw text ends

An end tag is looked for in a part of the raw text that does not grow with it. The search agrees
with one of the whole text, as long as a tag has at most sixty-one blanks before its `>`: its name,
its three other characters and its blanks have to fit into the part that is searched. So raw text is
all that comes before the first such tag.
-/

namespace JsxFragment

open Text

/-! ## End tags with few blanks -/

/-- The tag names the element, and has at most so many blanks beside the name. -/
structure EndTag.ClosesWithin (tag : EndTag) (element : RawElement) (limit : Nat) : Prop where
  names : tag.Names element
  blanks : tag.ignored.length ≤ limit

/-- The text ends with an end tag of the element, which has at most so many blanks. -/
def RawElement.EndsText (element : RawElement) (limit : Nat) (text : List Char) : Prop :=
  ∃ (content : List Char) (tag : EndTag),
    tag.ClosesWithin element limit ∧ text = content ++ tag.source

theorem EndTag.closes_iff_closesWithin {tag : EndTag} {element : RawElement} :
    tag.Closes element ↔ tag.ClosesWithin element 61 := by
  constructor
  · intro closes
    have slack : tag.ignored.length + 3 ≤ 64 := closes.slack
    exact ⟨closes.names, by omega⟩
  · intro closes
    have blanks := closes.blanks
    have slack : tag.ignored.length + 3 ≤ 64 := by omega
    exact ⟨closes.names.name, closes.names.ignored, slack⟩

theorem lacksEndTag_iff {element : RawElement} {text : List Char} :
    LacksEndTag element text ↔ ∀ body, body <+: text → ¬element.EndsText 61 body := by
  constructor
  · rintro lacks body ⟨rest, rfl⟩ ⟨content, tag, closes, rfl⟩
    exact lacks ⟨content, rest, tag, EndTag.closes_iff_closesWithin.mpr closes, rfl⟩
  · rintro lacks ⟨before, after, tag, closes, rfl⟩
    exact lacks (before ++ tag.source) (List.prefix_append _ _)
      ⟨before, tag, EndTag.closes_iff_closesWithin.mp closes, rfl⟩

theorem lacksEndTag_of_not_mem {element : RawElement} {text : List Char} (noAngle : '>' ∉ text) :
    LacksEndTag element text := by
  rintro ⟨before, after, tag, _, rfl⟩
  simp [EndTag.source] at noAngle

/-- Text with an end tag in it is cut at the first one. -/
theorem exists_first_endTag {element : RawElement} {text : List Char}
    (holds : ¬LacksEndTag element text) :
    ∃ (content rest : List Char) (tag : EndTag), tag.Closes element ∧
      text = content ++ tag.source ++ rest ∧
      LacksEndTag element (content ++ '<' :: '/' :: (tag.name ++ tag.ignored)) := by
  induction text using List.reverseRecOn with
  | nil =>
      refine absurd ?_ holds
      rintro ⟨before, after, tag, _, equality⟩
      simp [EndTag.source] at equality
  | append_singleton before last inductionHypothesis =>
      by_cases lacks : LacksEndTag element before
      · -- The tag is not in the shorter text, so it ends with the last character.
        obtain ⟨content, after, tag, closes, equality⟩ := not_not.mp holds
        rcases List.eq_nil_or_concat after with rfl | ⟨shorter, other, rfl⟩
        · have split :
              before ++ [last] = (content ++ '<' :: '/' :: (tag.name ++ tag.ignored)) ++ ['>'] := by
            rw [equality, EndTag.source_eq_concat]
            simp
          obtain ⟨beforeEquality, _⟩ := List.append_inj' split rfl
          exact ⟨content, [], tag, closes, equality, beforeEquality ▸ lacks⟩
        · have split : before ++ [last] = (content ++ tag.source ++ shorter) ++ [other] := by
            simpa using equality
          exact absurd ⟨content, shorter, tag, closes, (List.append_inj' split rfl).1⟩ lacks
      · obtain ⟨content, rest, tag, closes, equality, first⟩ := inductionHypothesis lacks
        exact ⟨content, rest ++ [last], tag, closes, by rw [equality]; simp, first⟩

namespace Lexer

/-! ## One character -/

/-- What becomes of raw text and of the end tag that closes it at a place. -/
def closingTokens (start : Position) (content : List Char) (tag : EndTag) (closing : Position) :
    List Token :=
  (if content.isEmpty then [] else [⟨.text, String.ofList content, start⟩])
    ++ [⟨.tagStart, "</", closing⟩, ⟨.tagName, String.ofList tag.name, closing⟩,
      ⟨.tagEnd, ">", closing⟩]

theorem inRawText_of_lacksEndTag {element : RawElement} {tagStart position : Position}
    {stretch : Stretch} {c : Char} (lacks : LacksEndTag element (stretch.characters ++ [c])) :
    inRawText element tagStart stretch position c =
      { mode := .rawText element tagStart (stretch.push c) } := by
  unfold inRawText
  by_cases angle : c = '>'
  · subst angle
    cases found : element.endTag? stretch.reversed with
    | none => simp
    | some result =>
        obtain ⟨content, spelling⟩ := result
        obtain ⟨tag, closes, _, source⟩ := RawElement.closes_of_endTag? found
        refine absurd ⟨content.reverse, [], tag, closes, ?_⟩ lacks
        rw [Stretch.characters, source, EndTag.source_eq_concat]
        simp
  · simp [angle]

theorem inRawText_of_closes {element : RawElement} {tagStart start position : Position}
    {content : List Char} {tag : EndTag} (closes : tag.Closes element) :
    inRawText element tagStart
        ⟨start, (content ++ '<' :: '/' :: (tag.name ++ tag.ignored)).reverse⟩ position '>' =
      { mode := .between, tokens := closingTokens start content tag position } := by
  unfold inRawText
  simp only [if_true, RawElement.endTag?_of_closes content closes]
  cases content <;> simp [closingTokens]

/-- The search in a part of the text finds what a search of all of it would find. -/
theorem mode_inRawText_angle_iff {element : RawElement} {tagStart position : Position}
    {stretch : Stretch} :
    (inRawText element tagStart stretch position '>').mode = .between ↔
      element.EndsText 61 (stretch.characters ++ ['>']) := by
  unfold inRawText
  simp only [if_true]
  constructor
  · intro closed
    cases found : element.endTag? stretch.reversed with
    | none =>
        rw [found] at closed
        exact absurd closed (by simp)
    | some result =>
        obtain ⟨content, spelling⟩ := result
        obtain ⟨tag, closes, _, source⟩ := RawElement.closes_of_endTag? found
        refine ⟨content.reverse, tag, EndTag.closes_iff_closesWithin.mp closes, ?_⟩
        rw [Stretch.characters, source, EndTag.source_eq_concat, List.append_assoc]
  · rintro ⟨content, tag, closes, equality⟩
    rw [EndTag.source_eq_concat, ← List.append_assoc] at equality
    have characters := (List.append_inj' equality rfl).1
    have reversed := congrArg List.reverse characters
    rw [Stretch.characters, List.reverse_reverse] at reversed
    rw [reversed, RawElement.endTag?_of_closes content (EndTag.closes_iff_closesWithin.mpr closes)]

/-! ## Raw text as a whole -/

namespace State

theorem run_concat (state : State) (text : List Char) (c : Char) :
    state.run (text ++ [c]) = (state.run text).step c :=
  List.foldl_concat ..

theorem step_of_rawText {state : State} {element : RawElement} {tagStart : Position}
    {stretch : Stretch} (raw : state.mode = .rawText element tagStart stretch) (c : Char) :
    state.step c =
      { state.record (inRawText element tagStart stretch state.position c) with
        position := state.position.advance c } := by
  unfold step
  rw [raw]
  rfl

variable {state : State} {element : RawElement} {tagStart start : Position}
variable (opened : state.mode = .rawText element tagStart ⟨start, []⟩)
include opened

/-- Raw text without an end tag is kept as it is. -/
theorem run_of_lacksEndTag {text : List Char} (lacks : LacksEndTag element text) :
    state.run text =
      { state with
        position := text.foldl Position.advance state.position
        mode := .rawText element tagStart ⟨start, text.reverse⟩ } := by
  induction text using List.reverseRecOn with
  | nil =>
      rw [List.reverse_nil, ← opened]
      rfl
  | append_singleton before last inductionHypothesis =>
      have shorter := inductionHypothesis (lacks.of_prefix (List.prefix_append _ _))
      have characters : Stretch.characters ⟨start, before.reverse⟩ = before := by simp
      rw [← characters] at lacks
      rw [run_concat, shorter, step_of_rawText rfl, inRawText_of_lacksEndTag lacks,
        List.foldl_concat, List.reverse_concat]
      rfl

/-- An end tag with no other before it ends the raw text. -/
theorem run_of_closes {content : List Char} {tag : EndTag} (closes : tag.Closes element)
    (first : LacksEndTag element (content ++ '<' :: '/' :: (tag.name ++ tag.ignored))) :
    state.run (content ++ tag.source) =
      { position := (content ++ tag.source).foldl Position.advance state.position
        mode := .between
        tokens :=
          (closingTokens start content tag
            ((content ++ '<' :: '/' :: (tag.name ++ tag.ignored)).foldl Position.advance
              state.position)).reverse ++ state.tokens
        repairs := state.repairs } := by
  have source :
      content ++ tag.source = content ++ '<' :: '/' :: (tag.name ++ tag.ignored) ++ ['>'] := by
    rw [EndTag.source_eq_concat, List.append_assoc]
  rw [source, run_concat, run_of_lacksEndTag opened first, step_of_rawText rfl,
    inRawText_of_closes closes, List.foldl_concat]
  rfl

end State

end Lexer

/-! ## The first end tag -/

/-- At each `>` the raw text is closed if and only if all of it so far ends with an end tag that has
at most sixty-one blanks. So the first such tag ends it, and what is before that tag is its content;
without one it goes on to the end of the text. -/
theorem rawText_closes_iff {state : Lexer.State} {element : RawElement} {tagStart start : Position}
    (opened : state.mode = .rawText element tagStart ⟨start, []⟩) :
    (∀ body, (state.run body).mode = .rawText element tagStart ⟨start, body.reverse⟩ →
      ((state.run (body ++ ['>'])).mode = .between ↔ element.EndsText 61 (body ++ ['>']))) ∧
    ∀ text,
      ((∀ body, body <+: text → ¬element.EndsText 61 body) ∧
        state.run text =
          { state with
            position := text.foldl Position.advance state.position
            mode := .rawText element tagStart ⟨start, text.reverse⟩ }) ∨
      ∃ content tag rest, tag.ClosesWithin element 61 ∧ text = content ++ tag.source ++ rest ∧
        (∀ body, body <+: content ++ tag.source → body ≠ content ++ tag.source →
          ¬element.EndsText 61 body) ∧
        state.run (content ++ tag.source) =
          { position := (content ++ tag.source).foldl Position.advance state.position
            mode := .between
            tokens :=
              (Lexer.closingTokens start content tag
                ((content ++ '<' :: '/' :: (tag.name ++ tag.ignored)).foldl Position.advance
                  state.position)).reverse ++ state.tokens
            repairs := state.repairs } := by
  refine ⟨fun body reading => ?_, fun text => ?_⟩
  · rw [Lexer.State.run_concat, Lexer.State.step_of_rawText reading]
    have closed :
        (Lexer.inRawText element tagStart ⟨start, body.reverse⟩ (state.run body).position
            '>').mode = .between ↔
          element.EndsText 61 (body.reverse.reverse ++ ['>']) :=
      Lexer.mode_inRawText_angle_iff
    rw [List.reverse_reverse] at closed
    exact closed
  · by_cases lacks : LacksEndTag element text
    · exact Or.inl ⟨lacksEndTag_iff.mp lacks, Lexer.State.run_of_lacksEndTag opened lacks⟩
    · obtain ⟨content, rest, tag, closes, equality, first⟩ := exists_first_endTag lacks
      refine Or.inr ⟨content, tag, rest, EndTag.closes_iff_closesWithin.mp closes, equality, ?_,
        Lexer.State.run_of_closes opened closes first⟩
      intro body isPrefix shorter
      rw [EndTag.source_eq_concat, ← List.append_assoc] at isPrefix shorter
      have inside := (List.prefix_concat_iff.mp isPrefix).resolve_left shorter
      exact lacksEndTag_iff.mp first body inside

/-- The name may be spelled in capitals and with a dotted `İ`. -/
theorem rawText_closes_iff_of_dotted_capitals :
    (Lexer.State.initial.run "<script>".toList).mode =
        .rawText .script .first ⟨(Lexer.State.initial.run "<script>".toList).position, []⟩ ∧
      ((Lexer.State.initial.run "<script>".toList).run
        ("a > b</SCRİPT ".toList ++ ['>'])).mode = .between := by
  refine ⟨rfl, ((rawText_closes_iff rfl).1 "a > b</SCRİPT ".toList rfl).mpr
    ⟨"a > b".toList, ⟨"SCRİPT".toList, [' ']⟩, ⟨by decide, by decide⟩, rfl⟩⟩

/-- With one blank more the tag is passed over, although sixty-four are meant to be tolerated. -/
theorem not_rawText_closes_of_sixty_two_blanks :
    ¬∀ (state : Lexer.State) (element : RawElement) (tagStart start : Position),
      state.mode = .rawText element tagStart ⟨start, []⟩ →
        ∀ body, (state.run body).mode = .rawText element tagStart ⟨start, body.reverse⟩ →
          ((state.run (body ++ ['>'])).mode = .between ↔
            element.EndsText RawElement.endTagSlack (body ++ ['>'])) := by
  intro claimed
  let opened := Lexer.State.initial.run "<script>".toList
  let body := "x</script".toList ++ List.replicate 62 ' '
  have noAngle : '>' ∉ body := by decide +kernel
  have begins :
      opened.mode = .rawText .script .first ⟨{ line := 1, column := 9, offset := 8 }, []⟩ := rfl
  have reading :
      (opened.run body).mode =
        .rawText .script .first ⟨{ line := 1, column := 9, offset := 8 }, body.reverse⟩ :=
    congrArg Lexer.State.mode
      (Lexer.State.run_of_lacksEndTag begins (lacksEndTag_of_not_mem noAngle))
  have notFound : RawElement.script.endTag? body.reverse = none := by decide +kernel
  have goesOn : (opened.run (body ++ ['>'])).mode ≠ .between := by
    rw [Lexer.State.run_concat, Lexer.State.step_of_rawText reading]
    simp [Lexer.State.record, Lexer.inRawText, notFound]
  exact goesOn ((claimed opened .script .first _ begins body reading).mpr
    ⟨['x'], ⟨"script".toList, List.replicate 62 ' '⟩, ⟨by decide +kernel, by decide⟩, rfl⟩)

end JsxFragment
