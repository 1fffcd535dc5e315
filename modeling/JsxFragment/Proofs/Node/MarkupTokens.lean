import JsxFragment.Proofs.Node.Markup
import JsxFragment.Proofs.Node.Outline
import JsxFragment.Proofs.Text.Lower
import JsxFragment.Proofs.Token.MarkupEmission
import JsxFragment.Proofs.Token.Reading

/-!
# The tokens of canonical text

The canonical text of a fragment is cut into the tokens of its phrases, without a repair. Text is
only settled by what follows it, so a fragment leaves lexemes waiting.
-/

namespace JsxFragment

open Text

/-! ## Start tags -/

/-- The attribute as canonical text spells it. -/
def Attribute.spelling (given : Attribute) : AttributeSpelling :=
  { gap := [' ']
    name := given.name.toList
    assignment := given.value.map fun value =>
      ⟨[], [], .quoted (quoteFor value.toList) value.toList⟩ }

/-- The start tag as canonical text spells it. -/
def Head.startTag (spaced : Bool) (head : Head) : StartTag :=
  { head := ⟨head.tag.toList, head.attributes.map Attribute.spelling⟩
    gap := if head.selfClosing then if spaced then [' ', '/'] else ['/'] else [] }

@[simp]
theorem Attribute.given_spelling (given : Attribute) : given.spelling.given = given := by
  obtain ⟨name, value⟩ := given
  cases value <;> simp [spelling, AttributeSpelling.given, ValueSpelling.content]

theorem Attribute.source_spelling (given : Attribute) : given.spelling.source = given.markup := by
  obtain ⟨name, value⟩ := given
  cases value <;>
    simp [spelling, AttributeSpelling.source, Assignment.source, ValueSpelling.source, markup]

theorem Head.source_startTag (spaced : Bool) (head : Head) :
    (head.startTag spaced).source = head.markup spaced := by
  have attributes :
      (head.attributes.map Attribute.spelling).flatMap AttributeSpelling.source =
        head.attributes.flatMap Attribute.markup := by
    rw [List.flatMap_map]
    exact congrArg (head.attributes.flatMap ·) (funext Attribute.source_spelling)
  simp [startTag, StartTag.source, TagHead.source, attributes, markup]

theorem Head.selfClosing_startTag (spaced : Bool) (head : Head) :
    (head.startTag spaced).selfClosing = head.selfClosing := by
  cases closing : head.selfClosing <;> cases spaced <;>
    simp [StartTag.selfClosing, startTag, closing]

theorem Head.phrase_startTag (spaced : Bool) (head : Head) :
    (head.startTag spaced).phrase = .startTag head.tag head.attributes head.selfClosing := by
  have attributes :
      (head.attributes.map Attribute.spelling).map AttributeSpelling.given = head.attributes := by
    simp [Function.comp_def]
  rw [StartTag.phrase, selfClosing_startTag]
  simp only [startTag, attributes, String.ofList_toList]

/-- The edges that come about where every value is between quotes. -/
def Edge.IsPlain (edge : Edge) : Prop :=
  edge = .tagName ∨ edge = .bareName ∨ edge = .quotedValue

theorem Edge.IsPlain.allowsGap {edge : Edge} (plain : edge.IsPlain) {gap : List Char}
    (nonempty : gap ≠ []) (gapChars : ∀ c ∈ gap, isGapChar c = true) : edge.AllowsGap gap := by
  rcases plain with rfl | rfl | rfl
  · exact ⟨gapChars, nonempty⟩
  · exact ⟨gapChars, nonempty⟩
  · exact ⟨gapChars, trivial⟩

theorem Attribute.edge_spelling (given : Attribute) : given.spelling.edge.IsPlain := by
  obtain ⟨name, value⟩ := given
  cases value with
  | none => exact Or.inr (Or.inl rfl)
  | some value => exact Or.inr (Or.inr rfl)

theorem Attribute.IsCanonical.follows {given : Attribute} (canonical : given.IsCanonical)
    {edge : Edge} (plain : edge.IsPlain) : given.spelling.Follows edge where
  gap := by
    refine ⟨plain.allowsGap (by simp [spelling]) (by simp [spelling]; decide), ?_⟩
    intro _ assigned
    have member : '=' ∈ given.name.toList := List.mem_of_head? assigned
    exact absurd rfl (canonical.name '=' member).2
  name :=
    { nonempty := canonical.nonempty
      closed := fun c member => (canonical.name c member).1
      unassigned := fun c member => (canonical.name c (List.mem_of_mem_tail member)).2 }
  assignment := by
    intro assignment member
    obtain ⟨value, isValue, rfl⟩ := Option.map_eq_some_iff.mp member
    refine ⟨by simp, by simp, ?_⟩
    unfold quoteFor
    by_cases double : '"' ∈ value.toList
    · rw [if_pos double]
      exact ⟨Or.inr rfl, canonical.value value isValue double⟩
    · rw [if_neg double]
      exact ⟨Or.inl rfl, double⟩

theorem attributesFollow_map_spelling {attributes : List Attribute}
    (canonical : ∀ given ∈ attributes, given.IsCanonical) {edge : Edge} (plain : edge.IsPlain) :
    AttributesFollow edge (attributes.map Attribute.spelling) ∧
      (lastEdge edge (attributes.map Attribute.spelling)).IsPlain := by
  induction attributes generalizing edge with
  | nil => exact ⟨trivial, plain⟩
  | cons given rest inductionHypothesis =>
      rw [List.forall_mem_cons] at canonical
      obtain ⟨follow, plainLast⟩ := inductionHypothesis canonical.2 given.edge_spelling
      exact ⟨⟨canonical.1.follows plain, follow⟩, plainLast⟩

theorem Head.IsCanonical.tag_ne_empty {head : Head} (canonical : head.IsCanonical) :
    head.tag ≠ "" := by
  obtain ⟨first, others, isName, _⟩ := canonical.tag.starts
  intro empty
  simp [empty] at isName

theorem Head.IsCanonical.isSpelled {head : Head} (canonical : head.IsCanonical) (spaced : Bool) :
    (head.startTag spaced).IsSpelled := by
  have plainName : Edge.tagName.IsPlain := Or.inl rfl
  obtain ⟨follow, plain⟩ := attributesFollow_map_spelling canonical.attributes plainName
  refine ⟨⟨canonical.tag, follow⟩, ?_⟩
  cases closing : head.selfClosing with
  | false => exact Or.inl (by simp [startTag, closing])
  | true =>
      refine Or.inr (plain.allowsGap ?_ ?_)
      · cases spaced <;> simp [startTag, closing]
      · cases spaced <;> simp [startTag, closing] <;> decide

/-! ## Fragments -/

theorem ofTag?_eq_none_of_isVoidTag {tag : String} (isVoid : isVoidTag tag = true) :
    RawElement.ofTag? tag = none := by
  unfold isVoidTag at isVoid
  unfold RawElement.ofTag?
  dsimp only
  split
  · next name =>
      rw [name] at isVoid
      exact absurd isVoid (by decide)
  · split
    · next name =>
        rw [name] at isVoid
        exact absurd isVoid (by decide)
    · rfl

theorem Head.IsCanonical.opensRaw {head : Head} (canonical : head.IsCanonical) (spaced : Bool) :
    (head.startTag spaced).opensRaw =
      if head.isVoid || head.selfClosing then none else RawElement.ofTag? head.tag := by
  have raw : (head.startTag spaced).opensRaw =
      if head.selfClosing then none else RawElement.ofTag? head.tag := by
    rw [StartTag.opensRaw, selfClosing_startTag]
    simp [startTag]
  rw [raw, canonical.isVoid]
  cases isVoid : isVoidTag head.tag with
  | false => simp
  | true => simp [ofTag?_eq_none_of_isVoidTag isVoid]

/-- The end tag of canonical text. -/
def Head.endTag (head : Head) : EndTag :=
  { name := head.tag.toList, ignored := [] }

theorem Head.phrase_endTag (head : Head) : head.endTag.phrase = .endTag head.tag := by
  simp [EndTag.phrase, endTag]

theorem Head.IsCanonical.endTag_isSpelled {head : Head} (canonical : head.IsCanonical) :
    head.endTag.IsSpelled :=
  ⟨canonical.tag, by simp [Head.endTag], by simp [Head.endTag]⟩

theorem Head.endTag_closes {head : Head} {raw : RawElement}
    (opens : RawElement.ofTag? head.tag = some raw) : head.endTag.Closes raw where
  name := RawElement.forall₂_spells_of_ofTag? opens
  ignored := by simp [endTag]
  slack := by
    have angles : "</>".length ≤ RawElement.endTagSlack := by decide
    simpa [endTag] using angles

namespace Lexer

/-- From where these lexemes wait, the text settles lexemes without a repair and leaves others
waiting; all together they are what waited and then the lexemes of the text. -/
def Yields (waiting : List Lexeme) (text : List Char) (lexemes : List Lexeme) : Prop :=
  ∃ settled left, Emits (Resting waiting) text settled (Resting left) ∧
    settled ++ left = waiting ++ lexemes

theorem Emits.yields {waiting : List Lexeme} {text rest : List Char}
    {lexemes more : List Lexeme}
    (emits : Emits (Resting waiting) text (waiting ++ lexemes) (· = .between))
    (others : Yields [] rest more) : Yields waiting (text ++ rest) (lexemes ++ more) := by
  obtain ⟨settled, left, emitsRest, total⟩ := others
  have resting : Emits (Resting waiting) text (waiting ++ lexemes) (Resting []) :=
    emits.weaken fun _ between => Or.inl ⟨between, rfl⟩
  refine ⟨_, left, resting.append emitsRest, ?_⟩
  rw [List.append_assoc, total]
  simp

end Lexer

open Lexer

namespace Node

theorem emits_rawText_element {head : Head} {raw : RawElement} {children : List Node}
    (spaced : Bool) (opens : RawElement.ofTag? head.tag = some raw)
    (canonical : children = [] ∨ ∃ content, children = [.text content] ∧ content ≠ "" ∧
      LacksEndTag raw content.toList) :
    Emits (InRawText raw []) (markupAll spaced children ++ head.endTag.source)
      ((phrasesAll children ++ [Phrase.endTag head.tag]).flatMap Phrase.lexemes)
      (· = .between) := by
  have closes := Head.endTag_closes opens
  rcases canonical with rfl | ⟨content, rfl, nonempty, lacks⟩
  · have lacks : LacksEndTag raw [] := by
      intro found
      obtain ⟨before, after, tag, _, equality⟩ := found
      simp [EndTag.source] at equality
    simpa [markupAll, phrasesAll, Head.phrase_endTag] using emits_rawText lacks closes
  · have notEmpty : content.toList.isEmpty = false := by simpa using nonempty
    simpa [markupAll, markup, phrasesAll, phrases, Head.phrase_endTag, notEmpty,
      Phrase.lexemes] using emits_rawText lacks closes

/-- Canonical text is read as the phrases of its fragment. Text has to have nothing but markup
before it. -/
theorem yields_markupAll (spaced : Bool) (fragment : List Node) :
    AllCanonical fragment → ∀ waiting, (BeginsWithText fragment → waiting = []) →
      Yields waiting (markupAll spaced fragment)
        ((phrasesAll fragment).flatMap Phrase.lexemes) := by
  induction fragment using fragmentInduction with
  | nil =>
      intro _ waiting _
      exact ⟨[], waiting, Emits.nil fun _ resting => resting, by simp [phrasesAll]⟩
  | text content rest forRest =>
      intro whole waiting settled
      obtain ⟨⟨nonempty, plain⟩, apart, canonical⟩ := whole
      obtain rfl := settled trivial
      have notEmpty : content.toList ≠ [] := by simpa using nonempty
      obtain ⟨settled, left, emitsRest, total⟩ :=
        forRest canonical [⟨.text, content⟩] fun begins => absurd begins (apart trivial)
      have emitsText : Emits (Resting []) content.toList [] (Resting [⟨.text, content⟩]) := by
        refine ((emits_text notEmpty plain).strengthen ?_).weaken ?_
        · rintro mode (⟨between, _⟩ | ⟨_, _, waits⟩)
          · exact between
          · exact absurd waits (by simp)
        · exact fun _ inText => Or.inr ⟨_, inText, by simp⟩
      refine ⟨settled, left, emitsText.silently emitsRest, ?_⟩
      simpa [phrasesAll, phrases, Phrase.lexemes] using total
  | comment content rest forRest =>
      intro whole waiting _
      obtain ⟨isContent, _, canonical⟩ := whole
      have yields := (emits_comment isContent waiting).yields (forRest canonical [] fun _ => rfl)
      simpa [markupAll, markup, phrasesAll, phrases, Phrase.lexemes, Construct.source] using yields
  | element head children rest forChildren forRest =>
      intro whole waiting _
      obtain ⟨⟨isHead, childless, isChildren⟩, _, canonical⟩ := whole
      have start := emits_startTag (isHead.isSpelled spaced) waiting
      rw [Head.source_startTag, Head.phrase_startTag, isHead.opensRaw] at start
      have others := forRest canonical [] fun _ => rfl
      cases complete : head.isVoid || head.selfClosing with
      | true =>
          rw [complete, if_pos rfl] at start
          simpa [markupAll, markup, phrasesAll, phrases, complete] using start.yields others
      | false =>
          rw [complete, if_neg (by simp)] at start
          have body : Emits (AfterTag (RawElement.ofTag? head.tag))
              (markupAll spaced children ++ head.endTag.source)
              ((phrasesAll children ++ [Phrase.endTag head.tag]).flatMap Phrase.lexemes)
              (· = .between) := by
            cases opens : RawElement.ofTag? head.tag with
            | some raw =>
                rw [opens] at isChildren
                exact emits_rawText_element spaced opens isChildren
            | none =>
                rw [opens] at isChildren
                obtain ⟨settled, left, emitsChildren, total⟩ :=
                  forChildren isChildren [] fun _ => rfl
                have resting : Emits (AfterTag none) (markupAll spaced children) settled
                    (Resting left) :=
                  emitsChildren.strengthen fun _ between => Or.inl ⟨between, rfl⟩
                have ended := resting.append (emits_endTag isHead.endTag_isSpelled left)
                rw [← List.append_assoc, total] at ended
                simpa [Head.phrase_endTag] using ended
          have whole : Emits (Resting waiting)
              (head.markup spaced ++ (markupAll spaced children ++ head.endTag.source))
              (waiting ++ (phrases (.element head children)).flatMap Phrase.lexemes)
              (· = .between) := by
            simpa [phrases, complete] using start.append body
          simpa [markupAll, markup, phrasesAll, complete, EndTag.source, Head.endTag] using
            whole.yields others

end Node

theorem Lexer.finish_of_resting {waiting : List Lexeme} {mode : Mode}
    (resting : Resting waiting mode) :
    (finish mode).tokens.map Token.lexeme = waiting ∧ (finish mode).repairs = [] := by
  rcases resting with ⟨rfl, rfl⟩ | ⟨content, ⟨stretch, rfl, rfl⟩, rfl⟩
  · exact ⟨rfl, rfl⟩
  · exact ⟨rfl, rfl⟩

theorem tokenize_of_yields {text : List Char} {lexemes : List Lexeme}
    (yields : Yields [] text lexemes) :
    (tokenize (String.ofList text)).tokens.map Token.lexeme = lexemes ∧
      (tokenize (String.ofList text)).repairs = [] := by
  obtain ⟨settled, left, emits, total⟩ := yields
  obtain ⟨resting, tokens, repairs⟩ := emits State.initial (Or.inl ⟨rfl, rfl⟩)
  obtain ⟨finishTokens, finishRepairs⟩ := finish_of_resting resting
  unfold tokenize
  rw [String.toList_ofList]
  refine ⟨?_, ?_⟩
  · rw [List.nil_append] at total
    rw [← total, ← finishTokens]
    simpa [State.record, State.initial] using tokens
  · have started : State.initial.repairs = [] := rfl
    simp [State.record, finishRepairs, repairs, started]

end JsxFragment
