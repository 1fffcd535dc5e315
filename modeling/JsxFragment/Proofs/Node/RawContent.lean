import JsxFragment.Proofs.Node.Attached
import JsxFragment.Proofs.Node.MarkupTokens

/-!
# Raw text stays text

The end tag of raw text is found by its spelling, but the element is closed by its name in lower
case. Where the two agree, an element with raw text has no content but that text. A spelling with
a character like `ſ`, which only its own case mappings lead to a letter, leaves the element open.
-/

namespace JsxFragment

open Text Number

/-- An element with raw text has no content but a piece of the source. -/
def Node.HoldsRawText (source : List Char) : Node → Prop
  | .element head children =>
      RawElement.ofTag? head.tag ≠ none →
        children = [] ∨ ∃ content, children = [.text content] ∧ content.toList <:+: source
  | _ => True

/-- Where an end tag ends raw text, it has the name of the element. -/
def RawTextEndsByName (events : List Event) : Prop :=
  ∀ (name endName : String) (content : Option String),
    .startTag name false :: ((content.map Event.text).toList ++ [.endTag endName]) <:+: events →
      RawElement.ofTag? name ≠ none → lower endName = lower name

namespace RawTextEndsByName

theorem of_infix {events longer : List Event} (ends : RawTextEndsByName longer)
    (part : events <:+: longer) : RawTextEndsByName events :=
  fun name endName content member => ends name endName content (member.trans part)

theorem of_joinText {content : String} {events : List Event}
    (ends : RawTextEndsByName (Event.joinText content events)) : RawTextEndsByName events := by
  cases events with
  | nil => exact ends.of_infix List.nil_infix
  | cons event rest =>
      cases event with
      | text more =>
          have restEnds : RawTextEndsByName rest := ends.of_infix (List.suffix_cons _ rest).isInfix
          intro name endName between member
          rcases List.infix_cons_iff.mp member with isPrefix | inRest
          · exact absurd (List.cons_prefix_cons.mp isPrefix).1 (by simp)
          · exact restEnds name endName between inRest
      | _ => exact ends.of_infix (List.suffix_cons _ _).isInfix

theorem of_before {phrase : Phrase} {events : List Event}
    (ends : RawTextEndsByName (phrase.before events)) : RawTextEndsByName events := by
  cases phrase with
  | text content | cdata content => exact of_joinText ends
  | comment content | doctype content | endTag name =>
      exact ends.of_infix (List.suffix_cons _ events).isInfix
  | startTag name attributes selfClosing =>
      exact ends.of_infix (List.suffix_cons _ events).isInfix

end RawTextEndsByName

/-! ## Phrases with raw text -/

/-- The phrase is a start tag after which raw text is due. -/
def Phrase.opensRaw : Phrase → Prop
  | .startTag name _ selfClosing => selfClosing = false ∧ RawElement.ofTag? name ≠ none
  | _ => False

/-- After each start tag that opens raw text comes a piece of the source, if anything, and then an
end tag whose name is some spelling of the element's, or the end of the phrases. -/
inductive RawTextEnds (source : List Char) : List Phrase → Prop
  | nil : RawTextEnds source []
  | plain {phrase : Phrase} {rest : List Phrase} (opensNone : ¬phrase.opensRaw)
      (others : RawTextEnds source rest) : RawTextEnds source (phrase :: rest)
  | closed {element : RawElement} {name endName : String} {attributes : List Attribute}
      {content : Option String} {rest : List Phrase} (isRaw : RawElement.ofTag? name = some element)
      (isPart : ∀ text ∈ content, text.toList <:+: source)
      (spelled : List.Forall₂ (fun letter c => RawElement.spells letter c = true)
        element.name.toList endName.toList)
      (endIsPart : endName.toList <:+: source) (others : RawTextEnds source rest) :
      RawTextEnds source
        (.startTag name attributes false ::
          ((content.map Phrase.text).toList ++ .endTag endName :: rest))
  | unclosed {name : String} {attributes : List Attribute} {content : Option String}
      (isRaw : RawElement.ofTag? name ≠ none) (isPart : ∀ text ∈ content, text.toList <:+: source) :
      RawTextEnds source
        (.startTag name attributes false :: (content.map Phrase.text).toList)

/-- The events of phrases. -/
def Event.ofPhrases (phrases : List Phrase) : List Event :=
  ofLexemes (phrases.flatMap Phrase.lexemes)

@[simp]
theorem Event.ofPhrases_cons (phrase : Phrase) (rest : List Phrase) :
    ofPhrases (phrase :: rest) = phrase.before (ofPhrases rest) := by
  rw [ofPhrases, List.flatMap_cons, ofLexemes_phrase]
  rfl

theorem Event.ofPhrases_rawText (content : Option String) (endName : String)
    (rest : List Phrase) :
    ofPhrases ((content.map Phrase.text).toList ++ .endTag endName :: rest) =
      (content.map Event.text).toList ++ .endTag endName :: ofPhrases rest := by
  cases content <;> simp [Phrase.before, joinText]

theorem Construct.opensRaw_of_fits {construct : Construct} {rest : List Char}
    (fits : construct.Fits none rest) :
    (∃ tag, construct = .startTag tag ∧ tag.opensRaw ≠ none) ∨
      construct.opensRaw = none ∧ ∀ phrase ∈ construct.phrases, ¬phrase.opensRaw := by
  cases construct with
  | startTag tag =>
      by_cases opens : tag.opensRaw = none
      · refine Or.inr ⟨opens, ?_⟩
        simp only [phrases, List.mem_singleton, forall_eq, StartTag.phrase, Phrase.opensRaw]
        rintro ⟨notClosed, isRaw⟩
        simp [StartTag.opensRaw, notClosed, isRaw] at opens
      · exact Or.inl ⟨tag, rfl, opens⟩
  | rawText element content ending => exact fits.elim
  | _ =>
      refine Or.inr ⟨rfl, ?_⟩
      simp [phrases, EndTag.phrase, Phrase.opensRaw]

theorem RawTextEnds.append_plain {source : List Char} {first rest : List Phrase}
    (opensNone : ∀ phrase ∈ first, ¬phrase.opensRaw) (others : RawTextEnds source rest) :
    RawTextEnds source (first ++ rest) := by
  induction first with
  | nil => exact others
  | cons phrase more inductionHypothesis =>
      rw [List.forall_mem_cons] at opensNone
      exact .plain opensNone.1 (inductionHypothesis opensNone.2)

/-- The text of raw text, if it has any characters. -/
def rawContent? (content : List Char) : Option String :=
  if content = [] then none else some (String.ofList content)

theorem Construct.phrases_rawText (element : RawElement) (content : List Char)
    (ending : Option EndTag) :
    (Construct.rawText element content ending).phrases =
      ((rawContent? content).map Phrase.text).toList ++ (ending.map EndTag.phrase).toList := by
  cases content <;> rfl

theorem infix_of_mem_rawContent? {source content : List Char} (part : content <:+: source) :
    ∀ text ∈ rawContent? content, text.toList <:+: source := by
  intro text member
  unfold rawContent? at member
  split at member
  · exact absurd member (by simp)
  · obtain rfl : String.ofList content = text := by simpa using member
    rwa [String.toList_ofList]

theorem StartTag.eq_of_opensRaw {tag : StartTag} {due : RawElement}
    (opens : tag.opensRaw = some due) :
    tag.selfClosing = false ∧ RawElement.ofTag? (String.ofList tag.head.name) = some due := by
  unfold StartTag.opensRaw at opens
  split at opens
  · exact absurd opens (by simp)
  · next notClosed => exact ⟨by simpa using notClosed, opens⟩

/-- The grammar lets raw text come right after its start tag. The second part is the case where that
tag has just been read. -/
theorem rawTextEnds_of_wellPlaced {source rest : List Char} {constructs : List Construct} :
    (WellPlaced none constructs rest → sourceOf constructs <:+: source →
        RawTextEnds source (constructs.flatMap Construct.phrases)) ∧
      ∀ due name attributes, RawElement.ofTag? name = some due →
        WellPlaced (some due) constructs rest → sourceOf constructs <:+: source →
          RawTextEnds source
            (.startTag name attributes false :: constructs.flatMap Construct.phrases) := by
  induction constructs with
  | nil =>
      refine ⟨fun _ _ => .nil, fun due name attributes isRaw _ _ => ?_⟩
      have isRawName : RawElement.ofTag? name ≠ none := by simp [isRaw]
      have unclosed : RawTextEnds source
          (.startTag name attributes false :: ((none : Option String).map Phrase.text).toList) :=
        .unclosed isRawName (by simp)
      exact unclosed
  | cons construct others inductionHypothesis =>
      obtain ⟨markup, raw⟩ := inductionHypothesis
      have sourceSplit : sourceOf (construct :: others) = construct.source ++ sourceOf others := rfl
      rw [sourceSplit, List.flatMap_cons]
      refine ⟨fun placed part => ?_, fun due name attributes isRaw placed part => ?_⟩
      · obtain ⟨fits, othersPlaced⟩ := placed
        have othersPart : sourceOf others <:+: source :=
          (List.suffix_append construct.source _).isInfix.trans part
        rcases Construct.opensRaw_of_fits fits with ⟨tag, rfl, opens⟩ | ⟨opensNone, plain⟩
        · obtain ⟨due, isDue⟩ := Option.ne_none_iff_exists'.mp opens
          obtain ⟨notClosed, isRaw⟩ := StartTag.eq_of_opensRaw isDue
          have isPhrase : (Construct.startTag tag).phrases =
              [.startTag (String.ofList tag.head.name)
                (tag.head.attributes.map AttributeSpelling.given) false] := by
            rw [Construct.phrases, StartTag.phrase, notClosed]
          rw [isPhrase, List.singleton_append]
          exact raw due _ _ isRaw (isDue ▸ othersPlaced) othersPart
        · rw [opensNone] at othersPlaced
          exact .append_plain plain (markup othersPlaced othersPart)
      · obtain ⟨fits, othersPlaced⟩ := placed
        have othersPart : sourceOf others <:+: source :=
          (List.suffix_append construct.source _).isInfix.trans part
        cases construct with
        | rawText element content ending =>
            obtain ⟨rfl, _, closes⟩ := fits
            have sourcePart : content ++ (ending.map EndTag.source).getD [] <:+: source :=
              (List.prefix_append _ _).isInfix.trans part
            have contentPart : content <:+: source :=
              (List.prefix_append content _).isInfix.trans sourcePart
            have isPart := infix_of_mem_rawContent? contentPart
            have isRawName : RawElement.ofTag? name ≠ none := by simp [isRaw]
            rw [Construct.phrases_rawText]
            generalize rawContent? content = text at *
            cases ending with
            | none =>
                have ended : others = [] := by
                  obtain ⟨_, restEmpty⟩ := closes
                  cases others with
                  | nil => rfl
                  | cons next more =>
                      have nonempty := WellPlaced.source_ne_nil othersPlaced next
                        List.mem_cons_self
                      simp [sourceOf, nonempty] at restEmpty
                subst ended
                have unclosed : RawTextEnds source
                    (.startTag name attributes false :: (text.map Phrase.text).toList) :=
                  .unclosed isRawName isPart
                simpa using unclosed
            | some tag =>
                have ending : ((some tag).map EndTag.phrase).toList =
                    [Phrase.endTag (String.ofList tag.name)] := rfl
                have namePart : tag.name <:+: source := by
                  refine List.IsInfix.trans ?_ sourcePart
                  exact ⟨content ++ ['<', '/'], tag.ignored ++ ['>'], by simp [EndTag.source]⟩
                rw [ending, List.append_assoc, List.singleton_append]
                exact .closed isRaw isPart (by simpa using closes.name) (by simpa using namePart)
                  (markup othersPlaced othersPart)
        | _ => exact fits.elim

/-! ## Names of end tags -/

theorem RawTextEndsByName.cons {event : Event} {events : List Event}
    (atHead : ∀ name, event = .startTag name false → RawElement.ofTag? name ≠ none →
      ∀ (content : Option String) endName,
        (content.map Event.text).toList ++ [.endTag endName] <+: events →
          lower endName = lower name)
    (ends : RawTextEndsByName events) : RawTextEndsByName (event :: events) := by
  intro name endName content part isRaw
  rcases List.infix_cons_iff.mp part with isPrefix | inRest
  · obtain ⟨same, after⟩ := List.cons_prefix_cons.mp isPrefix
    exact atHead name same.symm isRaw content endName after
  · exact ends name endName content inRest isRaw

theorem RawTextEndsByName.joinText {events : List Event} (content : String)
    (ends : RawTextEndsByName events) : RawTextEndsByName (Event.joinText content events) := by
  unfold Event.joinText
  split
  · next more rest => exact .cons (by simp) (ends.of_infix (List.suffix_cons _ rest).isInfix)
  · exact ends.cons (by simp)

theorem RawTextEndsByName.before {phrase : Phrase} {events : List Event}
    (opensNone : ¬phrase.opensRaw) (ends : RawTextEndsByName events) :
    RawTextEndsByName (phrase.before events) := by
  cases phrase with
  | text content | cdata content => exact ends.joinText content
  | comment content | doctype content | endTag name => exact ends.cons (by simp)
  | startTag name attributes selfClosing =>
      refine ends.cons fun opened isStart isRaw => ?_
      cases isStart
      exact absurd ⟨rfl, isRaw⟩ opensNone

/-- The characters beyond ASCII that spell a letter of an end tag of raw text. -/
def foreignSpellings : List Char :=
  ['ſ', 'İ', 'ı']

theorem toLower_eq_of_spells {letter c : Char} (spelled : RawElement.spells letter c = true)
    (notForeign : c ∉ foreignSpellings) : c.toLower = letter := by
  simp only [RawElement.spells, Bool.or_eq_true, Bool.and_eq_true, decide_eq_true_eq] at spelled
  rcases spelled with (lowered | ⟨_, rfl⟩) | ⟨_, rfl | rfl⟩
  · exact lowered
  all_goals exact absurd (by decide) notForeign

theorem toNat_lt_of_toLower {c letter : Char} (lowered : c.toLower = letter)
    (ascii : letter.toNat < 0x80) : c.toNat < 0x80 := by
  unfold Char.toLower at lowered
  split at lowered
  · next upper =>
      have bounds : 65 ≤ c.toNat ∧ c.toNat ≤ 90 := upper
      omega
  · rwa [lowered]

/-- Spelled in letters of ASCII, a name is the element's in lower case. -/
theorem lower_of_spells {element : RawElement} {name : String}
    (spelled : List.Forall₂ (fun letter c => RawElement.spells letter c = true)
      element.name.toList name.toList)
    (notForeign : ∀ c ∈ name.toList, c ∉ foreignSpellings) : lower name = element.name := by
  have ascii : ∀ letter ∈ element.name.toList, letter.toNat < 0x80 := by
    cases element <;> simp [RawElement.name]
  have lowered : (∀ c ∈ name.toList, c.toNat < 0x80) ∧
      name.toList.map Char.toLower = element.name.toList := by
    generalize element.name.toList = letters at spelled ascii
    generalize name.toList = spelling at spelled notForeign
    induction spelled with
    | nil => simp
    | cons head _ inductionHypothesis =>
        rw [List.forall_mem_cons] at ascii notForeign
        obtain ⟨restAscii, rest⟩ := inductionHypothesis ascii.2 notForeign.2
        have first := toLower_eq_of_spells head notForeign.1
        rw [List.forall_mem_cons, List.map_cons, first, rest]
        exact ⟨⟨toNat_lt_of_toLower first ascii.1, restAscii⟩, rfl⟩
  rw [lower, lowerText_of_ascii lowered.1, lowered.2, String.ofList_toList]

theorem RawTextEndsByName.rawText {events : List Event} (content : Option String)
    (ends : RawTextEndsByName events) :
    RawTextEndsByName ((content.map Event.text).toList ++ events) := by
  cases content with
  | none => exact ends
  | some text => exact ends.cons (by simp)

/-- Only a spelling that is not ASCII ends raw text without closing its element. -/
theorem RawTextEnds.endsByName {source : List Char} {phrases : List Phrase}
    (ends : RawTextEnds source phrases) (notForeign : ∀ c ∈ source, c ∉ foreignSpellings) :
    RawTextEndsByName (Event.ofPhrases phrases) := by
  have nilEnds : RawTextEndsByName [] := by
    intro name endName content part
    exact absurd (List.infix_nil.mp part) (by simp)
  induction ends with
  | nil => exact nilEnds
  | plain opensNone _ inductionHypothesis =>
      rw [Event.ofPhrases_cons]
      exact inductionHypothesis.before opensNone
  | @closed element name endName attributes content rest isRaw _ spelled endIsPart _
      inductionHypothesis =>
      have sameName : lower endName = lower name := by
        rw [RawElement.lower_of_ofTag? isRaw]
        exact lower_of_spells spelled fun c member => notForeign c (endIsPart.subset member)
      have restEnds : RawTextEndsByName (.endTag endName :: Event.ofPhrases rest) :=
        inductionHypothesis.cons (by simp)
      rw [Event.ofPhrases_cons, Event.ofPhrases_rawText]
      refine (restEnds.rawText content).cons fun opened isStart _ between closing after => ?_
      have sameEnd : closing = endName := by
        cases between <;> cases content <;> simp_all [List.cons_prefix_cons]
      cases isStart
      rw [sameEnd, sameName]
  | @unclosed name attributes content isRaw isPart =>
      have events : Event.ofPhrases (content.map Phrase.text).toList =
          (content.map Event.text).toList ++ [] := by
        cases content <;> rfl
      rw [Event.ofPhrases_cons, events]
      refine (nilEnds.rawText content).cons fun opened isStart _ between closing after => ?_
      have ending : Event.endTag closing ∈ (content.map Event.text).toList ++ [] :=
        after.subset (by simp)
      exact absurd ending (by simp)

namespace Nesting.State

/-! ## Elements with raw text -/

variable {source : List Char}

theorem holdsRawText_text (content : String) : Node.HoldsRawText source (.text content) :=
  trivial

theorem holdsRawText_comment (content : String) : Node.HoldsRawText source (.comment content) :=
  trivial

theorem admitsTag_of_not_opensRaw {phrase : Phrase} (opensNone : ¬phrase.opensRaw) :
    AdmitsTag (Node.HoldsRawText source) phrase := by
  cases phrase with
  | startTag name attributes selfClosing =>
      intro children complete isRaw
      cases selfClosing with
      | true => exact Or.inl (complete (by simp))
      | false => exact absurd ⟨rfl, isRaw⟩ opensNone
  | _ => trivial

/-- All that the innermost open element holds is its raw text. -/
structure HoldsRaw (source : List Char) (name : String) (state : State) : Prop where
  attached : state.AllAttached (Node.HoldsRawText source)
  innermost : ∃ element outer, state.stack = element :: outer ∧ element.tag = name ∧
    Node.HoldsRawText source element.close
  outer : ∀ head ∈ state.openHeads.tail, HoldsOfHead (Node.HoldsRawText source) head

theorem HoldsRaw.closed {name : String} {state : State} (holds : state.HoldsRaw source name) :
    ∀ innermost ∈ state.stack.head?, Node.HoldsRawText source innermost.close := by
  obtain ⟨element, outer, stack, _, closed⟩ := holds.innermost
  simpa [stack] using closed

theorem holdsRaw_openElement {state : State} (tag : PendingTag) {content : Option String}
    (keeps : state.Keeps (Node.HoldsRawText source))
    (isPart : ∀ text ∈ content, text.toList <:+: source) :
    (State.flush { state.openElement tag with text := content.toList }).HoldsRaw source
      tag.name := by
  have opened : ({ state.openElement tag with text := [] } : State).AllAttached
      (Node.HoldsRawText source) := by
    refine ⟨keeps.attached.roots, List.forall_mem_cons.mpr ⟨?_, keeps.attached.children⟩⟩
    simp
  cases content with
  | none =>
      refine ⟨opened, ⟨_, _, rfl, rfl, ?_⟩, keeps.opened⟩
      exact fun _ => Or.inl rfl
  | some text =>
      refine ⟨allAttached_append opened ?_, ⟨_, _, rfl, rfl, ?_⟩, keeps.opened⟩
      · simpa using holdsRawText_text _
      · refine fun _ => Or.inr ⟨text, ?_, isPart text rfl⟩
        simp [String.join]

theorem HoldsRaw.keeps_endTag {name : String} {state : State} {tag : PendingTag}
    (holds : state.HoldsRaw source name) (notVoid : isVoidTag tag.name = false)
    (sameName : lower tag.name = lower name) :
    (state.endTag tag).Keeps (Node.HoldsRawText source) := by
  refine ⟨allAttached_endTag tag holds.attached holds.closed holds.outer, ?_⟩
  obtain ⟨element, rest, stack, rfl, _⟩ := holds.innermost
  have sameKey : element.key = lower tag.name := by
    rw [element.key_eq, sameName]
  rcases endTag_cases state tag with
    ⟨isVoid, _⟩ | ⟨_, unmatched, _⟩ | ⟨_, inner, closed, outer, split, others, _, equality⟩
  · exact absurd isVoid (by simp [notVoid])
  · exact absurd sameKey (unmatched element (by simp [stack]))
  · have noneInside : inner = [] := by
      cases inner with
      | nil => rfl
      | cons first more =>
          rw [stack, List.cons_append, List.cons.injEq] at split
          exact absurd sameKey (split.1 ▸ others first List.mem_cons_self)
    rw [equality, noneInside, openHeads_closeInnermost]
    exact holds.outer

theorem forall_mem_preorder_of_holdsRaw {name : String} {state : State}
    (holds : state.flush.HoldsRaw source name) :
    ∀ node ∈ Node.preorder state.finish.roots.reverse, Node.HoldsRawText source node :=
  forall_mem_preorder_finish holds.attached holds.closed holds.outer

/-- A start tag that opens raw text and the raw text after it, if there is any. -/
theorem holdsRaw_takes {maxDepth : Amount} {name : String} {attributes : List Attribute}
    {content : Option String} {state next : State}
    (takes : Takes maxDepth state
      (.startTag name attributes false :: (content.map Phrase.text).toList) next)
    (isRaw : RawElement.ofTag? name ≠ none)
    (isPart : ∀ text ∈ content, text.toList <:+: source)
    (keeps : state.Keeps (Node.HoldsRawText source)) : next.flush.HoldsRaw source name := by
  cases takes with
  | cons position first others =>
      have flushed := keeps_flush keeps holdsRawText_text
      rcases startTag_cases first with ⟨complete, _⟩ | ⟨_, _, rfl⟩
      · have isVoid : isVoidTag name = true := by simpa using complete
        exact absurd (ofTag?_eq_none_of_isVoidTag isVoid) isRaw
      · have holds := holdsRaw_openElement
          ⟨false, position, name, attributes.reverse⟩ flushed isPart
        have empty : (state.flush.openElement ⟨false, position, name, attributes.reverse⟩).text =
            [] := text_flush state
        cases content with
        | none =>
            cases others
            rw [Option.toList_none, ← empty] at holds
            exact holds
        | some text =>
            cases others with
            | cons _ read more =>
                cases read
                cases more
                rw [empty]
                exact holds

theorem holdsRawText_of_takes {maxDepth : Amount} {phrases : List Phrase} {state final : State}
    (closes : RawTextEnds source phrases) (takes : Takes maxDepth state phrases final)
    (ends : RawTextEndsByName (Event.ofPhrases phrases))
    (keeps : state.Keeps (Node.HoldsRawText source)) :
    ∀ node ∈ Node.preorder final.finish.roots.reverse, Node.HoldsRawText source node := by
  -- After a start tag that opens raw text its element need not be kept with any children, so the
  -- tags and the text of such an element are taken as one step.
  induction closes generalizing state with
  | nil =>
      cases takes
      exact forall_mem_preorder_of_keeps keeps holdsRawText_text
  | plain opensNone _ inductionHypothesis =>
      cases takes with
      | cons position first others =>
          rw [Event.ofPhrases_cons] at ends
          exact inductionHypothesis others ends.of_before
            (keeps_phrase first holdsRawText_text holdsRawText_comment keeps
              (admitsTag_of_not_opensRaw opensNone))
  | @closed element name endName attributes content rest isRaw isPart _ _ _ inductionHypothesis =>
      rw [← List.cons_append] at takes
      obtain ⟨middle, before, after⟩ := exists_takes_of_append takes
      have isRawName : RawElement.ofTag? name ≠ none := by simp [isRaw]
      have holds := holdsRaw_takes before isRawName isPart keeps
      have split :
          Event.ofPhrases (.startTag name attributes false ::
              ((content.map Phrase.text).toList ++ .endTag endName :: rest)) =
            (.startTag name false :: ((content.map Event.text).toList ++ [.endTag endName])) ++
              Event.ofPhrases rest := by
        rw [Event.ofPhrases_cons, Event.ofPhrases_rawText]
        simp [Phrase.before]
      rw [split] at ends
      have sameName : lower endName = lower name :=
        ends name endName content (List.prefix_append _ _).isInfix isRawName
      have notVoid : isVoidTag endName = false := by
        by_contra isVoid
        rw [Bool.not_eq_false] at isVoid
        have sameElement : RawElement.ofTag? endName = RawElement.ofTag? name := by
          simp only [RawElement.ofTag?, sameName]
        exact isRawName (sameElement ▸ ofTag?_eq_none_of_isVoidTag isVoid)
      cases after with
      | cons position ended others =>
          cases ended
          exact inductionHypothesis others (ends.of_infix (List.suffix_append _ _).isInfix)
            (holds.keeps_endTag notVoid sameName)
  | unclosed isRaw isPart =>
      exact forall_mem_preorder_of_holdsRaw (holdsRaw_takes takes isRaw isPart keeps)

end Nesting.State

/-! ## Texts -/

theorem RawElement.ofTag?_ne_none_iff {tag : String} :
    ofTag? tag ≠ none ↔ lower tag = "script" ∨ lower tag = "style" := by
  unfold ofTag?
  by_cases isScript : lower tag = "script"
  · simp [isScript]
  · by_cases isStyle : lower tag = "style"
    · simp [isStyle]
    · simp [isScript, isStyle]

/-- A text with none of the foreign spellings ends its raw text by name. -/
theorem rawTextEndsByName_of_read {limits : Limits} {html : String} {reading : Reading}
    (succeeds : read limits html = .ok reading)
    (notForeign : ∀ c ∈ html.toList, c ∉ foreignSpellings) :
    RawTextEndsByName (Event.ofLexemes (reading.tokens.map Token.lexeme)) := by
  obtain ⟨constructs, final, source, placed, lexemes, _⟩ := takes_of_read succeeds
  have closes : RawTextEnds html.toList (constructs.flatMap Construct.phrases) :=
    rawTextEnds_of_wellPlaced.1 placed (source ▸ List.infix_refl _)
  rw [lexemes]
  exact closes.endsByName notForeign

/-- Where the end tags of raw text have the names of their elements, an element with raw text has no
content but one text, a piece of the whole text. -/
theorem children_of_rawElement {limits : Limits} {html : String} {reading : Reading}
    (succeeds : read limits html = .ok reading)
    (ends : RawTextEndsByName (Event.ofLexemes (reading.tokens.map Token.lexeme))) :
    ∀ head children, .element head children ∈ Node.preorder reading.nodes →
      lower head.tag = "script" ∨ lower head.tag = "style" →
        children = [] ∨
          ∃ content, children = [.text content] ∧ content.toList <:+: html.toList := by
  obtain ⟨constructs, final, source, placed, lexemes, takes, nodes, _⟩ := takes_of_read succeeds
  have closes : RawTextEnds html.toList (constructs.flatMap Construct.phrases) :=
    rawTextEnds_of_wellPlaced.1 placed (source ▸ List.infix_refl _)
  rw [lexemes] at ends
  rw [nodes]
  intro head children member isRaw
  exact Nesting.State.holdsRawText_of_takes closes takes ends Nesting.State.keeps_empty _ member
    (RawElement.ofTag?_ne_none_iff.mpr isRaw)

theorem children_of_rawElement_of_capitals :
    ∃ reading, read {} "<Style>a<b</STYLE >c" = .ok reading ∧
      RawTextEndsByName (Event.ofLexemes (reading.tokens.map Token.lexeme)) ∧
      ∀ head children, .element head children ∈ Node.preorder reading.nodes →
        lower head.tag = "script" ∨ lower head.tag = "style" →
          children = [] ∨ ∃ content, children = [.text content] ∧
            content.toList <:+: "<Style>a<b</STYLE >c".toList := by
  obtain ⟨reading, succeeds⟩ : ∃ reading, read {} "<Style>a<b</STYLE >c" = .ok reading :=
    ⟨_, rfl⟩
  have ends := rawTextEndsByName_of_read succeeds (by simp [foreignSpellings])
  exact ⟨reading, succeeds, ends, children_of_rawElement succeeds ends⟩

/-- An element with raw text that has more content than a text. -/
def Node.mixesRawText : Node → Bool
  | .element head (_ :: _ :: _) => (RawElement.ofTag? head.tag).isSome && !head.selfClosing
  | _ => false

/-- An end tag with a `ſ` ends raw text, but does not close the element. -/
theorem not_children_of_rawElement_of_long_s :
    ∃ reading, read {} "<script>a</ſcript><b>x</b>" = .ok reading ∧
      ∃ head children, .element head children ∈ Node.preorder reading.nodes ∧
        (lower head.tag = "script" ∨ lower head.tag = "style") ∧ head.selfClosing = false ∧
          ¬(children = [] ∨ ∃ content, children = [.text content] ∧
            content.toList <:+: "<script>a</ſcript><b>x</b>".toList) := by
  have mixed : (read {} "<script>a</ſcript><b>x</b>").toOption.any (fun reading =>
      (Node.preorder reading.nodes).any Node.mixesRawText) = true := by
    decide +kernel
  cases result : read {} "<script>a</ſcript><b>x</b>" with
  | error failure =>
      rw [result] at mixed
      exact absurd mixed (by simp [Except.toOption])
  | ok reading =>
      rw [result] at mixed
      obtain ⟨node, member, mixes⟩ := List.any_eq_true.mp mixed
      unfold Node.mixesRawText at mixes
      split at mixes
      · next head first second others =>
          obtain ⟨isRaw, notClosed⟩ := Bool.and_eq_true_iff.mp mixes
          refine ⟨reading, rfl, head, _, member, ?_, by simpa using notClosed, by simp⟩
          exact RawElement.ofTag?_ne_none_iff.mp (Option.isSome_iff_ne_none.mp isRaw)
      · exact absurd mixes (by simp)

end JsxFragment
