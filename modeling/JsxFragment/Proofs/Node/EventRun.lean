import JsxFragment.Conversion
import JsxFragment.Proofs.Node.Event
import JsxFragment.Proofs.Node.PhraseRun
import JsxFragment.Proofs.Token.Reading
import Mathlib.Data.List.TakeWhile

/-!
# Nesting follows the open tags

Elements are built from the inside out and attached when they are closed, but in document order they
are those of the start tags, as deep as there were open tags. What is finished, what is still open
and what the rest of the tokens will add make up the same account after every phrase.
-/

namespace JsxFragment

open Text Number

/-! ## Events of phrases -/

/-- What a phrase adds before the events of the phrases after it. -/
def Phrase.before (events : List Event) : Phrase → List Event
  | text content | cdata content => Event.joinText content events
  | comment content => .comment content :: events
  | doctype _ => .doctype :: events
  | startTag name _ selfClosing => .startTag name selfClosing :: events
  | endTag name => .endTag name :: events

namespace Event

theorem attribute_lexemes_kind {attributes : List Attribute} {lexeme : Lexeme}
    (member : lexeme ∈ attributes.flatMap Attribute.lexemes) :
    lexeme.kind = .attributeName ∨ lexeme.kind = .attributeValue := by
  obtain ⟨given, _, member⟩ := List.mem_flatMap.mp member
  obtain ⟨name, value⟩ := given
  cases value with
  | none => simp_all [Attribute.lexemes]
  | some value =>
      simp only [Attribute.lexemes, List.mem_cons, List.not_mem_nil, or_false] at member
      rcases member with rfl | rfl
      · exact Or.inl rfl
      · exact Or.inr rfl

theorem ofLexemes_attributes (attributes : List Attribute) (rest : List Lexeme) :
    ofLexemes (attributes.flatMap Attribute.lexemes ++ rest) = ofLexemes rest := by
  have skips : ∀ lexemes : List Lexeme,
      (∀ lexeme ∈ lexemes, lexeme.kind = .attributeName ∨ lexeme.kind = .attributeValue) →
        ofLexemes (lexemes ++ rest) = ofLexemes rest := by
    intro lexemes
    induction lexemes with
    | nil => exact fun _ => rfl
    | cons lexeme others inductionHypothesis =>
        intro kinds
        rw [List.forall_mem_cons] at kinds
        rw [List.cons_append, ofLexemes, ← inductionHypothesis kinds.2]
        rcases kinds.1 with kind | kind <;> rw [kind]
  exact skips _ fun lexeme member => attribute_lexemes_kind member

theorem ofTag_startTag (name : String) (attributes : List Attribute) (selfClosing : Bool)
    (rest : List Lexeme) :
    ofTag "<" (⟨.tagName, name⟩ :: (attributes.flatMap Attribute.lexemes ++
        ⟨.tagEnd, if selfClosing then "/>" else ">"⟩ :: rest)) =
      .startTag name selfClosing := by
  have noEnd :
      (attributes.flatMap Attribute.lexemes).find? (fun lexeme => lexeme.kind = .tagEnd) =
        none := by
    rw [List.find?_eq_none]
    intro lexeme member
    rcases attribute_lexemes_kind member with kind | kind <;> simp [kind]
  cases selfClosing <;> simp [ofTag, List.find?_append, noEnd]

theorem ofLexemes_phrase (phrase : Phrase) (rest : List Lexeme) :
    ofLexemes (phrase.lexemes ++ rest) = phrase.before (ofLexemes rest) := by
  cases phrase with
  | text content | cdata content | comment content | doctype content | endTag name => rfl
  | startTag name attributes selfClosing =>
      simp only [Phrase.lexemes, List.cons_append, List.append_assoc, List.nil_append]
      rw [ofLexemes]
      simp only [ofTag_startTag]
      rw [ofLexemes]
      simp only [ofLexemes_attributes]
      rfl

end Event

/-! ## Closing tags -/

theorem closeTag_of_unmatched {opened : List String} {name : String}
    (unmatched : ∀ tag ∈ opened, lower tag ≠ lower name) : closeTag opened name = opened := by
  have allDropped : opened.dropWhile (fun tag => decide (lower tag ≠ lower name)) = [] := by
    simpa using unmatched
  unfold closeTag
  rw [allDropped]
  simp

theorem closeTag_append_cons {inner outer : List String} {closed name : String}
    (notVoid : isVoidTag name = false) (others : ∀ tag ∈ inner, lower tag ≠ lower name)
    (same : lower closed = lower name) : closeTag (inner ++ closed :: outer) name = outer := by
  have dropped :
      (inner ++ closed :: outer).dropWhile (fun tag => decide (lower tag ≠ lower name)) =
        closed :: outer := by
    rw [List.dropWhile_append_of_pos (by simpa using others)]
    simp [same]
  unfold closeTag
  rw [dropped]
  simp [notVoid]

namespace Nesting

/-! ## The account of a fragment -/

/-- The nodes of a fragment in document order, as they are told. -/
def labels (depth : Nat) (nodes : List Node) : List (Nat × Label) :=
  (Node.visitedAll depth nodes).map fun place => (place.1, place.2.label)

@[simp]
theorem labels_nil (depth : Nat) : labels depth [] = [] :=
  rfl

@[simp]
theorem labels_append (depth : Nat) (first second : List Node) :
    labels depth (first ++ second) = labels depth first ++ labels depth second := by
  simp [labels, Node.visitedAll_append]

theorem labels_element (depth : Nat) (head : Head) (children : List Node) :
    labels depth [.element head children] =
      (depth, .element head.tag) :: labels (depth + 1) children := by
  simp [labels, Node.visited, Node.label]

/-- The open elements in document order, each with its children so far. -/
def stackLabels : List OpenElement → List (Nat × Label)
  | [] => []
  | innermost :: outer =>
      stackLabels outer ++
        (outer.length, .element innermost.tag) ::
          labels (outer.length + 1) innermost.children.reverse

/-- What the start tag of an open element told of it. -/
def OpenElement.head (element : OpenElement) : Head :=
  { tag := element.tag, attributes := element.attributes }

namespace State

/-- The nodes so far in document order, those of open elements included. -/
def nodeLabels (state : State) : List (Nat × Label) :=
  labels 0 state.roots.reverse ++ stackLabels state.stack

/-- The tags of the open elements, the innermost first. -/
def openTags (state : State) : List String :=
  state.stack.map (·.tag)

/-- The heads of the open elements, the innermost first. -/
def openHeads (state : State) : List Head :=
  state.stack.map OpenElement.head

/-- The events to come, with the text that is waiting to become a node. -/
def withText (pieces : List String) (events : List Event) : List Event :=
  if pieces = [] then events else Event.joinText (String.join pieces.reverse) events

/-- The nodes so far, and those that the events will add to them. -/
def account (state : State) (events : List Event) : List (Nat × Label) :=
  state.nodeLabels ++ Event.outline state.openTags (withText state.text events)

/-! ## Open elements -/

section Told

variable {α : Type _} {told : OpenElement → α}
  (childless : ∀ element children, told { element with children } = told element)

include childless

/-- What is told of open elements without a look at their children stays the same when a node is
added to them. -/
theorem map_stack_append (state : State) (node : Node) :
    (state.append node).stack.map told = state.stack.map told := by
  unfold append
  split
  · rfl
  · next innermost outer stack => simp [childless, stack]

theorem map_stack_flush (state : State) :
    state.flush.stack.map told = state.stack.map told := by
  unfold flush
  split
  · rfl
  · rw [map_stack_append childless]

theorem map_stack_closeInnermost (state : State) :
    state.closeInnermost.stack.map told = (state.stack.map told).tail := by
  unfold closeInnermost
  split
  · next stack => simp [stack]
  · next innermost outer stack =>
      rw [map_stack_append childless, stack]
      rfl

theorem map_stack_closeEach (state : State) (elements : List OpenElement)
    (cause : OpenElement → RecoveryCause) :
    (state.closeEach elements cause).stack.map told =
      (state.stack.map told).drop elements.length := by
  unfold closeEach
  induction elements generalizing state with
  | nil => rfl
  | cons element rest inductionHypothesis =>
      rw [List.foldl_cons, inductionHypothesis, map_stack_closeInnermost childless, List.drop_tail]
      rfl

end Told

@[simp]
theorem openHeads_append (state : State) (node : Node) :
    (state.append node).openHeads = state.openHeads :=
  map_stack_append (fun _ _ => rfl) state node

@[simp]
theorem openHeads_flush (state : State) : state.flush.openHeads = state.openHeads :=
  map_stack_flush (fun _ _ => rfl) state

@[simp]
theorem openHeads_closeInnermost (state : State) :
    state.closeInnermost.openHeads = state.openHeads.tail :=
  map_stack_closeInnermost (fun _ _ => rfl) state

@[simp]
theorem openHeads_closeEach (state : State) (elements : List OpenElement)
    (cause : OpenElement → RecoveryCause) :
    (state.closeEach elements cause).openHeads = state.openHeads.drop elements.length :=
  map_stack_closeEach (fun _ _ => rfl) state elements cause

theorem openTags_eq_map_openHeads (state : State) :
    state.openTags = state.openHeads.map (·.tag) := by
  simp [openTags, openHeads, OpenElement.head]

@[simp]
theorem openTags_append (state : State) (node : Node) :
    (state.append node).openTags = state.openTags := by
  simp [openTags_eq_map_openHeads]

@[simp]
theorem openTags_flush (state : State) : state.flush.openTags = state.openTags := by
  simp [openTags_eq_map_openHeads]

@[simp]
theorem openTags_closeInnermost (state : State) :
    state.closeInnermost.openTags = state.openTags.tail := by
  simp [openTags_eq_map_openHeads]

@[simp]
theorem openTags_closeEach (state : State) (elements : List OpenElement)
    (cause : OpenElement → RecoveryCause) :
    (state.closeEach elements cause).openTags = state.openTags.drop elements.length := by
  simp [openTags_eq_map_openHeads]

/-! ## Operations -/

theorem nodeLabels_append (state : State) (node : Node) :
    (state.append node).nodeLabels =
      state.nodeLabels ++ labels state.openTags.length [node] := by
  unfold append
  split
  · next stack => simp [nodeLabels, openTags, stack, stackLabels]
  · next innermost outer stack => simp [nodeLabels, openTags, stack, stackLabels]

/-- Making the waiting text a node leaves the account as it is, unless more text follows. -/
theorem account_flush (state : State) {events : List Event}
    (ended : ∀ content, Event.joinText content events = .text content :: events) :
    state.flush.account events = state.account events := by
  unfold account
  rw [openTags_flush, text_flush]
  unfold flush
  split
  · next empty => simp [withText, empty]
  · next pieces nonempty =>
      have waiting :
          withText state.text events = .text (String.join state.text.reverse) :: events := by
        rw [withText, if_neg nonempty, ended]
      rw [nodeLabels_append, waiting, Event.outline, List.append_assoc]
      rfl

@[simp]
theorem nodeLabels_closeInnermost (state : State) :
    state.closeInnermost.nodeLabels = state.nodeLabels := by
  unfold closeInnermost
  split
  · rfl
  · next innermost outer stack =>
      rw [nodeLabels_append, OpenElement.close, labels_element]
      simp [nodeLabels, openTags, stack, stackLabels]

@[simp]
theorem nodeLabels_closeEach (state : State) (elements : List OpenElement)
    (cause : OpenElement → RecoveryCause) :
    (state.closeEach elements cause).nodeLabels = state.nodeLabels := by
  unfold closeEach
  induction elements generalizing state with
  | nil => rfl
  | cons element rest inductionHypothesis =>
      rw [List.foldl_cons, inductionHypothesis, nodeLabels_closeInnermost]
      rfl

/-! ## Phrases -/

theorem withText_cons (content : String) (pieces : List String) (events : List Event) :
    withText (content :: pieces) events = withText pieces (Event.joinText content events) := by
  have joined :
      String.join (content :: pieces).reverse = String.join pieces.reverse ++ content := by
    simp [String.join]
  unfold withText
  rw [if_neg (List.cons_ne_nil content pieces), joined]
  by_cases empty : pieces = []
  · subst empty
    simp [String.join]
  · rw [if_neg empty]
    cases events with
    | nil => simp [Event.joinText]
    | cons event rest => cases event <;> simp [Event.joinText, String.append_assoc]

theorem account_startTag {maxDepth : Amount} {state next : State} {tag : PendingTag}
    {selfClosing : Bool} (succeeds : startTag maxDepth state tag selfClosing = .ok next)
    (empty : state.text = []) (events : List Event) :
    next.account events = state.account (.startTag tag.name selfClosing :: events) := by
  have emptyNoted : (state.noteRepetitions tag).text = [] := empty
  rcases startTag_cases succeeds with ⟨complete, rfl⟩ | ⟨stays, _, rfl⟩
  · simp only [account, nodeLabels_append, openTags_append, text_append, empty, emptyNoted,
      withText, if_true, Event.outline, complete, List.append_assoc]
    rfl
  · have emptyOpened : (state.openElement tag).text = [] := empty
    simp only [account, empty, emptyOpened, withText, if_true, Event.outline, stays]
    simp [nodeLabels, openTags, stackLabels, openElement, noteRepetitions]

theorem openTags_startTag {maxDepth : Amount} {state next : State} {tag : PendingTag}
    {selfClosing : Bool} (succeeds : startTag maxDepth state tag selfClosing = .ok next) :
    next.openTags =
      if isVoidTag tag.name || selfClosing then state.openTags
      else tag.name :: state.openTags := by
  rcases startTag_cases succeeds with ⟨complete, rfl⟩ | ⟨stays, _, rfl⟩
  · rw [if_pos complete, openTags_append]
    rfl
  · rw [stays]
    rfl

theorem nodeLabels_endTag (state : State) (tag : PendingTag) :
    (state.endTag tag).nodeLabels = state.nodeLabels := by
  rcases endTag_cases state tag with
    ⟨_, equality⟩ | ⟨_, _, equality⟩ | ⟨_, inner, _, _, _, _, _, equality⟩
  · rw [equality]
    rfl
  · rw [equality]
    rfl
  · rw [equality, nodeLabels_closeInnermost, nodeLabels_closeEach]

theorem openTags_endTag (state : State) (tag : PendingTag) :
    (state.endTag tag).openTags = closeTag state.openTags tag.name := by
  rcases endTag_cases state tag with
    ⟨isVoid, equality⟩ | ⟨notVoid, unmatched, equality⟩ |
      ⟨notVoid, inner, closed, outer, stack, others, same, equality⟩
  · rw [equality, closeTag, isVoid]
    rfl
  · have unmatchedTags : ∀ opened ∈ state.openTags, lower opened ≠ lower tag.name := by
      simpa [openTags, OpenElement.key_eq] using unmatched
    rw [equality, closeTag_of_unmatched unmatchedTags]
    rfl
  · have otherTags : ∀ opened ∈ inner.map (·.tag), lower opened ≠ lower tag.name := by
      simpa [OpenElement.key_eq] using others
    have openedTags : state.openTags = inner.map (·.tag) ++ closed.tag :: outer.map (·.tag) := by
      simp [openTags, stack]
    rw [equality, openTags_closeInnermost, openTags_closeEach, openedTags,
      closeTag_append_cons notVoid otherTags (closed.key_eq ▸ same)]
    simp

theorem text_endTag (state : State) (tag : PendingTag) :
    (state.endTag tag).text = state.text := by
  rcases endTag_cases state tag with
    ⟨_, equality⟩ | ⟨_, _, equality⟩ | ⟨_, inner, _, _, _, _, _, equality⟩
  · rw [equality]
    rfl
  · rw [equality]
    rfl
  · rw [equality, text_closeInnermost, text_closeEach]

theorem account_endTag {state : State} {tag : PendingTag} (empty : state.text = [])
    (events : List Event) :
    (state.endTag tag).account events = state.account (.endTag tag.name :: events) := by
  have emptyAfter : (state.endTag tag).text = [] := by
    rw [text_endTag, empty]
  simp only [account, empty, emptyAfter, withText, if_true, Event.outline, nodeLabels_endTag,
    openTags_endTag]

/-- A phrase adds to the nodes what its event says. -/
theorem account_phrase {maxDepth : Amount} {position : Position} {state next : State}
    {phrase : Phrase} (succeeds : state.phrase maxDepth position phrase = .ok next)
    (events : List Event) : next.account events = state.account (phrase.before events) := by
  cases phrase with
  | text content | cdata content =>
      cases succeeds
      exact congrArg (fun events => state.nodeLabels ++ Event.outline state.openTags events)
        (withText_cons content state.text events)
  | comment content =>
      cases succeeds
      rw [Phrase.before, ← account_flush state fun _ => rfl]
      simp [account, nodeLabels_append, withText, Event.outline, labels, Node.visited, Node.label]
  | doctype content =>
      cases succeeds
      rw [Phrase.before, ← account_flush state fun _ => rfl]
      have skipped : state.flush.account (.doctype :: events) = state.flush.account events := by
        simp [account, withText, Event.outline]
      rw [skipped]
      rfl
  | startTag name attributes selfClosing =>
      rw [Phrase.before, ← account_flush state fun _ => rfl]
      exact account_startTag succeeds (text_flush state) events
  | endTag name =>
      cases succeeds
      rw [Phrase.before, ← account_flush state fun _ => rfl]
      exact account_endTag (text_flush state) events

theorem pending_startTag {maxDepth : Amount} {state next : State} {tag : PendingTag}
    {selfClosing : Bool} (succeeds : startTag maxDepth state tag selfClosing = .ok next) :
    next.pending = state.pending := by
  rcases startTag_cases succeeds with ⟨_, rfl⟩ | ⟨_, _, rfl⟩
  · rw [pending_append]
    rfl
  · rfl

theorem pending_endTag (state : State) (tag : PendingTag) :
    (state.endTag tag).pending = state.pending := by
  rcases endTag_cases state tag with
    ⟨_, equality⟩ | ⟨_, _, equality⟩ | ⟨_, inner, _, _, _, _, _, equality⟩
  · rw [equality]
    rfl
  · rw [equality]
    rfl
  · rw [equality, pending_closeInnermost, pending_closeEach]

theorem pending_phrase {maxDepth : Amount} {position : Position} {state next : State}
    {phrase : Phrase} (succeeds : state.phrase maxDepth position phrase = .ok next) :
    next.pending = state.pending := by
  cases phrase with
  | text content | cdata content =>
      cases succeeds
      rfl
  | comment content | doctype content =>
      cases succeeds
      simp
  | startTag name attributes selfClosing =>
      rw [pending_startTag succeeds, pending_flush]
  | endTag name =>
      cases succeeds
      rw [pending_endTag, pending_flush]

/-! ## Whole token lists -/

/-- The fragment under construction goes through the phrases, each of them at some place. -/
inductive Takes (maxDepth : Amount) : State → List Phrase → State → Prop
  | nil (state : State) : Takes maxDepth state [] state
  | cons {state next final : State} {phrase : Phrase} {rest : List Phrase} (position : Position)
      (first : state.phrase maxDepth position phrase = .ok next)
      (others : Takes maxDepth next rest final) : Takes maxDepth state (phrase :: rest) final

theorem takes_of_run {maxDepth : Amount} {phrases : List Phrase}
    (named : ∀ phrase ∈ phrases, phrase.IsNamed) {tokens : List Token} {state final : State}
    (lexemes : tokens.map Token.lexeme = phrases.flatMap Phrase.lexemes)
    (settled : state.pending = none) (succeeds : state.run maxDepth tokens = .ok final) :
    Takes maxDepth state phrases final := by
  induction phrases generalizing tokens state with
  | nil =>
      rw [List.flatMap_nil, List.map_eq_nil_iff] at lexemes
      subst lexemes
      cases succeeds
      exact .nil _
  | cons phrase rest inductionHypothesis =>
      rw [List.forall_mem_cons] at named
      rw [List.flatMap_cons, List.map_eq_append_iff] at lexemes
      obtain ⟨first, others, rfl, firstLexemes, othersLexemes⟩ := lexemes
      obtain ⟨position, ran⟩ := run_phrase maxDepth firstLexemes named.1 state settled
      rw [run_append, ran] at succeeds
      cases result : state.phrase maxDepth position phrase with
      | error fault =>
          rw [result] at succeeds
          exact absurd succeeds (by simp)
      | ok next =>
          rw [result] at succeeds
          have settledNext : next.pending = none := by
            rw [pending_phrase result, settled]
          exact .cons position result
            (inductionHypothesis named.2 othersLexemes settledNext succeeds)

theorem exists_takes_of_append {maxDepth : Amount} {first second : List Phrase}
    {state final : State} (takes : Takes maxDepth state (first ++ second) final) :
    ∃ middle, Takes maxDepth state first middle ∧ Takes maxDepth middle second final := by
  induction first generalizing state with
  | nil => exact ⟨state, .nil state, takes⟩
  | cons phrase rest inductionHypothesis =>
      cases takes with
      | cons position stepped others =>
          obtain ⟨middle, before, after⟩ := inductionHypothesis others
          exact ⟨middle, .cons position stepped before, after⟩

theorem account_takes {maxDepth : Amount} {phrases : List Phrase} {state final : State}
    (takes : Takes maxDepth state phrases final) :
    final.account [] = state.account (Event.ofLexemes (phrases.flatMap Phrase.lexemes)) := by
  induction takes with
  | nil => rfl
  | cons position first _ inductionHypothesis =>
      rw [List.flatMap_cons, Event.ofLexemes_phrase, ← account_phrase first]
      exact inductionHypothesis

theorem account_run {maxDepth : Amount} {phrases : List Phrase}
    (named : ∀ phrase ∈ phrases, phrase.IsNamed) {tokens : List Token} {state final : State}
    (lexemes : tokens.map Token.lexeme = phrases.flatMap Phrase.lexemes)
    (settled : state.pending = none) (succeeds : state.run maxDepth tokens = .ok final) :
    final.account [] = state.account (Event.ofLexemes (tokens.map Token.lexeme)) := by
  rw [lexemes]
  exact account_takes (takes_of_run named lexemes settled succeeds)

/-- At the end of the tokens there is nothing but finished nodes. -/
theorem labels_finish (state : State) :
    labels 0 state.finish.roots.reverse = state.account [] := by
  have tags : state.finish.openTags = [] := by
    rw [finish, openTags_closeEach]
    simp [openTags]
  have stack : state.finish.stack = [] := by
    simpa [openTags] using tags
  have finished : state.finish.nodeLabels = labels 0 state.finish.roots.reverse := by
    simp [nodeLabels, stack, stackLabels]
  rw [← finished, ← account_flush state fun _ => rfl, finish, nodeLabels_closeEach]
  simp [account, withText, Event.outline]

end State

end Nesting

/-! ## Texts -/

theorem Construct.isNamed_of_fits {raw : Option RawElement} {construct : Construct}
    {rest : List Char} (fits : construct.Fits raw rest) :
    ∀ phrase ∈ construct.phrases, phrase.IsNamed := by
  have ofTagName {name : List Char} (named : IsTagName name) : String.ofList name ≠ "" := by
    obtain ⟨first, others, rfl, _⟩ := named.starts
    simp
  cases raw with
  | none =>
      cases construct with
      | startTag tag =>
          simpa [phrases, StartTag.phrase, Phrase.IsNamed] using ofTagName fits.head.name
      | endTag tag => simpa [phrases, EndTag.phrase, Phrase.IsNamed] using ofTagName fits.name
      | rawText element content ending => exact fits.elim
      | _ => simp [phrases, Phrase.IsNamed]
  | some due =>
      cases construct with
      | rawText element content ending =>
          obtain ⟨_, _, closes⟩ := fits
          intro phrase member
          rcases List.mem_append.mp member with inText | inEnding
          · split at inText
            · exact absurd inText (by simp)
            · rw [List.mem_singleton.mp inText]
              trivial
          · cases ending with
            | none => exact absurd inEnding (by simp)
            | some tag =>
                have isPhrase : phrase = tag.phrase := by simpa using inEnding
                rw [isPhrase]
                simpa [EndTag.phrase, Phrase.IsNamed] using closes.names.name_ne_nil
      | _ => exact fits.elim

theorem WellPlaced.isNamed {raw : Option RawElement} {constructs : List Construct}
    {rest : List Char} (placed : WellPlaced raw constructs rest) :
    ∀ phrase ∈ constructs.flatMap Construct.phrases, phrase.IsNamed := by
  induction constructs generalizing raw with
  | nil => simp
  | cons construct others inductionHypothesis =>
      intro phrase member
      rcases List.mem_append.mp member with inFirst | inOthers
      · exact Construct.isNamed_of_fits placed.1 phrase inFirst
      · exact inductionHypothesis placed.2 phrase inOthers

/-- The tokens of a text are those of phrases, whose tags all have names. -/
theorem tokenize_phrases (text : String) :
    ∃ phrases : List Phrase, (∀ phrase ∈ phrases, phrase.IsNamed) ∧
      (tokenize text).tokens.map Token.lexeme = phrases.flatMap Phrase.lexemes := by
  obtain ⟨constructs, _, lexemes, _, placed⟩ := tokenize_constructs text
  refine ⟨constructs.flatMap Construct.phrases, placed.isNamed, ?_⟩
  rw [lexemes, List.flatMap_assoc]
  rfl

theorem tokenize_of_tokenizeWithin {limit : Option Amount} {text : String}
    {tokenization : Tokenization} (succeeds : tokenizeWithin limit text = .ok tokenization) :
    tokenization = tokenize text := by
  unfold tokenizeWithin at succeeds
  split at succeeds
  · cases succeeds
    rfl
  · split at succeeds
    · exact absurd succeeds (by simp)
    · cases succeeds
      rfl

theorem run_of_read {limits : Limits} {html : String} {reading : Reading}
    (succeeds : read limits html = .ok reading) :
    ∃ state, Nesting.State.run limits.maxNestingDepth {} (tokenize html).tokens = .ok state ∧
      reading =
        { tokens := (tokenize html).tokens
          tokenRepairs := (tokenize html).repairs
          nodes := state.finish.roots.reverse
          notes := state.finish.notes.reverse } := by
  unfold read at succeeds
  split at succeeds
  · exact absurd succeeds (by simp)
  · next tokenization tokenized =>
      obtain rfl := tokenize_of_tokenizeWithin tokenized
      unfold Reading.ofTokens Fragment.ofTokens at succeeds
      cases ran : Nesting.State.run limits.maxNestingDepth {} (tokenize html).tokens with
      | error fault =>
          rw [ran] at succeeds
          exact absurd succeeds (by simp)
      | ok state =>
          rw [ran] at succeeds
          cases succeeds
          exact ⟨state, rfl, rfl⟩

/-- A text that is read is a sequence of constructs, and its nodes are nested by their phrases. -/
theorem takes_of_read {limits : Limits} {html : String} {reading : Reading}
    (succeeds : read limits html = .ok reading) :
    ∃ constructs final, sourceOf constructs = html.toList ∧ WellPlaced none constructs [] ∧
      reading.tokens.map Token.lexeme =
        (constructs.flatMap Construct.phrases).flatMap Phrase.lexemes ∧
      Nesting.State.Takes limits.maxNestingDepth {} (constructs.flatMap Construct.phrases) final ∧
      reading.nodes = final.finish.roots.reverse ∧ reading.notes = final.finish.notes.reverse := by
  obtain ⟨constructs, source, lexemes, _, placed⟩ := tokenize_constructs html
  obtain ⟨final, ran, rfl⟩ := run_of_read succeeds
  have lexemesOfPhrases : (tokenize html).tokens.map Token.lexeme =
      (constructs.flatMap Construct.phrases).flatMap Phrase.lexemes := by
    rw [lexemes, List.flatMap_assoc]
    rfl
  have takes := Nesting.State.takes_of_run placed.isNamed lexemesOfPhrases rfl ran
  exact ⟨constructs, final, source, placed, lexemesOfPhrases, takes, rfl, rfl⟩

/-- The nodes that are read, in document order and each with the number of its ancestors, are those
that the events of the tokens create where that many tags are open. -/
theorem outline_of_read {limits : Limits} {html : String} {reading : Reading}
    (succeeds : read limits html = .ok reading) :
    (Node.outline reading.nodes).map (fun place => (place.1, place.2.label)) =
      Event.outline [] (Event.ofLexemes (reading.tokens.map Token.lexeme)) := by
  obtain ⟨phrases, named, lexemes⟩ := tokenize_phrases html
  obtain ⟨state, ran, rfl⟩ := run_of_read succeeds
  calc (Node.outline state.finish.roots.reverse).map (fun place => (place.1, place.2.label))
    _ = Nesting.labels 0 state.finish.roots.reverse := by
        rw [Node.outline_eq_visitedAll]
        rfl
    _ = state.account [] := state.labels_finish
    _ = Nesting.State.account {} (Event.ofLexemes ((tokenize html).tokens.map Token.lexeme)) :=
        Nesting.State.account_run named lexemes rfl ran
    _ = Event.outline [] (Event.ofLexemes ((tokenize html).tokens.map Token.lexeme)) := rfl

theorem outline_of_read_of_mismatched_tags :
    ∃ reading, read {} "<p>a<b>c</P>d</b><br>e" = .ok reading ∧
      (Node.outline reading.nodes).map (fun place => (place.1, place.2.label)) =
        Event.outline [] (Event.ofLexemes (reading.tokens.map Token.lexeme)) ∧
      Event.outline [] (Event.ofLexemes (reading.tokens.map Token.lexeme)) =
        [(0, .element "p"), (1, .text "a"), (1, .element "b"), (2, .text "c"), (0, .text "d"),
          (0, .element "br"), (0, .text "e")] := by
  obtain ⟨reading, succeeds⟩ : ∃ reading, read {} "<p>a<b>c</P>d</b><br>e" = .ok reading :=
    ⟨_, rfl⟩
  refine ⟨reading, succeeds, outline_of_read succeeds, ?_⟩
  obtain ⟨_, _, rfl⟩ := run_of_read succeeds
  dsimp only
  decide

end JsxFragment
