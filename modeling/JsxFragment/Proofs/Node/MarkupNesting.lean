import JsxFragment.Conversion
import JsxFragment.Proofs.Node.MarkupTokens
import JsxFragment.Proofs.Node.PhraseRun
import JsxFragment.Proofs.Number.Amount

/-!
# Reading canonical text back

The phrases of a fragment build the fragment again, wherever they stand. Together with the tokens of
canonical text this makes reading the inverse of writing.
-/

namespace JsxFragment

open Text Number

namespace Nesting.State

/-! ## Adding nodes -/

/-- Adds the nodes of a fragment one after the other. -/
def appendAll (state : State) (nodes : List Node) : State :=
  nodes.foldl append state

theorem appendAll_of_stack {innermost : OpenElement} {outer : List OpenElement}
    (nodes : List Node) (state : State) (stack : state.stack = innermost :: outer) :
    state.appendAll nodes =
      { state with
        stack := { innermost with children := nodes.reverse ++ innermost.children } :: outer } := by
  induction nodes generalizing state innermost with
  | nil =>
      obtain ⟨_, _, _, _, _⟩ := state
      simp only at stack
      subst stack
      rfl
  | cons node rest inductionHypothesis =>
      have appended : state.append node =
          { state with
            stack := { innermost with children := node :: innermost.children } :: outer } := by
        simp only [append, stack]
      rw [appendAll, List.foldl_cons, appended]
      have others := inductionHypothesis
        { state with
          stack := { innermost with children := node :: innermost.children } :: outer } rfl
      rw [appendAll] at others
      rw [others]
      simp

theorem appendAll_of_empty (nodes : List Node) (state : State) (stack : state.stack = []) :
    state.appendAll nodes = { state with roots := nodes.reverse ++ state.roots } := by
  induction nodes generalizing state with
  | nil => rfl
  | cons node rest inductionHypothesis =>
      have appended : state.append node = { state with roots := node :: state.roots } := by
        simp only [append, stack]
      rw [appendAll, List.foldl_cons, appended]
      have others := inductionHypothesis { state with roots := node :: state.roots } stack
      rw [appendAll] at others
      rw [others]
      simp

theorem length_stack_flush (state : State) :
    state.flush.stack.length = state.stack.length := by
  unfold flush
  split
  · rfl
  · exact length_stack_append _ _

theorem flush_of_text_nil {state : State} (empty : state.text = []) : state.flush = state := by
  unfold flush
  rw [empty]

/-! ## Tags -/

theorem startTag_complete {maxDepth : Amount} {head : Head} (canonical : head.IsCanonical)
    (complete : (head.isVoid || head.selfClosing) = true) (state : State) (position : Position) :
    state.startTag maxDepth
        { isEndTag := false, position, name := head.tag, attributes := head.attributes.reverse }
        head.selfClosing =
      .ok (state.append (.element head [])) := by
  unfold startTag
  have isVoid := canonical.isVoid
  simp only [List.reverse_reverse, splitRepeated_of_nodup canonical.distinct, List.foldl_nil,
    ← isVoid, complete, if_true]

theorem startTag_open {maxDepth : Amount} {head : Head} (canonical : head.IsCanonical)
    (opens : (head.isVoid || head.selfClosing) = false) (state : State) (position : Position)
    (allowed : maxDepth.reachedBy state.stack.length = false) :
    state.startTag maxDepth
        { isEndTag := false, position, name := head.tag, attributes := head.attributes.reverse }
        head.selfClosing =
      .ok { state with
        stack :=
          { tag := head.tag, attributes := head.attributes, position, children := [] }
            :: state.stack } := by
  unfold startTag
  have isVoid := canonical.isVoid
  simp only [List.reverse_reverse, splitRepeated_of_nodup canonical.distinct, List.foldl_nil,
    ← isVoid, opens, allowed, Bool.false_eq_true, if_false]

theorem endTag_innermost {head : Head} (canonical : head.IsCanonical)
    (opens : (head.isVoid || head.selfClosing) = false) (state : State) (children : List Node)
    (start position : Position) :
    State.endTag
        { state with
          stack :=
            { tag := head.tag, attributes := head.attributes, position := start
              children := children.reverse } :: state.stack }
        { isEndTag := true, position, name := head.tag } =
      state.append (.element head children) := by
  obtain ⟨tag, attributes, isVoid, selfClosing⟩ := head
  obtain ⟨rfl, rfl⟩ : isVoid = false ∧ selfClosing = false := by simpa using opens
  have notVoid : isVoidTag tag = false := canonical.isVoid.symm
  unfold endTag
  simp only [notVoid, Bool.false_eq_true, if_false]
  rw [List.takeWhile_cons_of_neg (by simp)]
  simp [closeEach, closeInnermost, OpenElement.close]

/-! ## Fragments -/

/-- The phrases of the fragment add its nodes, wherever there is room for it. Text that is waiting
stays waiting until a node follows it. -/
def Nests (maxDepth : Amount) (fragment : List Node) : Prop :=
  ∀ (state : State) (tokens : List Token), state.pending = none →
    (Node.BeginsWithText fragment → state.text = []) →
    tokens.map Token.lexeme = (Node.phrasesAll fragment).flatMap Phrase.lexemes →
    (∀ count < state.stack.length + Node.openNestingAll fragment,
      maxDepth.reachedBy count = false) →
    ∃ final, state.run maxDepth tokens = .ok final ∧ final.pending = none ∧
      final.flush = state.flush.appendAll fragment

variable {maxDepth : Amount}

theorem nests_nil : Nests maxDepth [] := by
  intro state tokens settled _ lexemes _
  have noTokens : tokens = [] := by simpa [Node.phrasesAll] using lexemes
  subst noTokens
  exact ⟨state, rfl, settled, rfl⟩

/-- A phrase that makes a node whole, before the phrases of other nodes. -/
theorem run_phrase_then (phrase : Phrase) (next : State) {rest : List Node}
    (named : phrase.IsNamed) (nests : Nests maxDepth rest) {state : State} {tokens : List Token}
    (settled : state.pending = none)
    (lexemes : tokens.map Token.lexeme =
      phrase.lexemes ++ (Node.phrasesAll rest).flatMap Phrase.lexemes)
    (done : ∀ position, state.phrase maxDepth position phrase = .ok next)
    (settledNext : next.pending = none)
    (waits : Node.BeginsWithText rest → next.text = [])
    (room : ∀ count < next.stack.length + Node.openNestingAll rest,
      maxDepth.reachedBy count = false) :
    ∃ final, state.run maxDepth tokens = .ok final ∧ final.pending = none ∧
      final.flush = next.flush.appendAll rest := by
  rw [List.map_eq_append_iff] at lexemes
  obtain ⟨first, others, rfl, firstLexemes, othersLexemes⟩ := lexemes
  obtain ⟨position, ran⟩ := run_phrase maxDepth firstLexemes named state settled
  obtain ⟨final, ranOthers, settledFinal, flushed⟩ :=
    nests next others settledNext waits othersLexemes room
  refine ⟨final, ?_, settledFinal, flushed⟩
  rw [run_append, ran, done position]
  exact ranOthers

theorem nests_text {content : String} {rest : List Node} (nests : Nests maxDepth rest)
    (apart : ¬ Node.BeginsWithText rest) : Nests maxDepth (.text content :: rest) := by
  intro state tokens settled waits lexemes room
  have empty : state.text = [] := waits trivial
  have flushed : State.flush { state with text := [content] } = state.append (.text content) := by
    obtain ⟨_, _, _, _, _⟩ := state
    simp only at empty
    subst empty
    simp [flush, String.join]
  obtain ⟨final, ran, settledFinal, flushedFinal⟩ :=
    run_phrase_then (.text content) { state with text := [content] } trivial nests settled
      (by simpa [Node.phrasesAll, Node.phrases] using lexemes)
      (fun _ => by simp [State.phrase, empty]) settled (fun begins => absurd begins apart)
      (by simpa [Node.openNestingAll, Node.openNesting] using room)
  refine ⟨final, ran, settledFinal, ?_⟩
  rw [flushedFinal, flushed, flush_of_text_nil empty]
  rfl

theorem nests_comment {content : String} {rest : List Node} (nests : Nests maxDepth rest) :
    Nests maxDepth (.comment content :: rest) := by
  intro state tokens settled waits lexemes room
  obtain ⟨final, ran, settledFinal, flushedFinal⟩ :=
    run_phrase_then (.comment content) (state.flush.append (.comment content)) trivial nests settled
      (by simpa [Node.phrasesAll, Node.phrases] using lexemes)
      (fun _ => rfl) (by simp [settled]) (fun _ => by simp)
      (by
        simpa [length_stack_append, length_stack_flush, Node.openNestingAll, Node.openNesting]
          using room)
  refine ⟨final, ran, settledFinal, ?_⟩
  rw [flushedFinal, flush_of_text_nil (by simp)]
  rfl

theorem nests_complete {head : Head} {rest : List Node} (canonical : head.IsCanonical)
    (complete : (head.isVoid || head.selfClosing) = true) (nests : Nests maxDepth rest) :
    Nests maxDepth (.element head [] :: rest) := by
  intro state tokens settled waits lexemes room
  have named := canonical.tag_ne_empty
  obtain ⟨final, ran, settledFinal, flushedFinal⟩ :=
    run_phrase_then (.startTag head.tag head.attributes head.selfClosing)
      (state.flush.append (.element head [])) named nests settled
      (by simpa [Node.phrasesAll, Node.phrases, complete] using lexemes)
      (fun position => startTag_complete canonical complete state.flush position)
      (by simp [settled]) (fun _ => by simp)
      (by
        simpa [length_stack_append, length_stack_flush, Node.openNestingAll, Node.openNesting,
          complete] using room)
  refine ⟨final, ran, settledFinal, ?_⟩
  rw [flushedFinal, flush_of_text_nil (by simp)]
  rfl

theorem nests_open {head : Head} {children rest : List Node} (canonical : head.IsCanonical)
    (opens : (head.isVoid || head.selfClosing) = false) (nestsChildren : Nests maxDepth children)
    (nests : Nests maxDepth rest) : Nests maxDepth (.element head children :: rest) := by
  intro state tokens settled waits lexemes room
  have named := canonical.tag_ne_empty
  have split : tokens.map Token.lexeme =
      (Phrase.startTag head.tag head.attributes head.selfClosing).lexemes ++
        ((Node.phrasesAll children).flatMap Phrase.lexemes ++
          ((Phrase.endTag head.tag).lexemes ++ (Node.phrasesAll rest).flatMap Phrase.lexemes)) := by
    simpa [Node.phrasesAll, Node.phrases, opens] using lexemes
  rw [List.map_eq_append_iff] at split
  obtain ⟨start, others, rfl, startLexemes, others⟩ := split
  rw [List.map_eq_append_iff] at others
  obtain ⟨inner, others, rfl, innerLexemes, others⟩ := others
  simp only [Node.openNestingAll, Node.openNesting, opens, Bool.false_eq_true, if_false] at room
  -- The start tag opens the element.
  obtain ⟨position, ranStart⟩ := run_phrase maxDepth startLexemes named state settled
  let element : OpenElement :=
    { tag := head.tag, attributes := head.attributes, position, children := [] }
  let opened : State := { state.flush with stack := element :: state.flush.stack }
  have ranStart : state.run maxDepth start = .ok opened := by
    rw [ranStart]
    refine startTag_open canonical opens state.flush position (room _ ?_)
    rw [length_stack_flush]
    omega
  -- The children are added to it.
  obtain ⟨full, ranInner, settledFull, flushedFull⟩ :=
    nestsChildren opened inner (by simp [opened, settled]) (fun _ => by simp [opened]) innerLexemes
      (by
        intro count below
        refine room count ?_
        simp only [opened, List.length_cons, length_stack_flush] at below
        omega)
  have flushedFull : full.flush =
      { state.flush with
        stack := { element with children := children.reverse } :: state.flush.stack } := by
    rw [flushedFull, flush_of_text_nil (by simp [opened]), appendAll_of_stack children opened rfl]
    simp [element, opened]
  -- The end tag closes it.
  have closed (position : Position) :
      full.flush.endTag { isEndTag := true, position, name := head.tag } =
        state.flush.append (.element head children) := by
    rw [flushedFull]
    exact endTag_innermost canonical opens state.flush children _ position
  obtain ⟨final, ranRest, settledFinal, flushedFinal⟩ :=
    run_phrase_then (.endTag head.tag) (state.flush.append (.element head children)) named nests
      settledFull others (fun position => congrArg Except.ok (closed position)) (by simp [settled])
      (fun _ => by simp)
      (by
        intro count below
        refine room count ?_
        rw [length_stack_append, length_stack_flush] at below
        omega)
  refine ⟨final, ?_, settledFinal, ?_⟩
  · rw [run_append, ranStart]
    dsimp only
    rw [run_append, ranInner]
    exact ranRest
  · rw [flushedFinal, flush_of_text_nil (by simp)]
    rfl

theorem nests_of_canonical (fragment : List Node) :
    Node.AllCanonical fragment → Nests maxDepth fragment := by
  induction fragment using Node.fragmentInduction with
  | nil => exact fun _ => nests_nil
  | text content rest forRest =>
      intro whole
      obtain ⟨_, apart, canonical⟩ := whole
      exact nests_text (forRest canonical) (apart trivial)
  | comment content rest forRest =>
      intro whole
      obtain ⟨_, _, canonical⟩ := whole
      exact nests_comment (forRest canonical)
  | element head children rest forChildren forRest =>
      intro whole
      obtain ⟨⟨isHead, childless, isChildren⟩, _, canonical⟩ := whole
      cases complete : head.isVoid || head.selfClosing with
      | true =>
          obtain rfl := childless complete
          exact nests_complete isHead complete (forRest canonical)
      | false =>
          refine nests_open isHead complete ?_ (forRest canonical)
          cases opens : RawElement.ofTag? head.tag with
          | none =>
              rw [opens] at isChildren
              exact forChildren isChildren
          | some raw =>
              rw [opens] at isChildren
              rcases isChildren with rfl | ⟨content, rfl, _⟩
              · exact nests_nil
              · exact nests_text nests_nil id

end Nesting.State

/-! ## Reading -/

theorem read_of_yields {limits : Limits} (unlimited : limits.maxInputLength = none)
    {fragment : List Node} {text : List Char}
    (yields : Lexer.Yields [] text ((Node.phrasesAll fragment).flatMap Phrase.lexemes))
    (nests : Nesting.State.Nests limits.maxNestingDepth fragment)
    (room : ∀ count < Node.openNestingAll fragment,
      limits.maxNestingDepth.reachedBy count = false) :
    read limits (String.ofList text) =
      .ok { tokens := (tokenize (String.ofList text)).tokens, tokenRepairs := []
            nodes := fragment, notes := [] } := by
  obtain ⟨lexemes, repairs⟩ := tokenize_of_yields yields
  obtain ⟨final, ran, _, flushed⟩ := nests {} _ rfl (fun _ => rfl) lexemes (by simpa using room)
  have finished : final.finish = { roots := fragment.reverse } := by
    have flushed : final.flush = { roots := fragment.reverse } := by
      rw [flushed]
      exact (Nesting.State.appendAll_of_empty fragment {} rfl).trans (by simp)
    unfold Nesting.State.finish
    rw [flushed]
    rfl
  unfold read
  simp only [tokenizeWithin, unlimited]
  unfold Reading.ofTokens Fragment.ofTokens
  simp [ran, finished, repairs]

theorem Node.lexemes_ne_nil {fragment : List Node} (nonempty : fragment ≠ []) :
    (phrasesAll fragment).flatMap Phrase.lexemes ≠ [] := by
  cases fragment with
  | nil => exact absurd rfl nonempty
  | cons node rest => cases node <;> simp [phrasesAll, phrases, Phrase.lexemes]

/-- Reading undoes writing: the canonical text of a fragment, whose open elements are not nested
deeper than allowed, is read as the fragment, and nothing has to be put right or reported. -/
theorem read_markupAll {limits : Limits} (unlimited : limits.maxInputLength = none)
    {fragment : List Node} (canonical : Node.AllCanonical fragment)
    (allowed : limits.maxNestingDepth.exceededBy (Node.openNestingAll fragment) = false)
    (spaced : Bool) :
    ∃ reading, read limits (String.ofList (Node.markupAll spaced fragment)) = .ok reading ∧
      reading.nodes = fragment ∧ reading.tokenRepairs = [] ∧ reading.recoveries = [] ∧
      (fragment ≠ [] → ∀ correlationId, reading.diagnostics correlationId = []) := by
  have yields := Node.yields_markupAll spaced fragment canonical [] fun _ => rfl
  have result := read_of_yields unlimited yields
    (Nesting.State.nests_of_canonical fragment canonical) fun count below => Amount.reachedBy_eq_false_of_lt allowed below
  refine ⟨_, result, rfl, rfl, rfl, ?_⟩
  intro nonempty correlationId
  have tokens : (tokenize (String.ofList (Node.markupAll spaced fragment))).tokens ≠ [] := by
    intro empty
    have lexemes := (tokenize_of_yields yields).1
    rw [empty] at lexemes
    exact Node.lexemes_ne_nil nonempty lexemes.symm
  simp [Reading.diagnostics, tokens]

/-- A value with a double quote, text with a `>`, a void element, and raw text that looks like the
beginning of a tag. -/
def sampleFragment : List Node :=
  [.element { tag := "p", attributes := [⟨"title", some "a\"b"⟩, ⟨"hidden", none⟩] }
      [.text "x > y", .element { tag := "br", isVoid := true } []],
    .element { tag := "Script" } [.text "a<b"]]

theorem sampleFragment_canonical : Node.AllCanonical sampleFragment := by
  have isP : Head.IsCanonical
      { tag := "p", attributes := [⟨"title", some "a\"b"⟩, ⟨"hidden", none⟩] } :=
    { tag := ⟨⟨'p', [], rfl, rfl⟩, List.all_eq_true.mp (by decide)⟩
      isVoid := by decide
      attributes := by
        intro given member
        rcases List.mem_pair.mp member with rfl | rfl
        · have named : ("title".toList.all fun c => isTagNameChar c && c != '=') = true := by
            decide
          exact ⟨by decide, by simpa using named, by decide⟩
        · have named : ("hidden".toList.all fun c => isTagNameChar c && c != '=') = true := by
            decide
          exact ⟨by decide, by simpa using named, by decide⟩
      distinct := by decide }
  have isBr : Head.IsCanonical { tag := "br", isVoid := true } :=
    { tag := ⟨⟨'b', ['r'], rfl, rfl⟩, List.all_eq_true.mp (by decide)⟩
      isVoid := by decide
      attributes := by simp
      distinct := by simp }
  have isScript : Head.IsCanonical { tag := "Script" } :=
    { tag := ⟨⟨'S', ['c', 'r', 'i', 'p', 't'], rfl, rfl⟩, List.all_eq_true.mp (by decide)⟩
      isVoid := by decide
      attributes := by simp
      distinct := by simp }
  have lacks : LacksEndTag .script "a<b".toList := by
    intro found
    obtain ⟨before, after, tag, _, equality⟩ := found
    have slash : '/' ∈ "a<b".toList := by
      rw [equality]
      simp [EndTag.source]
    exact absurd slash (by decide)
  have isText : Node.IsCanonical (.text "x > y") := ⟨by decide, by decide⟩
  have isLineBreak : Node.IsCanonical (.element { tag := "br", isVoid := true } []) :=
    ⟨isBr, fun _ => rfl, trivial⟩
  have elementFirst (head : Head) (children rest : List Node) :
      ¬Node.BeginsWithText (.element head children :: rest) := by
    simp [Node.BeginsWithText]
  have emptyAfter : ¬Node.BeginsWithText [] := by
    simp [Node.BeginsWithText]
  refine ⟨⟨isP, by simp, ?_⟩, fun _ => elementFirst _ _ _, ⟨isScript, by simp, ?_⟩,
    fun _ => emptyAfter, trivial⟩
  · exact ⟨isText, fun _ => elementFirst _ _ _, isLineBreak, fun _ => emptyAfter, trivial⟩
  · exact Or.inr ⟨"a<b", rfl, by decide, lacks⟩

theorem read_markupAll_sampleFragment :
    Node.AllCanonical sampleFragment ∧
      (Amount.whole 1).exceededBy (Node.openNestingAll sampleFragment) = false ∧
      ∃ reading,
        read { maxNestingDepth := .whole 1 }
            (String.ofList (Node.markupAll true sampleFragment)) = .ok reading ∧
          reading.nodes = sampleFragment ∧ reading.tokenRepairs = [] ∧ reading.recoveries = [] ∧
          (sampleFragment ≠ [] → ∀ correlationId, reading.diagnostics correlationId = []) := by
  have allowed : (Amount.whole 1).exceededBy (Node.openNestingAll sampleFragment) = false := by
    decide
  exact ⟨sampleFragment_canonical, allowed,
    read_markupAll rfl sampleFragment_canonical allowed true⟩

end JsxFragment
