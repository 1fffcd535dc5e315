import JsxFragment.Node.Nesting
import JsxFragment.Proofs.Token.Phrase

/-!
# Nesting whole phrases

The tokens of a fragment come in phrases, and what a whole phrase does to the fragment under
construction can be said without the tag that is pending meanwhile.
-/

namespace JsxFragment

open Text Number

namespace Nesting

namespace State

/-! ## Frames -/

@[simp]
theorem text_append (state : State) (node : Node) : (state.append node).text = state.text := by
  unfold append
  split <;> rfl

@[simp]
theorem pending_append (state : State) (node : Node) :
    (state.append node).pending = state.pending := by
  unfold append
  split <;> rfl

@[simp]
theorem notes_append (state : State) (node : Node) : (state.append node).notes = state.notes := by
  unfold append
  split <;> rfl

@[simp]
theorem length_stack_append (state : State) (node : Node) :
    (state.append node).stack.length = state.stack.length := by
  unfold append
  split
  · rfl
  · next innermost outer stack => simp [stack]

@[simp]
theorem text_flush (state : State) : state.flush.text = [] := by
  unfold flush
  split
  · assumption
  · simp

@[simp]
theorem pending_flush (state : State) : state.flush.pending = state.pending := by
  unfold flush
  split
  · rfl
  · simp

@[simp]
theorem notes_flush (state : State) : state.flush.notes = state.notes := by
  unfold flush
  split
  · rfl
  · simp

@[simp]
theorem text_closeInnermost (state : State) : state.closeInnermost.text = state.text := by
  unfold closeInnermost
  split
  · rfl
  · simp

@[simp]
theorem pending_closeInnermost (state : State) :
    state.closeInnermost.pending = state.pending := by
  unfold closeInnermost
  split
  · rfl
  · simp

@[simp]
theorem text_closeEach (state : State) (elements : List OpenElement)
    (cause : OpenElement → RecoveryCause) :
    (state.closeEach elements cause).text = state.text := by
  unfold closeEach
  induction elements generalizing state with
  | nil =>
      rfl
  | cons element rest inductionHypothesis =>
      rw [List.foldl_cons, inductionHypothesis, text_closeInnermost]
      rfl

@[simp]
theorem pending_closeEach (state : State) (elements : List OpenElement)
    (cause : OpenElement → RecoveryCause) :
    (state.closeEach elements cause).pending = state.pending := by
  unfold closeEach
  induction elements generalizing state with
  | nil =>
      rfl
  | cons element rest inductionHypothesis =>
      rw [List.foldl_cons, inductionHypothesis, pending_closeInnermost]
      rfl

/-! ## Repeated attributes -/

/-- Attributes in order, those whose name is new and those that repeat one, where these names have
come before. -/
def splitFrom (seen : List String) : List Attribute → List Attribute × List Attribute
  | [] => ([], [])
  | given :: rest =>
      if lower given.name ∈ seen then
        ((splitFrom seen rest).1, given :: (splitFrom seen rest).2)
      else
        (given :: (splitFrom (lower given.name :: seen) rest).1,
          (splitFrom (lower given.name :: seen) rest).2)

theorem splitRepeated_eq_splitFrom (attributes : List Attribute) :
    splitRepeated attributes = splitFrom [] attributes := by
  let sort := fun (sorted : List String × List Attribute × List Attribute) (given : Attribute) =>
    if sorted.1.contains (lower given.name) then (sorted.1, sorted.2.1, given :: sorted.2.2)
    else (lower given.name :: sorted.1, given :: sorted.2.1, sorted.2.2)
  -- The fold collects both lists in reverse, before what it has collected already.
  have loop (rest : List Attribute) : ∀ seen kept repeated,
      (rest.foldl sort (seen, kept, repeated)).2 =
        ((splitFrom seen rest).1.reverse ++ kept, (splitFrom seen rest).2.reverse ++ repeated) := by
    induction rest with
    | nil => exact fun _ _ _ => rfl
    | cons given others inductionHypothesis =>
        intro seen kept repeated
        rw [List.foldl_cons, splitFrom]
        by_cases isSeen : lower given.name ∈ seen
        · have sorted : sort (seen, kept, repeated) given = (seen, kept, given :: repeated) := by
            simp [sort, isSeen]
          rw [sorted, inductionHypothesis, if_pos isSeen]
          simp
        · have sorted : sort (seen, kept, repeated) given =
              (lower given.name :: seen, given :: kept, repeated) := by
            simp [sort, isSeen]
          rw [sorted, inductionHypothesis, if_neg isSeen]
          simp
  have unfolded : splitRepeated attributes =
      ((attributes.foldl sort ([], [], [])).2.1.reverse,
        (attributes.foldl sort ([], [], [])).2.2.reverse) := rfl
  rw [unfolded, loop]
  simp

theorem splitFrom_snd_eq_nil_iff (attributes : List Attribute) :
    ∀ seen, (splitFrom seen attributes).2 = [] ↔
      (∀ given ∈ attributes, lower given.name ∉ seen) ∧
        (attributes.map fun given => lower given.name).Nodup := by
  induction attributes with
  | nil => simp [splitFrom]
  | cons given rest inductionHypothesis =>
      intro seen
      rw [splitFrom, List.forall_mem_cons]
      by_cases isSeen : lower given.name ∈ seen
      · simp [isSeen]
      · have apart : (∀ other ∈ rest, lower other.name ∉ lower given.name :: seen) ↔
            (∀ other ∈ rest, lower other.name ∉ seen) ∧
              lower given.name ∉ rest.map fun other => lower other.name := by
          simp only [List.mem_cons, not_or, List.mem_map, not_exists, not_and]
          exact ⟨fun all => ⟨fun other member => (all other member).2,
              fun other member => (all other member).1⟩,
            fun all other member => ⟨all.2 other member, all.1 other member⟩⟩
        rw [if_neg isSeen, inductionHypothesis, apart, List.map_cons, List.nodup_cons]
        simp [isSeen, and_assoc]

theorem splitFrom_fst_of_snd_eq_nil {attributes : List Attribute} :
    ∀ {seen}, (splitFrom seen attributes).2 = [] → (splitFrom seen attributes).1 = attributes := by
  induction attributes with
  | nil => exact fun _ => rfl
  | cons given rest inductionHypothesis =>
      intro seen noneRepeated
      rw [splitFrom] at noneRepeated ⊢
      by_cases isSeen : lower given.name ∈ seen
      · rw [if_pos isSeen] at noneRepeated
        exact absurd noneRepeated (by simp)
      · rw [if_neg isSeen] at noneRepeated ⊢
        rw [inductionHypothesis noneRepeated]

theorem splitRepeated_snd_eq_nil_iff (attributes : List Attribute) :
    (splitRepeated attributes).2 = [] ↔
      (attributes.map fun given => lower given.name).Nodup := by
  rw [splitRepeated_eq_splitFrom, splitFrom_snd_eq_nil_iff]
  simp

theorem splitRepeated_of_nodup {attributes : List Attribute}
    (distinct : (attributes.map fun given => lower given.name).Nodup) :
    splitRepeated attributes = (attributes, []) := by
  have noneRepeated := (splitRepeated_snd_eq_nil_iff attributes).mpr distinct
  rw [splitRepeated_eq_splitFrom] at noneRepeated ⊢
  exact Prod.ext (splitFrom_fst_of_snd_eq_nil noneRepeated) noneRepeated

theorem nodup_splitFrom_fst (attributes : List Attribute) :
    ∀ seen, (∀ given ∈ (splitFrom seen attributes).1, lower given.name ∉ seen) ∧
      ((splitFrom seen attributes).1.map fun given => lower given.name).Nodup := by
  induction attributes with
  | nil => simp [splitFrom]
  | cons given rest inductionHypothesis =>
      intro seen
      rw [splitFrom]
      by_cases isSeen : lower given.name ∈ seen
      · rw [if_pos isSeen]
        exact inductionHypothesis seen
      · obtain ⟨unseen, distinct⟩ := inductionHypothesis (lower given.name :: seen)
        rw [if_neg isSeen, List.forall_mem_cons, List.map_cons, List.nodup_cons]
        refine ⟨⟨isSeen, fun other member => ?_⟩, fun repeated => ?_, distinct⟩
        · exact fun earlier => unseen other member (List.mem_cons_of_mem _ earlier)
        · obtain ⟨other, member, same⟩ := List.mem_map.mp repeated
          exact unseen other member (same ▸ List.mem_cons_self)

theorem nodup_splitRepeated_fst (attributes : List Attribute) :
    ((splitRepeated attributes).1.map fun given => lower given.name).Nodup := by
  rw [splitRepeated_eq_splitFrom]
  exact (nodup_splitFrom_fst attributes []).2

/-- Of the attributes by one name the first one is kept. -/
theorem mem_splitRepeated_fst {before after : List Attribute} {given : Attribute}
    (isFirst : ∀ other ∈ before, lower other.name ≠ lower given.name) :
    given ∈ (splitRepeated (before ++ given :: after)).1 := by
  have kept : ∀ seen, lower given.name ∉ seen →
      given ∈ (splitFrom seen (before ++ given :: after)).1 := by
    induction before with
    | nil =>
        intro seen unseen
        rw [List.nil_append, splitFrom, if_neg unseen]
        exact List.mem_cons_self
    | cons other rest inductionHypothesis =>
        rw [List.forall_mem_cons] at isFirst
        intro seen unseen
        rw [List.cons_append, splitFrom]
        by_cases isSeen : lower other.name ∈ seen
        · rw [if_pos isSeen]
          exact inductionHypothesis isFirst.2 seen unseen
        · rw [if_neg isSeen]
          apply List.mem_cons_of_mem
          apply inductionHypothesis isFirst.2
          rw [List.mem_cons, not_or]
          exact ⟨isFirst.1.symm, unseen⟩
  rw [splitRepeated_eq_splitFrom]
  exact kept [] List.not_mem_nil

/-! ## What a tag does -/

theorem foldl_recover {α : Type _} (state : State) (items : List α) (cause : α → RecoveryCause)
    (position : Position) :
    items.foldl (fun state item => state.recover (cause item) position) state =
      { state with
        notes :=
          ((items.map fun item => Recovery.mk (cause item) position).map Note.recovered).reverse
            ++ state.notes } := by
  induction items generalizing state with
  | nil => rfl
  | cons item rest inductionHypothesis =>
      rw [List.foldl_cons, inductionHypothesis]
      simp [recover]

/-- The recoveries that a start tag takes, one for each attribute that repeats a name. -/
def repetitions (tag : PendingTag) : List Recovery :=
  (splitRepeated tag.attributes.reverse).2.map fun given =>
    ⟨.duplicateAttribute given.name tag.name, tag.position⟩

/-- The fragment with the recoveries of a start tag noted. -/
def noteRepetitions (state : State) (tag : PendingTag) : State :=
  { state with notes := ((repetitions tag).map Note.recovered).reverse ++ state.notes }

@[simp]
theorem stack_noteRepetitions (state : State) (tag : PendingTag) :
    (state.noteRepetitions tag).stack = state.stack :=
  rfl

/-- An open element without content. -/
def openedElement (name : String) (attributes : List Attribute) (position : Position) :
    OpenElement :=
  { tag := name, attributes, position, children := [] }

@[simp]
theorem tag_openedElement (name : String) (attributes : List Attribute) (position : Position) :
    (openedElement name attributes position).tag = name :=
  rfl

@[simp]
theorem children_openedElement (name : String) (attributes : List Attribute)
    (position : Position) : (openedElement name attributes position).children = [] :=
  rfl

/-- The fragment with the element of a start tag open. -/
def openElement (state : State) (tag : PendingTag) : State :=
  { state.noteRepetitions tag with
    stack :=
      openedElement tag.name (splitRepeated tag.attributes.reverse).1 tag.position
        :: state.stack }

theorem startTag_eq (maxDepth : Amount) (state : State) (tag : PendingTag) (selfClosing : Bool) :
    startTag maxDepth state tag selfClosing =
      if isVoidTag tag.name || selfClosing then
        .ok ((state.noteRepetitions tag).append
          (.element
            { tag := tag.name, attributes := (splitRepeated tag.attributes.reverse).1,
              isVoid := isVoidTag tag.name, selfClosing }
            []))
      else if maxDepth.reachedBy state.stack.length then
        .error { limit := maxDepth, tag := tag.name, depth := state.stack.length + 1 }
      else .ok (state.openElement tag) := by
  have noted :
      (splitRepeated tag.attributes.reverse).2.foldl
          (fun state given =>
            state.recover (.duplicateAttribute given.name tag.name) tag.position) state =
        state.noteRepetitions tag :=
    foldl_recover state _ (fun given : Attribute => .duplicateAttribute given.name tag.name)
      tag.position
  unfold startTag
  simp only [noted, stack_noteRepetitions]
  rfl

/-- A start tag adds an element that is complete or opens one, and notes the attributes that it
drops. -/
theorem startTag_cases {maxDepth : Amount} {state next : State} {tag : PendingTag}
    {selfClosing : Bool} (succeeds : startTag maxDepth state tag selfClosing = .ok next) :
    ((isVoidTag tag.name || selfClosing) = true ∧
        next = (state.noteRepetitions tag).append
          (.element
            { tag := tag.name, attributes := (splitRepeated tag.attributes.reverse).1,
              isVoid := isVoidTag tag.name, selfClosing }
            [])) ∨
      ((isVoidTag tag.name || selfClosing) = false ∧
        maxDepth.reachedBy state.stack.length = false ∧ next = state.openElement tag) := by
  rw [startTag_eq] at succeeds
  by_cases complete : (isVoidTag tag.name || selfClosing) = true
  · rw [if_pos complete, Except.ok.injEq] at succeeds
    exact Or.inl ⟨complete, succeeds.symm⟩
  · rw [if_neg complete] at succeeds
    by_cases reached : maxDepth.reachedBy state.stack.length = true
    · rw [if_pos reached] at succeeds
      exact absurd succeeds (by simp)
    · rw [if_neg reached, Except.ok.injEq] at succeeds
      exact Or.inr ⟨by simpa using complete, by simpa using reached, succeeds.symm⟩

/-- An end tag closes the innermost element of its name, after all inside it; if there is none, or
such elements are never open, it is only noted. -/
theorem endTag_cases (state : State) (tag : PendingTag) :
    (isVoidTag tag.name = true ∧
        state.endTag tag = state.recover (.voidEndTag tag.name) tag.position) ∨
      (isVoidTag tag.name = false ∧
        (∀ element ∈ state.stack, element.key ≠ lower tag.name) ∧
          state.endTag tag = state.recover (.unmatchedEndTag tag.name) tag.position) ∨
      (isVoidTag tag.name = false ∧
        ∃ inner closed outer, state.stack = inner ++ closed :: outer ∧
          (∀ element ∈ inner, element.key ≠ lower tag.name) ∧
          closed.key = lower tag.name ∧
          state.endTag tag =
            (state.closeEach inner fun element =>
              .implicitlyClosed element.tag tag.name).closeInnermost) := by
  unfold endTag
  cases isVoid : isVoidTag tag.name with
  | true => exact Or.inl ⟨rfl, rfl⟩
  | false =>
      refine Or.inr ?_
      simp only [Bool.false_eq_true, if_false, true_and]
      have split := List.takeWhile_append_dropWhile (l := state.stack)
        (p := fun element => decide (element.key ≠ lower tag.name))
      have others := List.all_takeWhile (l := state.stack)
        (p := fun element => decide (element.key ≠ lower tag.name))
      have stops := List.head?_dropWhile_not
        (fun element : OpenElement => decide (element.key ≠ lower tag.name)) state.stack
      generalize state.stack.takeWhile (fun element => decide (element.key ≠ lower tag.name))
        = inner at *
      cases outside :
          state.stack.dropWhile (fun element => decide (element.key ≠ lower tag.name)) with
      | nil =>
          rw [outside, List.append_nil] at split
          refine Or.inl ⟨by simpa [split] using others, ?_⟩
          rw [split, if_neg (Nat.lt_irrefl _)]
      | cons closed outer =>
          rw [outside] at split stops
          refine Or.inr ⟨inner, closed, outer, split.symm, by simpa using others,
            by simpa using stops, ?_⟩
          rw [if_pos (by simp [← split])]

/-! ## One phrase -/

theorem run_cons (maxDepth : Amount) (state : State) (token : Token) (rest : List Token) :
    state.run maxDepth (token :: rest) =
      match state.step maxDepth token with
      | .error fault => .error fault
      | .ok next => next.run maxDepth rest :=
  rfl

theorem run_cons_of_step {maxDepth : Amount} {state next : State} {token : Token}
    (stepped : state.step maxDepth token = .ok next) (rest : List Token) :
    state.run maxDepth (token :: rest) = next.run maxDepth rest := by
  rw [run_cons, stepped]

theorem run_singleton (maxDepth : Amount) (state : State) (token : Token) :
    state.run maxDepth [token] = state.step maxDepth token := by
  rw [run_cons]
  cases state.step maxDepth token <;> rfl

theorem run_append (maxDepth : Amount) (state : State) (first second : List Token) :
    state.run maxDepth (first ++ second) =
      match state.run maxDepth first with
      | .error fault => .error fault
      | .ok next => next.run maxDepth second := by
  induction first generalizing state with
  | nil =>
      rfl
  | cons token rest inductionHypothesis =>
      rw [List.cons_append, run_cons, run_cons]
      cases state.step maxDepth token with
      | error fault => rfl
      | ok next => exact inductionHypothesis next

/-- The fragment after one more phrase, whose tag begins at `position` if it is one. -/
def phrase (maxDepth : Amount) (position : Position) (state : State) :
    Phrase → Except NestingFault State
  | .text content | .cdata content => .ok { state with text := content :: state.text }
  | .comment content => .ok (state.flush.append (.comment content))
  | .doctype content =>
      .ok { state.flush with notes := .doctypeDropped content position :: state.flush.notes }
  | .startTag name attributes selfClosing =>
      state.flush.startTag maxDepth
        { isEndTag := false, position, name, attributes := attributes.reverse } selfClosing
  | .endTag name => .ok (state.flush.endTag { isEndTag := true, position, name })

theorem run_attributes (maxDepth : Amount) {attributes : List Attribute} {tokens : List Token}
    (lexemes : tokens.map Token.lexeme = attributes.flatMap Attribute.lexemes) (state : State)
    (tag : PendingTag) (pending : state.pending = some tag) :
    state.run maxDepth tokens =
      .ok { state with
        pending := some { tag with attributes := attributes.reverse ++ tag.attributes } } := by
  induction attributes generalizing tokens state tag with
  | nil =>
      rw [List.flatMap_nil, List.map_eq_nil_iff] at lexemes
      subst lexemes
      obtain ⟨_, _, _, _, _⟩ := state
      simp only at pending
      subst pending
      rfl
  | cons given rest inductionHypothesis =>
      obtain ⟨name, value⟩ := given
      rw [List.flatMap_cons, List.map_eq_append_iff] at lexemes
      obtain ⟨first, others, rfl, firstLexemes, othersLexemes⟩ := lexemes
      have added :
          state.run maxDepth first =
            .ok { state with
              pending := some { tag with attributes := ⟨name, value⟩ :: tag.attributes } } := by
        cases value with
        | none =>
            simp only [Attribute.lexemes, List.map_eq_cons_iff, List.map_eq_nil_iff] at firstLexemes
            obtain ⟨token, _, rfl, tokenLexeme, rfl⟩ := firstLexemes
            injection tokenLexeme with kind tokenValue
            rw [run_singleton]
            simp [step, kind, tokenValue, pending]
        | some value =>
            simp only [Attribute.lexemes, List.map_eq_cons_iff, List.map_eq_nil_iff] at firstLexemes
            obtain ⟨token, _, rfl, tokenLexeme, last, _, rfl, lastLexeme, rfl⟩ := firstLexemes
            injection tokenLexeme with kind tokenValue
            injection lastLexeme with lastKind lastValue
            have stepped :
                state.step maxDepth token =
                  .ok { state with
                    pending := some
                      { tag with attributes := ⟨name, none⟩ :: tag.attributes } } := by
              simp [step, kind, tokenValue, pending]
            rw [run_cons_of_step stepped, run_singleton]
            simp [step, lastKind, lastValue, PendingTag.setValue]
      rw [run_append, added]
      dsimp only
      rw [inductionHypothesis othersLexemes _ _ rfl]
      simp

theorem finishTag_of_named {state : State} {tag : PendingTag} (maxDepth : Amount)
    (settled : state.pending = none) (named : tag.name ≠ "") (selfClosing : Bool) :
    State.finishTag maxDepth { state with pending := some tag } selfClosing =
      if tag.isEndTag then .ok (state.endTag tag)
      else startTag maxDepth state tag selfClosing := by
  obtain ⟨roots, stack, text, _, notes⟩ := state
  simp only at settled
  subst settled
  simp [finishTag, named]

theorem run_phrase (maxDepth : Amount) {phrase : Phrase} {tokens : List Token}
    (lexemes : tokens.map Token.lexeme = phrase.lexemes) (named : phrase.IsNamed) (state : State)
    (settled : state.pending = none) :
    ∃ position, state.run maxDepth tokens = state.phrase maxDepth position phrase := by
  cases phrase with
  | text content | cdata content | comment content | doctype content =>
      simp only [Phrase.lexemes, List.map_eq_singleton_iff] at lexemes
      obtain ⟨token, rfl, tokenLexeme⟩ := lexemes
      injection tokenLexeme with kind value
      refine ⟨token.position, ?_⟩
      rw [run_singleton]
      simp [step, kind, value, State.phrase]
  | startTag name attributes selfClosing =>
      simp only [Phrase.lexemes, List.map_eq_cons_iff, List.map_eq_append_iff,
        List.map_eq_nil_iff] at lexemes
      obtain ⟨opening, _, rfl, openingLexeme, naming, _, rfl, namingLexeme, given, _, rfl,
        givenLexemes, ending, _, rfl, endingLexeme, rfl⟩ := lexemes
      injection openingLexeme with openingKind openingValue
      injection namingLexeme with namingKind namingValue
      injection endingLexeme with endingKind endingValue
      refine ⟨opening.position, ?_⟩
      have opened :
          state.step maxDepth opening =
            .ok { state.flush with pending := some ⟨false, opening.position, "", []⟩ } := by
        simp [step, openingKind, openingValue]
      rw [run_cons_of_step opened]
      have namedTag :
          State.step maxDepth
              { state.flush with pending := some ⟨false, opening.position, "", []⟩ } naming =
            .ok { state.flush with pending := some ⟨false, opening.position, name, []⟩ } := by
        simp [step, namingKind, namingValue]
      rw [run_cons_of_step namedTag, run_append, run_attributes maxDepth givenLexemes _ _ rfl]
      dsimp only
      rw [run_singleton]
      have notEmpty : name ≠ "" := named
      have selfClosed : (decide (ending.value = "/>")) = selfClosing := by
        cases selfClosing <;> simp [endingValue]
      have settledFlush : state.flush.pending = none := by
        rw [pending_flush, settled]
      unfold step
      simp only [endingKind, List.append_nil, selfClosed]
      rw [finishTag_of_named maxDepth settledFlush notEmpty]
      rfl
  | endTag name =>
      simp only [Phrase.lexemes, List.map_eq_cons_iff, List.map_eq_nil_iff] at lexemes
      obtain ⟨opening, _, rfl, openingLexeme, naming, _, rfl, namingLexeme, ending, _, rfl,
        endingLexeme, rfl⟩ := lexemes
      injection openingLexeme with openingKind openingValue
      injection namingLexeme with namingKind namingValue
      injection endingLexeme with endingKind endingValue
      refine ⟨opening.position, ?_⟩
      have opened :
          state.step maxDepth opening =
            .ok { state.flush with pending := some ⟨true, opening.position, "", []⟩ } := by
        simp [step, openingKind, openingValue]
      rw [run_cons_of_step opened]
      have namedTag :
          State.step maxDepth
              { state.flush with pending := some ⟨true, opening.position, "", []⟩ } naming =
            .ok { state.flush with pending := some ⟨true, opening.position, name, []⟩ } := by
        simp [step, namingKind, namingValue]
      rw [run_cons_of_step namedTag, run_singleton]
      have notEmpty : name ≠ "" := named
      have settledFlush : state.flush.pending = none := by
        rw [pending_flush, settled]
      unfold step
      simp only [endingKind]
      rw [finishTag_of_named maxDepth settledFlush notEmpty]
      rfl

end State

end Nesting

end JsxFragment
