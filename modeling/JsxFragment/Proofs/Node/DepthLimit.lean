import JsxFragment.Conversion
import JsxFragment.Proofs.Node.Attached
import JsxFragment.Proofs.Node.MarkupNesting

/-!
# The limit on the nesting

Only a start tag that would open an element can fail, and only where as many elements are open as
the limit allows. How many were open is told by the finished fragment: an element has as many
ancestors as were open around its start tag. So a fragment that is nested without a limit tells for
every limit whether that limit would have been kept to.
-/

namespace JsxFragment

open Number

/-! ## Elements and their depths -/

/-- The start tag leaves its element open for content. -/
def Head.takesContent (head : Head) : Bool :=
  !head.isVoid && !head.selfClosing

/-- The elements of a fragment in document order, each by its depth and its head. -/
def placedHeads (depth : Nat) (nodes : List Node) : List (Nat × Head) :=
  (Node.visitedAll depth nodes).filterMap fun place =>
    match place.2 with
    | .element head _ => some (place.1, head)
    | _ => none

@[simp]
theorem placedHeads_nil (depth : Nat) : placedHeads depth [] = [] :=
  rfl

@[simp]
theorem placedHeads_append (depth : Nat) (first second : List Node) :
    placedHeads depth (first ++ second) =
      placedHeads depth first ++ placedHeads depth second := by
  simp [placedHeads, Node.visitedAll_append]

theorem placedHeads_element (depth : Nat) (head : Head) (children : List Node) :
    placedHeads depth [.element head children] =
      (depth, head) :: placedHeads (depth + 1) children := by
  simp [placedHeads, Node.visited]

theorem placedHeads_text (depth : Nat) (content : String) :
    placedHeads depth [.text content] = [] :=
  rfl

theorem placedHeads_comment (depth : Nat) (content : String) :
    placedHeads depth [.comment content] = [] :=
  rfl

theorem mem_placedHeads_iff {depth : Nat} {head : Head} {nodes : List Node} :
    (depth, head) ∈ placedHeads 0 nodes ↔
      ∃ children, (depth, Node.element head children) ∈ Node.outline nodes := by
  rw [Node.outline_eq_visitedAll, placedHeads, List.mem_filterMap]
  constructor
  · rintro ⟨⟨place, node⟩, member, told⟩
    cases node with
    | element found children =>
        obtain ⟨rfl, rfl⟩ : place = depth ∧ found = head := by simpa using told
        exact ⟨children, member⟩
    | text content | comment content => exact absurd told (by simp)
  · rintro ⟨children, member⟩
    exact ⟨(depth, .element head children), member, rfl⟩

/-- The nesting of a fragment goes one beyond the depth of its deepest element. -/
theorem nesting_le {bound : Nat} {nodes : List Node}
    (below : ∀ place ∈ placedHeads 0 nodes, place.1 ≤ bound) :
    Node.nesting nodes ≤ bound + 1 := by
  have deepest (places : List (Nat × Node)) :
      ∀ start, start ≤ bound + 1 →
        (∀ place ∈ places, place.2.isElement = true → place.1 ≤ bound) →
          places.foldl (fun deepest place =>
            if place.2.isElement then max deepest (place.1 + 1) else deepest) start ≤
              bound + 1 := by
    induction places with
    | nil => exact fun start within _ => within
    | cons place rest inductionHypothesis =>
        intro start within all
        rw [List.forall_mem_cons] at all
        rw [List.foldl_cons]
        apply inductionHypothesis _ _ all.2
        split
        · next isElement =>
            have atPlace := all.1 isElement
            exact Nat.max_le.mpr ⟨within, by omega⟩
        · exact within
  rw [Node.nesting, Node.walkAll_eq_foldl]
  apply deepest _ 0 (Nat.zero_le _)
  rintro ⟨depth, node⟩ member isElement
  cases node with
  | element head children =>
      rw [← Node.outline_eq_visitedAll] at member
      exact below (depth, head) (mem_placedHeads_iff.mpr ⟨children, member⟩)
  | text content | comment content => exact absurd isElement (by simp [Node.isElement])

namespace Nesting

/-- The open elements in document order with the elements among their children so far. -/
def openPlaces : List OpenElement → List (Nat × Head)
  | [] => []
  | innermost :: outer =>
      openPlaces outer ++
        (outer.length, innermost.head) ::
          placedHeads (outer.length + 1) innermost.children.reverse

/-- The head of the element that a start tag begins. -/
def PendingTag.head (tag : PendingTag) (selfClosing : Bool) : Head :=
  { tag := tag.name, attributes := (State.splitRepeated tag.attributes.reverse).1,
    isVoid := isVoidTag tag.name, selfClosing }

theorem takesContent_head (tag : PendingTag) (selfClosing : Bool) :
    (tag.head selfClosing).takesContent = !(isVoidTag tag.name || selfClosing) := by
  simp [PendingTag.head, Head.takesContent]

namespace State

/-- The elements so far in document order, those that are open included. -/
def places (state : State) : List (Nat × Head) :=
  placedHeads 0 state.roots.reverse ++ openPlaces state.stack

/-! ## Operations -/

theorem places_append (state : State) (node : Node) :
    (state.append node).places = state.places ++ placedHeads state.stack.length [node] := by
  unfold append
  split
  · next stack => simp [places, stack, openPlaces]
  · next innermost outer stack =>
      simp [places, stack, openPlaces, OpenElement.head]

@[simp]
theorem places_flush (state : State) : state.flush.places = state.places := by
  unfold flush
  split
  · rfl
  · rw [places_append, placedHeads_text, List.append_nil]
    rfl

@[simp]
theorem places_closeInnermost (state : State) : state.closeInnermost.places = state.places := by
  unfold closeInnermost
  split
  · rfl
  · next innermost outer stack =>
      rw [places_append, OpenElement.close, placedHeads_element]
      simp [places, stack, openPlaces, OpenElement.head]

@[simp]
theorem places_closeEach (state : State) (elements : List OpenElement)
    (cause : OpenElement → RecoveryCause) :
    (state.closeEach elements cause).places = state.places := by
  unfold closeEach
  induction elements generalizing state with
  | nil => rfl
  | cons element rest inductionHypothesis =>
      rw [List.foldl_cons, inductionHypothesis, places_closeInnermost]
      rfl

theorem places_endTag (state : State) (tag : PendingTag) :
    (state.endTag tag).places = state.places := by
  rcases endTag_cases state tag with
    ⟨_, equality⟩ | ⟨_, _, equality⟩ | ⟨_, inner, _, _, _, _, _, equality⟩
  · rw [equality]
    rfl
  · rw [equality]
    rfl
  · rw [equality, places_closeInnermost, places_closeEach]

theorem length_stack_endTag_le (state : State) (tag : PendingTag) :
    (state.endTag tag).stack.length ≤ state.stack.length := by
  have lengths (other : State) : other.openHeads.length = other.stack.length := by
    simp [openHeads]
  rw [← lengths, ← lengths]
  rcases openHeads_endTag state tag with same | ⟨inner, closed, split⟩
  · exact Nat.le_of_eq (congrArg List.length same)
  · rw [split, List.length_append, List.length_cons]
    omega

theorem places_finish (state : State) :
    placedHeads 0 state.finish.roots.reverse = state.places := by
  have heads : state.finish.openHeads = [] := by
    rw [finish, openHeads_closeEach]
    simp [openHeads]
  have stack : state.finish.stack = [] := by
    simpa [openHeads] using heads
  have finished : state.finish.places = placedHeads 0 state.finish.roots.reverse := by
    simp [places, stack, openPlaces]
  rw [← finished, finish, places_closeEach, places_flush]

/-! ## One token -/

/-- Under any limit the token leads on, and it opens no element. -/
structure Settles (state : State) (token : Token) (next : State) : Prop where
  step_eq : ∀ maxDepth, state.step maxDepth token = .ok next
  length_le : next.stack.length ≤ state.stack.length
  places_eq : ∃ added, next.places = state.places ++ added ∧
    ∀ place ∈ added, place.1 = state.stack.length ∧ place.2.takesContent = false

/-- The token opens an element, which only the limit can forbid. -/
structure Opens (state : State) (token : Token) (next : State) : Prop where
  step_eq : ∃ tag, ∀ maxDepth, state.step maxDepth token =
    if maxDepth.reachedBy state.stack.length then
      .error { limit := maxDepth, tag, depth := state.stack.length + 1 }
    else .ok next
  length_eq : next.stack.length = state.stack.length + 1
  places_eq : ∃ head, head.takesContent = true ∧
    next.places = state.places ++ [(state.stack.length, head)]

theorem exists_settles {state : State} {token : Token} (next : State)
    (step : ∀ maxDepth, state.step maxDepth token = .ok next)
    (length : next.stack.length ≤ state.stack.length) (places : next.places = state.places) :
    ∃ next, state.Settles token next ∨ state.Opens token next :=
  ⟨next, Or.inl ⟨step, length, [], by rw [places, List.append_nil], by simp⟩⟩

theorem settles_or_opens_startTag {state : State} {token : Token} {tag : PendingTag}
    {selfClosing : Bool}
    (step : ∀ maxDepth, state.step maxDepth token =
      startTag maxDepth { state with pending := none } tag selfClosing) :
    ∃ next, state.Settles token next ∨ state.Opens token next := by
  generalize settled : ({ state with pending := none } : State) = ready at step
  have stack : ready.stack = state.stack := by rw [← settled]
  have places : ready.places = state.places := by
    rw [← settled]
    rfl
  cases complete : isVoidTag tag.name || selfClosing with
  | true =>
      refine ⟨(ready.noteRepetitions tag).append (.element (tag.head selfClosing) []), Or.inl ?_⟩
      refine ⟨fun maxDepth => ?_, ?_, [(state.stack.length, tag.head selfClosing)], ?_, ?_⟩
      · rw [step, startTag_eq, if_pos complete]
        rfl
      · rw [length_stack_append, stack_noteRepetitions, stack]
      · rw [places_append, placedHeads_element, placedHeads_nil, stack_noteRepetitions, stack,
          ← places]
        rfl
      · rw [List.forall_mem_singleton, takesContent_head, complete]
        exact ⟨rfl, rfl⟩
  | false =>
      refine ⟨ready.openElement tag, Or.inr ?_⟩
      refine ⟨⟨tag.name, fun maxDepth => ?_⟩, ?_, tag.head selfClosing, ?_, ?_⟩
      · rw [step, startTag_eq, complete, stack]
        rfl
      · rw [openElement, List.length_cons, stack]
      · rw [takesContent_head, complete]
        rfl
      · obtain ⟨notVoid, notClosed⟩ := Bool.or_eq_false_iff.mp complete
        rw [← places, ← stack, PendingTag.head, notVoid, notClosed]
        simp [State.places, openElement, openPlaces, noteRepetitions, openedElement,
          OpenElement.head]

theorem settles_or_opens_tagEnd {state : State} {token : Token} (kind : token.kind = .tagEnd) :
    ∃ next, state.Settles token next ∨ state.Opens token next := by
  have step (maxDepth : Amount) :
      state.step maxDepth token = state.finishTag maxDepth (token.value = "/>") := by
    rw [State.step, kind]
  cases pending : state.pending with
  | none =>
      refine exists_settles state ?_ (Nat.le_refl _) rfl
      simp [step, finishTag, pending]
  | some tag =>
      by_cases named : tag.name = ""
      · refine exists_settles { state with pending := none } ?_ (Nat.le_refl _) rfl
        simp [step, finishTag, pending, named]
      · cases isEndTag : tag.isEndTag with
        | true =>
            refine exists_settles (({ state with pending := none } : State).endTag tag) ?_ ?_ ?_
            · simp [step, finishTag, pending, named, isEndTag]
            · exact length_stack_endTag_le _ tag
            · exact places_endTag _ tag
        | false =>
            have starts (maxDepth : Amount) : state.step maxDepth token =
                startTag maxDepth { state with pending := none } tag (token.value = "/>") := by
              simp [step, finishTag, pending, named, isEndTag]
            exact settles_or_opens_startTag starts

theorem settles_or_opens (state : State) (token : Token) :
    ∃ next, state.Settles token next ∨ state.Opens token next := by
  have flushLength : state.flush.stack.length ≤ state.stack.length :=
    Nat.le_of_eq (length_stack_flush state)
  cases kind : token.kind with
  | text | cdata =>
      refine exists_settles { state with text := token.value :: state.text } ?_ (Nat.le_refl _) rfl
      simp [State.step, kind]
  | tagStart =>
      refine exists_settles
        { state.flush with
          pending := some { isEndTag := token.value = "</", position := token.position } }
        ?_ flushLength (places_flush state)
      simp [State.step, kind]
  | tagName =>
      refine exists_settles
        { state with pending := state.pending.map ({ · with name := token.value }) }
        ?_ (Nat.le_refl _) rfl
      simp [State.step, kind]
  | attributeName =>
      refine exists_settles
        { state with
          pending := state.pending.map fun tag =>
            { tag with attributes := { name := token.value } :: tag.attributes } }
        ?_ (Nat.le_refl _) rfl
      simp [State.step, kind]
  | attributeValue =>
      refine exists_settles
        { state with pending := state.pending.map (·.setValue token.value) } ?_ (Nat.le_refl _) rfl
      simp [State.step, kind]
  | tagEnd => exact settles_or_opens_tagEnd kind
  | comment =>
      refine exists_settles (state.flush.append (.comment token.value)) ?_ ?_ ?_
      · simp [State.step, kind]
      · rw [length_stack_append]
        exact flushLength
      · rw [places_append, placedHeads_comment, List.append_nil, places_flush]
  | doctype =>
      refine exists_settles
        { state.flush with
          notes := .doctypeDropped token.value token.position :: state.flush.notes }
        ?_ flushLength (places_flush state)
      simp [State.step, kind]

/-! ## All tokens -/

/-- Nothing is nested so far that the limit forbids. -/
structure Admits (limit : Nat) (state : State) : Prop where
  length_le : state.stack.length ≤ limit
  places_le : ∀ place ∈ state.places, place.1 ≤ limit
  opened_lt : ∀ place ∈ state.places, place.2.takesContent = true → place.1 < limit

/-- The element takes content where as many elements are open as the limit allows. -/
def Forbids (limit : Nat) (place : Nat × Head) : Prop :=
  place.2.takesContent = true ∧ limit ≤ place.1

theorem Settles.admits {limit : Nat} {state next : State} {token : Token}
    (settles : state.Settles token next) (admits : state.Admits limit) : next.Admits limit := by
  obtain ⟨added, places, shape⟩ := settles.places_eq
  refine ⟨Nat.le_trans settles.length_le admits.length_le, ?_, ?_⟩
  · rw [places, List.forall_mem_append]
    refine ⟨admits.places_le, fun place member => ?_⟩
    rw [(shape place member).1]
    exact admits.length_le
  · rw [places, List.forall_mem_append]
    refine ⟨admits.opened_lt, fun place member takes => ?_⟩
    exact absurd takes (by simp [(shape place member).2])

theorem Opens.admits {limit : Nat} {state next : State} {token : Token}
    (opens : state.Opens token next) (admits : state.Admits limit)
    (below : state.stack.length < limit) : next.Admits limit := by
  obtain ⟨head, _, places⟩ := opens.places_eq
  refine ⟨by rw [opens.length_eq]; exact below, ?_, ?_⟩
  · rw [places, List.forall_mem_append, List.forall_mem_singleton]
    exact ⟨admits.places_le, Nat.le_of_lt below⟩
  · rw [places, List.forall_mem_append, List.forall_mem_singleton]
    exact ⟨admits.opened_lt, fun _ => below⟩

theorem places_prefix_of_step {maxDepth : Amount} {state next : State} {token : Token}
    (stepped : state.step maxDepth token = .ok next) : state.places <+: next.places := by
  obtain ⟨other, settles | opens⟩ := settles_or_opens state token
  · obtain rfl : other = next := by simpa [settles.step_eq] using stepped
    obtain ⟨added, places, _⟩ := settles.places_eq
    exact ⟨added, places.symm⟩
  · obtain ⟨tag, step⟩ := opens.step_eq
    rw [step] at stepped
    split at stepped
    · exact absurd stepped (by simp)
    · obtain rfl : other = next := by simpa using stepped
      obtain ⟨head, _, places⟩ := opens.places_eq
      exact ⟨_, places.symm⟩

theorem places_prefix_of_run {maxDepth : Amount} {state final : State} {tokens : List Token}
    (ran : state.run maxDepth tokens = .ok final) : state.places <+: final.places := by
  induction tokens generalizing state with
  | nil =>
      obtain rfl : state = final := by simpa [run] using ran
      exact List.prefix_rfl
  | cons token rest inductionHypothesis =>
      rw [run_cons] at ran
      cases stepped : state.step maxDepth token with
      | error fault =>
          rw [stepped] at ran
          exact absurd ran (by simp)
      | ok next =>
          rw [stepped] at ran
          exact (places_prefix_of_step stepped).trans (inductionHypothesis ran)

/-- As long as fewer elements could be open than a limit allows, it is not noticed. -/
theorem exists_run {ample : Nat} {tokens : List Token} {state : State}
    (isAmple : state.stack.length + tokens.length ≤ ample) :
    ∃ final, state.run (.whole ample) tokens = .ok final := by
  induction tokens generalizing state with
  | nil => exact ⟨state, rfl⟩
  | cons token rest inductionHypothesis =>
      rw [List.length_cons] at isAmple
      obtain ⟨next, settles | opens⟩ := settles_or_opens state token
      · rw [run_cons_of_step (settles.step_eq _)]
        have length := settles.length_le
        exact inductionHypothesis (by omega)
      · obtain ⟨tag, step⟩ := opens.step_eq
        have stepped : state.step (.whole ample) token = .ok next := by
          rw [step, Amount.reachedBy_whole, if_neg]
          simp only [decide_eq_true_eq]
          omega
        rw [run_cons_of_step stepped]
        have length := opens.length_eq
        exact inductionHypothesis (by omega)

/-- A limit either changes nothing or stops the run at an element that it forbids. -/
theorem run_of_admits {limit : Nat} {maxDepth : Amount} {tokens : List Token}
    {state final : State} (admits : state.Admits limit)
    (ran : state.run maxDepth tokens = .ok final) :
    (state.run (.whole limit) tokens = .ok final ∧ final.Admits limit) ∨
      ((∃ tag, state.run (.whole limit) tokens =
          .error { limit := .whole limit, tag, depth := limit + 1 }) ∧
        ∃ place ∈ final.places, Forbids limit place) := by
  induction tokens generalizing state with
  | nil =>
      obtain rfl : state = final := by simpa [run] using ran
      exact Or.inl ⟨rfl, admits⟩
  | cons token rest inductionHypothesis =>
      obtain ⟨next, settles | opens⟩ := settles_or_opens state token
      · rw [run_cons_of_step (settles.step_eq _)] at ran ⊢
        exact inductionHypothesis (settles.admits admits) ran
      · obtain ⟨tag, step⟩ := opens.step_eq
        have nextRan : next.run maxDepth rest = .ok final := by
          rw [run_cons, step] at ran
          by_cases reached : maxDepth.reachedBy state.stack.length = true
          · rw [if_pos reached] at ran
            exact absurd ran (by simp)
          · rwa [if_neg reached] at ran
        rw [run_cons, step, Amount.reachedBy_whole]
        by_cases below : state.stack.length < limit
        · rw [if_neg (by simpa using below)]
          exact inductionHypothesis (opens.admits admits below) nextRan
        · -- Never more elements are open than the limit allows, so here there are just as many.
          have atLimit : state.stack.length = limit :=
            Nat.le_antisymm admits.length_le (Nat.le_of_not_lt below)
          rw [if_pos (by simpa using below), atLimit]
          refine Or.inr ⟨⟨tag, rfl⟩, ?_⟩
          obtain ⟨head, takes, places⟩ := opens.places_eq
          have member : (limit, head) ∈ next.places := by simp [places, atLimit]
          exact ⟨_, (places_prefix_of_run nextRan).subset member, takes, Nat.le_refl limit⟩

end State

end Nesting

/-! ## The limit and the fragment -/

/-- An element of the fragment that takes content has at least `limit` ancestors. -/
def NestsBeyond (limit : Nat) (nodes : List Node) : Prop :=
  ∃ depth head children, (depth, Node.element head children) ∈ Node.outline nodes ∧
    head.isVoid = false ∧ head.selfClosing = false ∧ limit ≤ depth

theorem nestsBeyond_iff {limit : Nat} {nodes : List Node} :
    NestsBeyond limit nodes ↔
      ∃ place ∈ placedHeads 0 nodes, Nesting.State.Forbids limit place := by
  constructor
  · rintro ⟨depth, head, children, member, notVoid, notClosed, beyond⟩
    refine ⟨(depth, head), mem_placedHeads_iff.mpr ⟨children, member⟩, ?_, beyond⟩
    simp [Head.takesContent, notVoid, notClosed]
  · rintro ⟨⟨depth, head⟩, member, takes, beyond⟩
    obtain ⟨children, member⟩ := mem_placedHeads_iff.mp member
    obtain ⟨notVoid, notClosed⟩ : head.isVoid = false ∧ head.selfClosing = false := by
      simpa [Head.takesContent] using takes
    exact ⟨depth, head, children, member, notVoid, notClosed, beyond⟩

/-- A limit on the nesting is exceeded just if the fragment that is read without one has an element
that takes content with as many ancestors as the limit allows; else the limit changes nothing. -/
theorem ofTokens_limit_exact {limit ample : Nat} {tokens : List Token}
    (isAmple : tokens.length < ample) (tokenRepairs : List TokenRepair) :
    ∃ unlimited, Reading.ofTokens (.whole ample) tokens tokenRepairs = .ok unlimited ∧
      (NestsBeyond limit unlimited.nodes →
        ∃ failure, Reading.ofTokens (.whole limit) tokens tokenRepairs = .error failure ∧
          failure.exhaustion? =
            some
              { resource := "nesting_depth", limit := .whole limit, observed := limit + 1 }) ∧
      (¬NestsBeyond limit unlimited.nodes →
        Reading.ofTokens (.whole limit) tokens tokenRepairs = .ok unlimited ∧
          Node.nesting unlimited.nodes ≤ limit + 1) := by
  have initial : ({} : Nesting.State).Admits limit := by
    constructor <;> simp [Nesting.State.places, Nesting.openPlaces]
  have room : ({} : Nesting.State).stack.length + tokens.length ≤ ample := by
    simpa using Nat.le_of_lt isAmple
  obtain ⟨final, ran⟩ := Nesting.State.exists_run room
  have places := final.places_finish
  refine ⟨⟨tokens, tokenRepairs, final.finish.roots.reverse, final.finish.notes.reverse⟩, ?_, ?_⟩
  · rw [Reading.ofTokens, Fragment.ofTokens, ran]
  rw [nestsBeyond_iff, places]
  rcases Nesting.State.run_of_admits initial ran with
    ⟨limited, admits⟩ | ⟨⟨tag, stopped⟩, forbidden⟩
  · have allowed : ¬∃ place ∈ final.places, Nesting.State.Forbids limit place := by
      rintro ⟨place, member, takes, beyond⟩
      have below := admits.opened_lt place member takes
      omega
    refine ⟨fun forbidden => absurd forbidden allowed, fun _ => ⟨?_, ?_⟩⟩
    · rw [Reading.ofTokens, Fragment.ofTokens, limited]
    · apply nesting_le
      rw [places]
      exact admits.places_le
  · refine ⟨fun _ => ?_, fun allowed => absurd forbidden allowed⟩
    refine ⟨.nestedTooDeep { limit := .whole limit, tag, depth := limit + 1 }, ?_, rfl⟩
    rw [Reading.ofTokens, Fragment.ofTokens, stopped]

/-- The limit of one is exceeded by an element inside another one. -/
theorem ofTokens_limit_exact_nested :
    (tokenize "<b><i>").tokens.length < 7 ∧
      ∃ failure, Reading.ofTokens (.whole 1) (tokenize "<b><i>").tokens [] = .error failure ∧
        failure.exhaustion? =
          some { resource := "nesting_depth", limit := .whole 1, observed := 2 } := by
  have isAmple : (tokenize "<b><i>").tokens.length < 7 := by decide
  obtain ⟨unlimited, ran, (exceeds : NestsBeyond 1 unlimited.nodes → _), _⟩ :=
    ofTokens_limit_exact isAmple []
  refine ⟨isAmple, exceeds ?_⟩
  have nodes : unlimited.nodes = [.element { tag := "b" } [.element { tag := "i" } []]] := by
    have computed :
        (Reading.ofTokens (.whole (7 : Nat)) (tokenize "<b><i>").tokens []).toOption.map
            (·.nodes) =
          some [.element { tag := "b" } [.element { tag := "i" } []]] := by
      rfl
    rw [ran] at computed
    exact Option.some.inj computed
  rw [nodes]
  refine ⟨1, { tag := "i" }, [], ?_, rfl, rfl, Nat.le_refl 1⟩
  simp [Node.outline_eq_visitedAll, Node.visited]

end JsxFragment
