import JsxFragment.Proofs.Node.EventRun

/-!
# What holds of every node

A node is attached once, text and comments when they end and an element when it is closed, and it is
never changed after that. A property of all nodes of a fragment is one of all that are attached.
-/

namespace JsxFragment

open Text Number

namespace Nesting

namespace State

/-! ## Open heads -/

theorem openHeads_endTag (state : State) (tag : PendingTag) :
    (state.endTag tag).openHeads = state.openHeads ∨
      ∃ inner closed, state.openHeads = inner ++ closed :: (state.endTag tag).openHeads := by
  rcases endTag_cases state tag with
    ⟨_, equality⟩ | ⟨_, _, equality⟩ | ⟨_, inner, closed, outer, stack, _, _, equality⟩
  · exact Or.inl (equality ▸ rfl)
  · exact Or.inl (equality ▸ rfl)
  · refine Or.inr ⟨inner.map OpenElement.head, closed.head, ?_⟩
    have heads : state.openHeads =
        inner.map OpenElement.head ++ closed.head :: outer.map OpenElement.head := by
      simp [openHeads, stack]
    rw [equality, openHeads_closeInnermost, openHeads_closeEach, heads]
    simp

/-! ## Attached nodes -/

/-- The property holds of all nodes that are attached so far, those inside open elements
included. -/
structure AllAttached (holds : Node → Prop) (state : State) : Prop where
  roots : ∀ node ∈ Node.preorder state.roots.reverse, holds node
  children : ∀ element ∈ state.stack, ∀ node ∈ Node.preorder element.children.reverse, holds node

variable {holds : Node → Prop}

theorem allAttached_append {state : State} {node : Node} (all : state.AllAttached holds)
    (added : ∀ inner ∈ Node.preorder [node], holds inner) :
    (state.append node).AllAttached holds := by
  unfold append
  split
  · refine ⟨?_, all.children⟩
    rw [List.reverse_cons, Node.preorder_append, List.forall_mem_append]
    exact ⟨all.roots, added⟩
  · next innermost outer stack =>
      have inStack := all.children
      rw [stack, List.forall_mem_cons] at inStack
      refine ⟨all.roots, ?_⟩
      rw [List.forall_mem_cons]
      refine ⟨?_, inStack.2⟩
      dsimp only
      rw [List.reverse_cons, Node.preorder_append, List.forall_mem_append]
      exact ⟨inStack.1, added⟩

theorem allAttached_flush {state : State} (all : state.AllAttached holds)
    (texts : ∀ content, holds (.text content)) : state.flush.AllAttached holds := by
  unfold flush
  split
  · exact all
  · refine allAttached_append ⟨all.roots, all.children⟩ ?_
    simpa using texts _

theorem allAttached_closeInnermost {state : State} (all : state.AllAttached holds)
    (closed : ∀ innermost ∈ state.stack.head?, holds innermost.close) :
    state.closeInnermost.AllAttached holds := by
  unfold closeInnermost
  split
  · exact all
  · next innermost outer stack =>
      have inStack := all.children
      rw [stack, List.forall_mem_cons] at inStack
      refine allAttached_append ⟨all.roots, inStack.2⟩ ?_
      rw [OpenElement.close, Node.preorder_element, List.forall_mem_cons]
      exact ⟨closed innermost (by simp [stack]), inStack.1⟩

/-- The head may belong to an element with any children. -/
def HoldsOfHead (holds : Node → Prop) (head : Head) : Prop :=
  ∀ children, holds (.element head children)

theorem closes_of_holdsOfHead {state : State}
    (heads : ∀ head ∈ state.openHeads, HoldsOfHead holds head) :
    ∀ innermost ∈ state.stack.head?, holds innermost.close := by
  intro innermost member
  have isOpen : innermost.head ∈ state.openHeads :=
    List.mem_map_of_mem (List.mem_of_mem_head? member)
  exact heads innermost.head isOpen innermost.children.reverse

/-- Of the elements that are closed, only the innermost one is closed with the children that it has
now. -/
theorem allAttached_closeEach {state : State} (elements : List OpenElement)
    (cause : OpenElement → RecoveryCause) (all : state.AllAttached holds)
    (closed : ∀ innermost ∈ state.stack.head?, holds innermost.close)
    (outer : ∀ head ∈ state.openHeads.tail, HoldsOfHead holds head) :
    (state.closeEach elements cause).AllAttached holds := by
  unfold closeEach
  induction elements generalizing state with
  | nil => exact all
  | cons element rest inductionHypothesis =>
      -- Once the innermost element is closed, the next one has a new child, so of it only what
      -- holds with any children is known.
      rw [List.foldl_cons]
      generalize notedEquality : state.recover (cause element) element.position = noted
      have allNoted : noted.AllAttached holds := by
        subst notedEquality
        exact ⟨all.roots, all.children⟩
      have closedNoted : ∀ innermost ∈ noted.stack.head?, holds innermost.close := by
        subst notedEquality
        exact closed
      have outerNoted : ∀ head ∈ noted.closeInnermost.openHeads, HoldsOfHead holds head := by
        subst notedEquality
        rw [openHeads_closeInnermost]
        exact outer
      refine inductionHypothesis (allAttached_closeInnermost allNoted closedNoted)
        (closes_of_holdsOfHead outerNoted) ?_
      exact fun head member => outerNoted head (List.mem_of_mem_tail member)

theorem allAttached_endTag {state : State} (tag : PendingTag) (all : state.AllAttached holds)
    (closed : ∀ innermost ∈ state.stack.head?, holds innermost.close)
    (outer : ∀ head ∈ state.openHeads.tail, HoldsOfHead holds head) :
    (state.endTag tag).AllAttached holds := by
  rcases endTag_cases state tag with
    ⟨_, equality⟩ | ⟨_, _, equality⟩ | ⟨_, inner, last, rest, stack, _, _, equality⟩
  · rw [equality]
    exact ⟨all.roots, all.children⟩
  · rw [equality]
    exact ⟨all.roots, all.children⟩
  · rw [equality]
    refine allAttached_closeInnermost (allAttached_closeEach inner _ all closed outer) ?_
    cases inner with
    | nil => exact closed
    | cons first others =>
        refine closes_of_holdsOfHead fun head member => ?_
        rw [openHeads_closeEach, List.length_cons, ← List.drop_tail] at member
        exact outer head (List.mem_of_mem_drop member)

/-- At the end of the tokens all nodes of the fragment are attached. -/
theorem forall_mem_preorder_finish {state : State} (all : state.flush.AllAttached holds)
    (closed : ∀ innermost ∈ state.flush.stack.head?, holds innermost.close)
    (outer : ∀ head ∈ state.flush.openHeads.tail, HoldsOfHead holds head) :
    ∀ node ∈ Node.preorder state.finish.roots.reverse, holds node :=
  (allAttached_closeEach state.flush.stack _ all closed outer).roots

/-! ## Properties of heads -/

/-- The property holds of all that is attached, and will hold of every open element with whatever
children it is closed. -/
structure Keeps (holds : Node → Prop) (state : State) : Prop where
  attached : state.AllAttached holds
  opened : ∀ head ∈ state.openHeads, HoldsOfHead holds head

/-- The property holds of the elements that the phrase may become, if it is a start tag. -/
def AdmitsTag (holds : Node → Prop) : Phrase → Prop
  | .startTag name attributes selfClosing =>
      ∀ children, ((isVoidTag name || selfClosing) = true → children = []) →
        holds
          (.element
            { tag := name, attributes := (splitRepeated attributes).1, isVoid := isVoidTag name,
              selfClosing }
            children)
  | _ => True

theorem keeps_flush {state : State} (keeps : state.Keeps holds)
    (texts : ∀ content, holds (.text content)) : state.flush.Keeps holds :=
  ⟨allAttached_flush keeps.attached texts, by simpa using keeps.opened⟩

theorem keeps_startTag {maxDepth : Amount} {state next : State} {tag : PendingTag}
    {selfClosing : Bool} (succeeds : startTag maxDepth state tag selfClosing = .ok next)
    (keeps : state.Keeps holds)
    (admits : AdmitsTag holds (.startTag tag.name tag.attributes.reverse selfClosing)) :
    next.Keeps holds := by
  rcases startTag_cases succeeds with ⟨complete, rfl⟩ | ⟨stays, _, rfl⟩
  · have added := admits [] fun _ => rfl
    refine ⟨allAttached_append ⟨keeps.attached.roots, keeps.attached.children⟩ ?_, ?_⟩
    · simpa using added
    · rw [openHeads_append]
      exact keeps.opened
  · refine ⟨⟨keeps.attached.roots, ?_⟩, ?_⟩
    · refine List.forall_mem_cons.mpr ⟨?_, keeps.attached.children⟩
      simp
    · refine List.forall_mem_cons.mpr ⟨fun children => ?_, keeps.opened⟩
      obtain ⟨notVoid, notClosed⟩ := Bool.or_eq_false_iff.mp stays
      have admitted := admits children
      rw [stays, notVoid, notClosed] at admitted
      simpa [OpenElement.head, openedElement] using admitted

theorem keeps_endTag {state : State} (tag : PendingTag) (keeps : state.Keeps holds) :
    (state.endTag tag).Keeps holds := by
  refine ⟨allAttached_endTag tag keeps.attached (closes_of_holdsOfHead keeps.opened) ?_, ?_⟩
  · exact fun head member => keeps.opened head (List.mem_of_mem_tail member)
  · intro head member
    rcases openHeads_endTag state tag with same | ⟨_, _, split⟩
    · exact keeps.opened head (same ▸ member)
    · refine keeps.opened head (split ▸ List.mem_append_right _ ?_)
      exact List.mem_cons_of_mem _ member

theorem keeps_phrase {maxDepth : Amount} {position : Position} {state next : State}
    {phrase : Phrase} (succeeds : state.phrase maxDepth position phrase = .ok next)
    (texts : ∀ content, holds (.text content)) (comments : ∀ content, holds (.comment content))
    (keeps : state.Keeps holds) (admits : AdmitsTag holds phrase) : next.Keeps holds := by
  have flushed := keeps_flush keeps texts
  cases phrase with
  | text content | cdata content =>
      cases succeeds
      exact ⟨⟨keeps.attached.roots, keeps.attached.children⟩, keeps.opened⟩
  | comment content =>
      cases succeeds
      refine ⟨allAttached_append flushed.attached ?_, ?_⟩
      · simpa using comments content
      · rw [openHeads_append]
        exact flushed.opened
  | doctype content =>
      cases succeeds
      exact ⟨⟨flushed.attached.roots, flushed.attached.children⟩, flushed.opened⟩
  | startTag name attributes selfClosing =>
      refine keeps_startTag succeeds flushed ?_
      rw [List.reverse_reverse]
      exact admits
  | endTag name =>
      cases succeeds
      exact keeps_endTag _ flushed

theorem keeps_takes {maxDepth : Amount} {phrases : List Phrase} {state final : State}
    (takes : Takes maxDepth state phrases final) (texts : ∀ content, holds (.text content))
    (comments : ∀ content, holds (.comment content)) (keeps : state.Keeps holds)
    (admits : ∀ phrase ∈ phrases, AdmitsTag holds phrase) : final.Keeps holds := by
  induction takes with
  | nil => exact keeps
  | cons position first _ inductionHypothesis =>
      rw [List.forall_mem_cons] at admits
      exact inductionHypothesis (keeps_phrase first texts comments keeps admits.1) admits.2

/-! ## Any tokens -/

/-- Whatever tokens are nested, a start tag has a name when it becomes an element. -/
theorem keeps_step {maxDepth : Amount} {state next : State} {token : Token}
    (succeeds : state.step maxDepth token = .ok next) (texts : ∀ content, holds (.text content))
    (comments : ∀ content, holds (.comment content)) (keeps : state.Keeps holds)
    (admits : ∀ name attributes selfClosing, name ≠ "" →
      AdmitsTag holds (.startTag name attributes selfClosing)) : next.Keeps holds := by
  have flushed := keeps_flush keeps texts
  unfold step at succeeds
  cases kind : token.kind with
  | tagEnd =>
      simp only [kind, finishTag] at succeeds
      split at succeeds
      · cases succeeds
        exact keeps
      · next tag _ =>
          have settled : State.Keeps holds { state with pending := none } :=
            ⟨⟨keeps.attached.roots, keeps.attached.children⟩, keeps.opened⟩
          split at succeeds
          · cases succeeds
            exact settled
          · next named =>
              split at succeeds
              · cases succeeds
                exact keeps_endTag tag settled
              · exact keeps_startTag succeeds settled (admits _ _ _ named)
  | comment =>
      simp only [kind] at succeeds
      cases succeeds
      refine ⟨allAttached_append flushed.attached ?_, ?_⟩
      · simpa using comments token.value
      · rw [openHeads_append]
        exact flushed.opened
  | doctype | tagStart =>
      simp only [kind] at succeeds
      cases succeeds
      exact ⟨⟨flushed.attached.roots, flushed.attached.children⟩, flushed.opened⟩
  | text | cdata | tagName | attributeName | attributeValue =>
      simp only [kind] at succeeds
      cases succeeds
      exact ⟨⟨keeps.attached.roots, keeps.attached.children⟩, keeps.opened⟩

theorem keeps_run {maxDepth : Amount} {tokens : List Token} {state final : State}
    (succeeds : state.run maxDepth tokens = .ok final) (texts : ∀ content, holds (.text content))
    (comments : ∀ content, holds (.comment content)) (keeps : state.Keeps holds)
    (admits : ∀ name attributes selfClosing, name ≠ "" →
      AdmitsTag holds (.startTag name attributes selfClosing)) : final.Keeps holds := by
  induction tokens generalizing state with
  | nil =>
      cases succeeds
      exact keeps
  | cons token rest inductionHypothesis =>
      rw [run_cons] at succeeds
      cases stepped : state.step maxDepth token with
      | error fault =>
          rw [stepped] at succeeds
          exact absurd succeeds (by simp)
      | ok next =>
          rw [stepped] at succeeds
          exact inductionHypothesis succeeds (keeps_step stepped texts comments keeps admits)

/-! ## Whole fragments -/

theorem forall_mem_preorder_of_keeps {state : State} (keeps : state.Keeps holds)
    (texts : ∀ content, holds (.text content)) :
    ∀ node ∈ Node.preorder state.finish.roots.reverse, holds node := by
  have flushed := keeps_flush keeps texts
  refine forall_mem_preorder_finish flushed.attached (closes_of_holdsOfHead flushed.opened) ?_
  exact fun head member => flushed.opened head (List.mem_of_mem_tail member)

theorem keeps_empty : State.Keeps holds {} :=
  ⟨⟨by simp, by simp⟩, by simp [openHeads]⟩

/-- A property of text and comments holds of all nodes if it holds of all elements that start tags
may become. -/
theorem forall_mem_preorder_of_takes {maxDepth : Amount} {phrases : List Phrase} {final : State}
    (takes : Takes maxDepth {} phrases final) (texts : ∀ content, holds (.text content))
    (comments : ∀ content, holds (.comment content))
    (admits : ∀ phrase ∈ phrases, AdmitsTag holds phrase) :
    ∀ node ∈ Node.preorder final.finish.roots.reverse, holds node :=
  forall_mem_preorder_of_keeps (keeps_takes takes texts comments keeps_empty admits) texts

end State

end Nesting

/-! ## Tag names -/

/-- The name of a start tag is spelled as a tag name. -/
def Phrase.HasTagName : Phrase → Prop
  | .startTag name _ _ => IsTagName name.toList
  | _ => True

theorem Construct.hasTagName_of_fits {raw : Option RawElement} {construct : Construct}
    {rest : List Char} (fits : construct.Fits raw rest) :
    ∀ phrase ∈ construct.phrases, phrase.HasTagName := by
  cases construct with
  | startTag tag =>
      cases raw with
      | none => simpa [phrases, StartTag.phrase, Phrase.HasTagName] using fits.head.name
      | some due => exact fits.elim
  | rawText element content ending =>
      rw [phrases, List.forall_mem_append]
      refine ⟨?_, ?_⟩
      · split <;> simp [Phrase.HasTagName]
      · cases ending <;> simp [EndTag.phrase, Phrase.HasTagName]
  | _ => simp [phrases, EndTag.phrase, Phrase.HasTagName]

theorem WellPlaced.hasTagName {raw : Option RawElement} {constructs : List Construct}
    {rest : List Char} (placed : WellPlaced raw constructs rest) :
    ∀ phrase ∈ constructs.flatMap Construct.phrases, phrase.HasTagName := by
  induction constructs generalizing raw with
  | nil => simp
  | cons construct others inductionHypothesis =>
      rw [List.flatMap_cons, List.forall_mem_append]
      exact ⟨Construct.hasTagName_of_fits placed.1, inductionHypothesis placed.2⟩

/-- The element of a node is named by a tag name. -/
def Node.HasTagName : Node → Prop
  | .element head _ => IsTagName head.tag.toList
  | _ => True

theorem hasTagName_of_read {limits : Limits} {html : String} {reading : Reading}
    (succeeds : read limits html = .ok reading) :
    ∀ node ∈ Node.preorder reading.nodes, node.HasTagName := by
  obtain ⟨constructs, final, _, placed, _, takes, nodes, _⟩ := takes_of_read succeeds
  rw [nodes]
  refine Nesting.State.forall_mem_preorder_of_takes takes (fun _ => trivial) (fun _ => trivial) ?_
  intro phrase member
  have named := placed.hasTagName phrase member
  cases phrase with
  | startTag name attributes selfClosing => exact fun children _ => named
  | _ => trivial

end JsxFragment
