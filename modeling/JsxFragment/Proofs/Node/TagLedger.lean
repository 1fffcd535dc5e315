import JsxFragment.Proofs.Node.AnyTokens
import JsxFragment.Proofs.Node.Faultless
import JsxFragment.Proofs.Node.TextTags
import Mathlib.Data.List.Perm.Subperm

/-!
# The ledger of tags

An element that a start tag leaves open is closed once: by an end tag of its name, at the end tag of
another element, or at the end of the text. An end tag that closes no element by its name is noted.
So what is opened and what is closed can be set against each other.
-/

namespace JsxFragment

open Text Number

/-! ## Entries -/

namespace RecoveryCause

/-- An element is closed that no end tag closes by its name. -/
def closesEarly : RecoveryCause → Bool
  | .implicitlyClosed _ _ | .unclosedElement _ => true
  | _ => false

/-- An end tag is left out. -/
def ignoresEndTag : RecoveryCause → Bool
  | .voidEndTag _ | .unmatchedEndTag _ => true
  | _ => false

theorem closesEarly_and_ignoresEndTag (cause : RecoveryCause) :
    (cause.closesEarly && cause.ignoresEndTag) = false := by
  cases cause <;> rfl

end RecoveryCause

/-- The tags and places of the elements that are closed early. -/
def closedEarly (recoveries : List Recovery) : List (String × Position) :=
  (recoveries.filter (·.cause.closesEarly)).map fun recovery =>
    (recovery.cause.tag, recovery.position)

/-- The number of end tags that are left out. -/
def countIgnored (recoveries : List Recovery) : Nat :=
  recoveries.countP (·.cause.ignoresEndTag)

namespace WholeTag

/-- The start tag of an element that is left open for content. -/
def opensElement (tag : WholeTag) : Bool :=
  tag.startsElement && tag.head.takesContent

/-- An end tag with a name. -/
def endsElement (tag : WholeTag) : Bool :=
  tag.isEndTag && tag.name ≠ ""

/-- The name of the tag and its place. -/
def entry (tag : WholeTag) : String × Position :=
  (tag.name, tag.opening.position)

end WholeTag

/-- The elements that the tags leave open, by their names and places. -/
def openedBy (tags : List WholeTag) : List (String × Position) :=
  (tags.filter (·.opensElement)).map WholeTag.entry

@[simp]
theorem closedEarly_append (first second : List Recovery) :
    closedEarly (first ++ second) = closedEarly first ++ closedEarly second := by
  simp [closedEarly]

@[simp]
theorem countIgnored_append (first second : List Recovery) :
    countIgnored (first ++ second) = countIgnored first + countIgnored second :=
  List.countP_append

@[simp]
theorem openedBy_append (first second : List WholeTag) :
    openedBy (first ++ second) = openedBy first ++ openedBy second := by
  simp [openedBy]

theorem openedBy_of_endsElement {tag : WholeTag} (ends : tag.endsElement = true) :
    openedBy [tag] = [] := by
  have isEnd : tag.isEndTag = true := (Bool.and_eq_true_iff.mp ends).1
  simp [openedBy, WholeTag.opensElement, WholeTag.startsElement, isEnd]

namespace Nesting.State

/-! ## What operations enter -/

theorem recoveries_recover (state : State) (cause : RecoveryCause) (position : Position) :
    (state.recover cause position).recoveries = ⟨cause, position⟩ :: state.recoveries :=
  rfl

@[simp]
theorem recoveries_closeInnermost (state : State) :
    state.closeInnermost.recoveries = state.recoveries := by
  simp [recoveries]

theorem filterMap_recovery?_recovered (recoveries : List Recovery) :
    (recoveries.map Note.recovered).filterMap Note.recovery? = recoveries := by
  rw [List.filterMap_map]
  exact List.filterMap_some

theorem recoveries_closeEach (state : State) (elements : List OpenElement)
    (cause : OpenElement → RecoveryCause) :
    (state.closeEach elements cause).recoveries =
      (elements.map fun element => Recovery.mk (cause element) element.position).reverse
        ++ state.recoveries := by
  have notes : (elements.map fun element =>
      Note.recovered ⟨cause element, element.position⟩) =
        (elements.map fun element => Recovery.mk (cause element) element.position).map
          Note.recovered := by
    rw [List.map_map]
    rfl
  rw [recoveries, notes_closeEach, notes, List.filterMap_append, List.filterMap_reverse,
    filterMap_recovery?_recovered]
  rfl

@[simp]
theorem opened_closeInnermost (state : State) :
    state.closeInnermost.opened = state.opened.tail :=
  map_stack_closeInnermost (fun _ _ => rfl) state

@[simp]
theorem opened_closeEach (state : State) (elements : List OpenElement)
    (cause : OpenElement → RecoveryCause) :
    (state.closeEach elements cause).opened = state.opened.drop elements.length :=
  map_stack_closeEach (fun _ _ => rfl) state elements cause

/-- Closing elements early enters them with their tags and places, and no end tag. -/
theorem entries_closeEach (state : State) (elements : List OpenElement)
    (cause : OpenElement → RecoveryCause) (early : ∀ element, (cause element).closesEarly = true)
    (sameTag : ∀ element, (cause element).tag = element.tag) :
    closedEarly (state.closeEach elements cause).recoveries =
        (elements.map fun element => (element.tag, element.position)).reverse ++
          closedEarly state.recoveries ∧
      countIgnored (state.closeEach elements cause).recoveries =
        countIgnored state.recoveries := by
  have notIgnoring (element : OpenElement) : (cause element).ignoresEndTag = false := by
    simpa [early] using (cause element).closesEarly_and_ignoresEndTag
  rw [recoveries_closeEach, closedEarly_append, countIgnored_append]
  constructor
  · simp [closedEarly, List.filter_map, Function.comp_def, early, sameTag]
  · simp [countIgnored, List.countP_map, Function.comp_def, notIgnoring]

theorem entries_startTag {maxDepth : Amount} {state next : State} {tag : PendingTag}
    {selfClosing : Bool} (succeeds : startTag maxDepth state tag selfClosing = .ok next) :
    closedEarly next.recoveries = closedEarly state.recoveries ∧
      countIgnored next.recoveries = countIgnored state.recoveries ∧
        next.opened =
          if (tag.head selfClosing).takesContent then (tag.name, tag.position) :: state.opened
          else state.opened := by
  have noted : next.recoveries = (repetitions tag).reverse ++ state.recoveries := by
    rw [recoveries, notes_startTag succeeds, List.filterMap_append, List.filterMap_reverse,
      filterMap_recovery?_recovered]
    rfl
  refine ⟨?_, ?_, ?_⟩
  · rw [noted, closedEarly_append]
    simp [closedEarly, repetitions, List.filter_map, Function.comp_def, RecoveryCause.closesEarly]
  · rw [noted, countIgnored_append]
    simp [countIgnored, repetitions, List.countP_map, Function.comp_def,
      RecoveryCause.ignoresEndTag]
  · rw [takesContent_head]
    rcases startTag_cases succeeds with ⟨complete, rfl⟩ | ⟨stays, _, rfl⟩
    · rw [complete, opened_append]
      rfl
    · rw [stays]
      rfl

/-! ## The ledger -/

/-- Each element that the tags have left open is closed by an end tag of its name, closed early or
still open, and each end tag has closed an element by its name or is left out. -/
structure Balances (tags : List WholeTag) (state : State) (closed : List (String × Position)) :
    Prop where
  elements : (openedBy tags).Perm (closed ++ closedEarly state.recoveries ++ state.opened)
  endTags : tags.countP (·.endsElement) = closed.length + countIgnored state.recoveries

theorem balances_empty : Balances [] {} [] where
  elements := List.Perm.nil
  endTags := rfl

/-- Nothing is entered. -/
theorem Balances.congr {tags : List WholeTag} {state next : State}
    {closed : List (String × Position)} (balances : Balances tags state closed)
    (opened : next.opened = state.opened) (recoveries : next.recoveries = state.recoveries) :
    Balances tags next closed := by
  constructor
  · rw [opened, recoveries]
    exact balances.elements
  · rw [recoveries]
    exact balances.endTags

open scoped List in
/-- The element `last` is closed, and before it those inside it. -/
theorem perm_of_closed {α : Type _} (closed early inner outer : List α) (last : α) :
    closed ++ early ++ (inner ++ last :: outer) ~
      last :: closed ++ (inner.reverse ++ early) ++ outer := by
  have early_inner : early ++ inner ~ inner.reverse ++ early :=
    List.perm_append_comm.trans (inner.reverse_perm.symm.append_right early)
  calc closed ++ early ++ (inner ++ last :: outer)
    _ = (closed ++ early ++ inner) ++ last :: outer := by rw [List.append_assoc _ inner]
    _ ~ last :: ((closed ++ early ++ inner) ++ outer) := List.perm_middle
    _ ~ last :: closed ++ (inner.reverse ++ early) ++ outer := by
        rw [List.append_assoc closed]
        exact ((early_inner.append_left closed).append_right outer).cons last

variable {maxDepth : Amount} {state next final : State} {before tags : List WholeTag}
  {tag : WholeTag} {closed : List (String × Position)}

theorem Balances.startTag (balances : Balances before state closed) (named : tag.name ≠ "")
    (isStart : tag.isEndTag = false)
    (succeeds : State.startTag maxDepth { state with pending := none } tag.pending
      tag.selfClosing = .ok next) :
    Balances (before ++ [tag]) next closed := by
  obtain ⟨early, ignored, opened⟩ := entries_startTag succeeds
  have starts : tag.startsElement = true := by simp [WholeTag.startsElement, isStart, named]
  have notEnds : tag.endsElement = false := by simp [WholeTag.endsElement, isStart]
  rw [head_pending] at opened
  constructor
  · rw [early, opened, openedBy_append]
    cases takes : tag.head.takesContent with
    | false =>
        have opensNone : openedBy [tag] = [] := by
          simp [openedBy, WholeTag.opensElement, starts, takes]
        rw [opensNone, List.append_nil]
        exact balances.elements
    | true =>
        have opensOne : openedBy [tag] = [tag.entry] := by
          simp [openedBy, WholeTag.opensElement, starts, takes]
        rw [opensOne]
        apply (balances.elements.append_right [tag.entry]).trans
        rw [List.append_assoc]
        exact (List.perm_append_singleton tag.entry state.opened).append_left _
  · rw [ignored, List.countP_append, balances.endTags]
    simp [notEnds, recoveries]

theorem Balances.ignoreEndTag (balances : Balances before state closed)
    (ends : tag.endsElement = true) {cause : RecoveryCause} (ignores : cause.ignoresEndTag = true)
    (position : Position) : Balances (before ++ [tag]) (state.recover cause position) closed := by
  have notEarly : cause.closesEarly = false := by
    simpa [ignores] using cause.closesEarly_and_ignoresEndTag
  have noneEarly : closedEarly (⟨cause, position⟩ :: state.recoveries) =
      closedEarly state.recoveries := by
    simp [closedEarly, notEarly]
  constructor
  · rw [openedBy_append, openedBy_of_endsElement ends, List.append_nil, recoveries_recover,
      noneEarly]
    exact balances.elements
  · rw [List.countP_append, balances.endTags, recoveries_recover]
    simp [countIgnored, ignores, ends, Nat.add_assoc]

/-- The end tag closes `last` by its name, after the elements inside it. -/
theorem Balances.closeThrough (balances : Balances before state closed)
    (ends : tag.endsElement = true) {inner outer : List OpenElement} {last : OpenElement}
    (stack : state.stack = inner ++ last :: outer) (endTag : String) :
    Balances (before ++ [tag])
      (state.closeEach inner fun element => .implicitlyClosed element.tag endTag).closeInnermost
      ((last.tag, last.position) :: closed) := by
  obtain ⟨early, ignored⟩ := entries_closeEach state inner
    (fun element => .implicitlyClosed element.tag endTag) (fun _ => rfl) (fun _ => rfl)
  have opened : state.opened =
      inner.map (fun element => (element.tag, element.position)) ++ (last.tag, last.position) ::
        outer.map fun element => (element.tag, element.position) := by
    simp [State.opened, stack]
  constructor
  · rw [openedBy_append, openedBy_of_endsElement ends, List.append_nil, recoveries_closeInnermost,
      early, opened_closeInnermost, opened_closeEach, opened, List.drop_left' (by simp)]
    apply balances.elements.trans
    rw [opened]
    exact perm_of_closed _ _ _ _ _
  · rw [List.countP_append, balances.endTags, recoveries_closeInnermost, ignored,
      List.length_cons]
    simp [ends, Nat.add_right_comm]

theorem Balances.endTag (balances : Balances before state closed)
    (ends : tag.endsElement = true) :
    ∃ closed, Balances (before ++ [tag]) (State.endTag state tag.pending) closed := by
  rcases endTag_cases state tag.pending with
    ⟨_, equality⟩ | ⟨_, _, equality⟩ | ⟨_, inner, last, outer, stack, _, _, equality⟩
  · rw [equality]
    exact ⟨_, balances.ignoreEndTag ends rfl _⟩
  · rw [equality]
    exact ⟨_, balances.ignoreEndTag ends rfl _⟩
  · rw [equality]
    exact ⟨_, balances.closeThrough ends stack _⟩

theorem Balances.handles (balances : Balances before state closed)
    (handles : Handles maxDepth state tag next) :
    ∃ closed, Balances (before ++ [tag]) next closed := by
  have settled : Balances before { state with pending := none } closed := balances.congr rfl rfl
  cases handles with
  | nameless unnamed =>
      refine ⟨closed, ?_, ?_⟩
      · rw [openedBy_append]
        simpa [openedBy, WholeTag.opensElement, WholeTag.startsElement, unnamed] using
          settled.elements
      · simpa [WholeTag.endsElement, unnamed] using settled.endTags
  | startTag named isStart succeeds => exact ⟨closed, settled.startTag named isStart succeeds⟩
  | endTag named isEnd => exact settled.endTag (by simp [WholeTag.endsElement, isEnd, named])

theorem Balances.reads (reads : Reads maxDepth state tags final)
    (balances : Balances before state closed) :
    ∃ closed, Balances (before ++ tags) final closed := by
  induction reads generalizing before closed with
  | nil state => exact ⟨closed, by rwa [List.append_nil]⟩
  | stutter first _ inductionHypothesis =>
      exact inductionHypothesis (balances.congr first.opened first.recoveries)
  | @tag _ _ _ tag tags first _ inductionHypothesis =>
      obtain ⟨more, balancesNext⟩ := balances.handles first
      rw [List.append_cons]
      exact inductionHypothesis balancesNext

/-- At the end every element is closed that was left open. -/
theorem Balances.finish (balances : Balances tags state closed) :
    (openedBy tags).Perm (closed ++ closedEarly state.finish.recoveries) ∧
      tags.countP (·.endsElement) = closed.length + countIgnored state.finish.recoveries := by
  obtain ⟨early, ignored⟩ := entries_closeEach state.flush state.flush.stack
    (fun element => .unclosedElement element.tag) (fun _ => rfl) (fun _ => rfl)
  rw [State.finish, early, ignored, recoveries_flush]
  refine ⟨?_, balances.endTags⟩
  have opened : state.flush.stack.map (fun element => (element.tag, element.position)) =
      state.opened := opened_flush state
  rw [opened]
  apply balances.elements.trans
  rw [List.append_assoc]
  exact (List.perm_append_comm.trans (state.opened.reverse_perm.symm.append_right _)).append_left _

/-- What tags open is closed by end tags or closed early. -/
theorem exists_balance_of_run {tokens : List Token}
    (succeeds : State.run maxDepth {} tokens = .ok final) :
    ∃ closed, (openedBy (wholeTags tokens)).Perm
        (closed ++ closedEarly final.finish.recoveries) ∧
      (wholeTags tokens).countP (·.endsElement) =
        closed.length + countIgnored final.finish.recoveries := by
  obtain ⟨closed, balances⟩ := Balances.reads (reads_of_run succeeds) balances_empty
  rw [List.nil_append] at balances
  exact ⟨closed, balances.finish⟩

end Nesting.State

/-! ## Texts -/

/-- How many of the recoveries go by the label. -/
def countLabel (label : String) (recoveries : List Recovery) : Nat :=
  recoveries.countP (·.cause.label = label)

/-- How many tags begin with the marker. -/
def countMarker (marker : String) (tokens : List Token) : Nat :=
  tokens.countP (·.lexeme = ⟨.tagStart, marker⟩)

theorem countP_eq_countLabel {isOne : RecoveryCause → Bool} {first second : String}
    (byLabel : ∀ cause, isOne cause = decide (cause.label = first ∨ cause.label = second))
    (different : first ≠ second) (recoveries : List Recovery) :
    recoveries.countP (isOne ·.cause) =
      countLabel first recoveries + countLabel second recoveries := by
  unfold countLabel
  induction recoveries with
  | nil => rfl
  | cons recovery rest inductionHypothesis =>
      rw [List.countP_cons, List.countP_cons, List.countP_cons, inductionHypothesis, byLabel]
      by_cases isFirst : recovery.cause.label = first
      · simp [isFirst, different, Nat.add_right_comm]
      · by_cases isSecond : recovery.cause.label = second
        · simp [isSecond, different.symm, Nat.add_assoc]
        · simp [isFirst, isSecond]

theorem length_closedEarly (recoveries : List Recovery) :
    (closedEarly recoveries).length =
      countLabel "implicitly_closed" recoveries + countLabel "unclosed_element" recoveries := by
  rw [closedEarly, List.length_map, ← List.countP_eq_length_filter]
  exact countP_eq_countLabel (by rintro (_ | _) <;> rfl) (by decide) recoveries

theorem countIgnored_eq_countLabel (recoveries : List Recovery) :
    countIgnored recoveries =
      countLabel "void_end_tag" recoveries + countLabel "unmatched_end_tag" recoveries :=
  countP_eq_countLabel (by rintro (_ | _) <;> rfl) (by decide) recoveries

namespace AreTagsWhole

variable {tokens : List Token}

theorem countP_startsElement (whole : AreTagsWhole tokens) :
    (wholeTags tokens).countP (·.startsElement) = countMarker "<" tokens := by
  rw [List.countP_eq_length_filter, countMarker, List.countP_eq_length_filter,
    ← whole.openings_startTags, List.length_map]

/-- All tags have names, so an end tag is one of an element. -/
theorem countP_endsElement (whole : AreTagsWhole tokens) :
    (wholeTags tokens).countP (·.endsElement) = countMarker "</" tokens := by
  have named : (wholeTags tokens).filter (·.endsElement) =
      (wholeTags tokens).filter (·.isEndTag) := by
    apply List.filter_congr
    intro tag member
    simp [WholeTag.endsElement, whole.named tag member]
  rw [List.countP_eq_length_filter, named, countMarker, List.countP_eq_length_filter,
    ← whole.openings_endTags, List.length_map]

end AreTagsWhole

/-- The elements that tags leave open are among those that start tags begin. -/
theorem sublist_openedBy (tags : List WholeTag) :
    ((openedBy tags).map Prod.snd).Sublist
      ((tags.filter (·.startsElement)).map (·.opening.position)) := by
  have opening : tags.filter (·.opensElement) =
      (tags.filter (·.startsElement)).filter (·.head.takesContent) := by
    rw [List.filter_filter]
    apply List.filter_congr
    intro tag _
    exact Bool.and_comm _ _
  rw [openedBy, opening, List.map_map]
  exact List.filter_sublist.map _

/-- The account of a reading: there is an element for each start tag. Of those that take content,
each is closed by an end tag that is not left out, or early and then noted with its tag and the
place of its start tag, and these places are different ones. -/
structure Reading.HasBalance (reading : Reading) : Prop where
  starts : (wholeTags reading.tokens).countP (·.startsElement) = countMarker "<" reading.tokens
  elements : Node.countElements reading.nodes = countMarker "<" reading.tokens
  balance : ((openedBy (wholeTags reading.tokens)).length : Int) =
    countMarker "</" reading.tokens
      - countLabel "void_end_tag" reading.recoveries
      - countLabel "unmatched_end_tag" reading.recoveries
      + countLabel "implicitly_closed" reading.recoveries
      + countLabel "unclosed_element" reading.recoveries
  closedEarly : (closedEarly reading.recoveries).Subperm (openedBy (wholeTags reading.tokens))
  distinct : ((openedBy (wholeTags reading.tokens)).map Prod.snd).Nodup

theorem hasBalance_of_read {limits : Limits} {html : String} {reading : Reading}
    (succeeds : read limits html = .ok reading) : reading.HasBalance := by
  obtain ⟨final, ran, rfl⟩ := run_of_read succeeds
  have whole := areTagsWhole_tokenize html
  obtain ⟨closed, opened, endTags⟩ := Nesting.State.exists_balance_of_run ran
  -- The recoveries of the reading are those of the run in the other direction.
  have inOrder : (final.finish.notes.reverse.filterMap Note.recovery?).Perm
      final.finish.recoveries := by
    rw [List.filterMap_reverse]
    exact List.reverse_perm _
  have early := (inOrder.filter (·.cause.closesEarly)).map fun recovery =>
    (recovery.cause.tag, recovery.position)
  constructor
  · exact whole.countP_startsElement
  · rw [countElements_eq_length_heads, Nesting.State.heads_of_run ran, List.length_map,
      ← List.countP_eq_length_filter]
    exact whole.countP_startsElement
  · have inAll := opened.length_eq
    rw [List.length_append, length_closedEarly] at inAll
    rw [whole.countP_endsElement, countIgnored_eq_countLabel] at endTags
    have count (label : String) :
        countLabel label (final.finish.notes.reverse.filterMap Note.recovery?) =
          countLabel label final.finish.recoveries := inOrder.countP_eq _
    simp only [Reading.recoveries, count]
    omega
  · have amongOpened : (closedEarly final.finish.recoveries).Subperm (openedBy _) :=
      (List.sublist_append_right closed _).subperm.trans opened.symm.subperm
    exact early.subperm.trans amongOpened
  · exact (nodup_positions_startTags html).sublist (sublist_openedBy _)

theorem hasBalance_of_read_mismatched_tags :
    ∃ reading, read {} "<p>a<b>c</P>d</b></br><br>e<i>" = .ok reading ∧ reading.HasBalance ∧
      reading.recoveries.map (·.cause.label) =
        ["implicitly_closed", "unmatched_end_tag", "void_end_tag", "unclosed_element"] := by
  obtain ⟨reading, succeeds⟩ : ∃ reading,
      read {} "<p>a<b>c</P>d</b></br><br>e<i>" = .ok reading := ⟨_, rfl⟩
  refine ⟨reading, succeeds, hasBalance_of_read succeeds, ?_⟩
  have computed :
      (read {} "<p>a<b>c</P>d</b></br><br>e<i>").toOption.map
          (fun reading => reading.recoveries.map (·.cause.label)) =
        some ["implicitly_closed", "unmatched_end_tag", "void_end_tag", "unclosed_element"] := by
    rfl
  rw [succeeds] at computed
  exact Option.some.inj computed

end JsxFragment
