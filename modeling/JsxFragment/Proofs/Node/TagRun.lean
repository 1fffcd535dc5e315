import JsxFragment.Proofs.Node.DepthLimit
import JsxFragment.Proofs.Node.WholeTag

/-!
# Nesting tag by tag

Of any tokens only whole tags with a name begin or close elements. All other tokens leave the
elements, those that are open and the recoveries as they are, so a run over tokens is a run over
their tags.
-/

namespace JsxFragment

open Text Number

namespace Nesting

namespace State

/-! ## What tags change -/

/-- The open elements by their tags and the places of these, the innermost first. -/
def opened (state : State) : List (String × Position) :=
  state.stack.map fun element => (element.tag, element.position)

/-- The recoveries so far, the last one first. -/
def recoveries (state : State) : List Recovery :=
  state.notes.filterMap Note.recovery?

@[simp]
theorem opened_append (state : State) (node : Node) :
    (state.append node).opened = state.opened :=
  map_stack_append (fun _ _ => rfl) state node

@[simp]
theorem opened_flush (state : State) : state.flush.opened = state.opened :=
  map_stack_flush (fun _ _ => rfl) state

@[simp]
theorem recoveries_append (state : State) (node : Node) :
    (state.append node).recoveries = state.recoveries := by
  simp [recoveries]

@[simp]
theorem recoveries_flush (state : State) : state.flush.recoveries = state.recoveries := by
  simp [recoveries]

/-- The elements, those that are open and the recoveries are the same ones. -/
structure Stutters (state next : State) : Prop where
  places : next.places = state.places
  opened : next.opened = state.opened
  recoveries : next.recoveries = state.recoveries

theorem stutters_flush (state : State) : state.Stutters state.flush where
  places := places_flush state
  opened := opened_flush state
  recoveries := recoveries_flush state

/-- What one whole tag does. It is no longer pending then. -/
inductive Handles (maxDepth : Amount) (state : State) (tag : WholeTag) : State → Prop
  | nameless (unnamed : tag.name = "") :
      Handles maxDepth state tag { state with pending := none }
  | startTag {next : State} (named : tag.name ≠ "") (isStart : tag.isEndTag = false)
      (succeeds : startTag maxDepth { state with pending := none } tag.pending tag.selfClosing =
        .ok next) : Handles maxDepth state tag next
  | endTag (named : tag.name ≠ "") (isEnd : tag.isEndTag = true) :
      Handles maxDepth state tag (State.endTag { state with pending := none } tag.pending)

/-! ## One token -/

/-- A token leads on from where the tokens `held` are those of a pending tag. Either it only adds to
them or ends them without a tag, or it completes a tag. -/
inductive Leads (maxDepth : Amount) (state : State) (held : List Token) (token : Token)
    (next : State) : List Token → Prop
  | stutters {left : List Token} (stutters : state.Stutters next)
      (sameTags : ∀ rest, wholeTags (held ++ token :: rest) = wholeTags (left ++ rest)) :
      Leads maxDepth state held token next left
  | handles {left : List Token} (tag : WholeTag) (handles : state.Handles maxDepth tag next)
      (moreTags : ∀ rest, wholeTags (held ++ token :: rest) = tag :: wholeTags (left ++ rest)) :
      Leads maxDepth state held token next left

variable {maxDepth : Amount} {state next : State} {held : List Token} {token : Token}

/-- A token that neither begins nor ends a tag is held if a tag is pending. -/
theorem leads_hold (isHeld : IsHeld held) (notLimit : token.isTagLimit = false)
    (pending : next.pending = pendingOf (hold token held)) (stutters : state.Stutters next) :
    ∃ left, IsHeld left ∧ next.pending = pendingOf left ∧
      Leads maxDepth state held token next left :=
  ⟨hold token held, isHeld.hold notLimit, pending,
    .stutters stutters fun rest => (wholeTags_hold held notLimit rest).symm⟩

theorem leads_tagEnd (isHeld : IsHeld held) (pending : state.pending = pendingOf held)
    (isEnd : token.kind = .tagEnd) (succeeds : state.step maxDepth token = .ok next) :
    ∃ left, IsHeld left ∧ next.pending = pendingOf left ∧
      Leads maxDepth state held token next left := by
  have finishes : state.finishTag maxDepth (token.value = "/>") = .ok next := by
    simpa only [step, isEnd] using succeeds
  refine ⟨[], .nothing, ?_⟩
  cases isHeld with
  | nothing =>
      have noTag : state.pending = none := pending
      rw [finishTag, noTag, Except.ok.injEq] at finishes
      subst finishes
      refine ⟨noTag, .stutters ⟨rfl, rfl, rfl⟩ fun rest => ?_⟩
      exact wholeTags_cons_of_ne (by simp [isEnd]) rest
  | @tag opening inner isStart noLimit =>
      generalize tagEquality : WholeTag.mk opening inner token = tag
      have isPending : state.pending = some tag.pending := by
        rw [pending, ← tagEquality]
        rfl
      have moreTags (rest : List Token) :
          wholeTags (opening :: inner ++ token :: rest) = tag :: wholeTags ([] ++ rest) := by
        rw [← tagEquality]
        exact wholeTags_of_closed isStart noLimit isEnd rest
      have closes : decide (token.value = "/>") = tag.selfClosing := by
        rw [← tagEquality]
        rfl
      rw [finishTag, isPending, closes] at finishes
      dsimp only at finishes
      by_cases unnamed : tag.pending.name = ""
      · rw [if_pos unnamed, Except.ok.injEq] at finishes
        subst finishes
        exact ⟨rfl, .handles tag (.nameless unnamed) moreTags⟩
      · rw [if_neg unnamed] at finishes
        by_cases isEndTag : tag.pending.isEndTag = true
        · rw [if_pos isEndTag, Except.ok.injEq] at finishes
          subst finishes
          exact ⟨pending_endTag _ _, .handles tag (.endTag unnamed isEndTag) moreTags⟩
        · rw [if_neg isEndTag] at finishes
          have isStartTag : tag.isEndTag = false := Bool.eq_false_iff.mpr isEndTag
          exact ⟨pending_startTag finishes,
            .handles tag (.startTag unnamed isStartTag finishes) moreTags⟩

theorem leads_of_step (isHeld : IsHeld held) (pending : state.pending = pendingOf held)
    (succeeds : state.step maxDepth token = .ok next) :
    ∃ left, IsHeld left ∧ next.pending = pendingOf left ∧
      Leads maxDepth state held token next left := by
  have flushed := stutters_flush state
  cases kind : token.kind with
  | text | cdata =>
      simp only [step, kind, Except.ok.injEq] at succeeds
      subst succeeds
      refine leads_hold isHeld (by simp [Token.isTagLimit, kind]) ?_ ⟨rfl, rfl, rfl⟩
      rw [pendingOf_hold_of_other (by simp [kind]) (by simp [kind]) (by simp [kind])]
      exact pending
  | tagStart =>
      simp only [step, kind, Except.ok.injEq] at succeeds
      subst succeeds
      refine ⟨[token], .tag kind (by simp), rfl, .stutters ?_ (wholeTags_of_tagStart isHeld kind)⟩
      exact ⟨flushed.places, flushed.opened, flushed.recoveries⟩
  | tagName =>
      simp only [step, kind, Except.ok.injEq] at succeeds
      subst succeeds
      refine leads_hold isHeld (by simp [Token.isTagLimit, kind]) ?_ ⟨rfl, rfl, rfl⟩
      rw [pendingOf_hold_of_tagName kind, ← pending]
  | attributeName =>
      simp only [step, kind, Except.ok.injEq] at succeeds
      subst succeeds
      refine leads_hold isHeld (by simp [Token.isTagLimit, kind]) ?_ ⟨rfl, rfl, rfl⟩
      rw [pendingOf_hold_of_attributeName kind, ← pending]
  | attributeValue =>
      simp only [step, kind, Except.ok.injEq] at succeeds
      subst succeeds
      refine leads_hold isHeld (by simp [Token.isTagLimit, kind]) ?_ ⟨rfl, rfl, rfl⟩
      rw [pendingOf_hold_of_attributeValue kind, ← pending]
  | tagEnd => exact leads_tagEnd isHeld pending kind succeeds
  | comment =>
      simp only [step, kind, Except.ok.injEq] at succeeds
      subst succeeds
      refine leads_hold isHeld (by simp [Token.isTagLimit, kind]) ?_ ⟨?_, ?_, ?_⟩
      · rw [pendingOf_hold_of_other (by simp [kind]) (by simp [kind]) (by simp [kind]),
          pending_append, pending_flush, pending]
      · rw [places_append, placedHeads_comment, List.append_nil, flushed.places]
      · rw [opened_append, flushed.opened]
      · rw [recoveries_append, flushed.recoveries]
  | doctype =>
      simp only [step, kind, Except.ok.injEq] at succeeds
      subst succeeds
      refine leads_hold isHeld (by simp [Token.isTagLimit, kind]) ?_
        ⟨flushed.places, flushed.opened, flushed.recoveries⟩
      rw [pendingOf_hold_of_other (by simp [kind]) (by simp [kind]) (by simp [kind]), ← pending]
      exact pending_flush state

/-! ## All tokens -/

/-- The fragment under construction goes through whole tags. -/
inductive Reads (maxDepth : Amount) : State → List WholeTag → State → Prop
  | nil (state : State) : Reads maxDepth state [] state
  | stutter {state next final : State} {tags : List WholeTag} (first : state.Stutters next)
      (others : Reads maxDepth next tags final) : Reads maxDepth state tags final
  | tag {state next final : State} {tag : WholeTag} {tags : List WholeTag}
      (first : state.Handles maxDepth tag next) (others : Reads maxDepth next tags final) :
      Reads maxDepth state (tag :: tags) final

theorem reads_of_run_held {tokens : List Token} {final : State} (isHeld : IsHeld held)
    (pending : state.pending = pendingOf held)
    (succeeds : state.run maxDepth tokens = .ok final) :
    Reads maxDepth state (wholeTags (held ++ tokens)) final := by
  induction tokens generalizing state held with
  | nil =>
      obtain rfl : state = final := by simpa [run] using succeeds
      have noTags : wholeTags (held ++ []) = [] := by
        rw [List.append_nil]
        cases isHeld with
        | nothing => rfl
        | tag isStart noLimit => exact wholeTags_of_unclosed noLimit
      rw [noTags]
      exact .nil state
  | cons token rest inductionHypothesis =>
      rw [run_cons] at succeeds
      cases stepped : state.step maxDepth token with
      | error fault =>
          rw [stepped] at succeeds
          exact absurd succeeds (by simp)
      | ok next =>
          rw [stepped] at succeeds
          obtain ⟨left, isHeldNext, pendingNext, leads⟩ := leads_of_step isHeld pending stepped
          have others := inductionHypothesis isHeldNext pendingNext succeeds
          cases leads with
          | stutters first sameTags =>
              rw [sameTags]
              exact .stutter first others
          | handles tag first moreTags =>
              rw [moreTags]
              exact .tag first others

/-- A run over tokens goes through their tags, one after the other. -/
theorem reads_of_run {tokens : List Token} {final : State}
    (succeeds : State.run maxDepth {} tokens = .ok final) :
    Reads maxDepth {} (wholeTags tokens) final :=
  reads_of_run_held .nothing rfl succeeds

end State

end Nesting

end JsxFragment
