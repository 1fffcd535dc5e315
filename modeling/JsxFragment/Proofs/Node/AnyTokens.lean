import JsxFragment.Proofs.Conversion.Failure
import JsxFragment.Proofs.Node.TagRun

/-!
# Any tokens

Tokens may be nested that no text has: values without a name, tags inside of tags, ends without a
beginning. Only the limit on the nesting can stop them, and the elements are those of the whole tags
among them.
-/

namespace JsxFragment

open Text Number

/-! ## Heads -/

/-- What the node says of its element, if it is one. -/
def Node.head? : Node → Option Head
  | .element head _ => some head
  | _ => none

/-- What the elements of a fragment say, in document order. -/
def Node.heads (fragment : List Node) : List Head :=
  (preorder fragment).filterMap head?

theorem map_snd_placedHeads (depth : Nat) (nodes : List Node) :
    (placedHeads depth nodes).map Prod.snd = Node.heads nodes := by
  rw [placedHeads, Node.heads, Node.preorder_eq_map_visitedAll depth, List.filterMap_map,
    List.map_filterMap]
  apply List.filterMap_congr
  rintro ⟨place, node⟩ _
  cases node <;> rfl

theorem countElements_eq_length_heads (nodes : List Node) :
    Node.countElements nodes = (Node.heads nodes).length := by
  have counts (places : List (Nat × Node)) :
      ∀ start, places.foldl
        (fun count place => if place.2.isElement then count + 1 else count) start =
          start + (places.filterMap (Node.head? ∘ Prod.snd)).length := by
    induction places with
    | nil => exact fun _ => rfl
    | cons place rest inductionHypothesis =>
        obtain ⟨depth, node⟩ := place
        intro start
        rw [List.foldl_cons, inductionHypothesis]
        cases node with
        | element head children => exact Nat.add_right_comm start 1 _
        | text content | comment content => rfl
  rw [Node.countElements, Node.walkAll_eq_foldl, counts, Nat.zero_add, Node.heads,
    Node.preorder_eq_map_visitedAll 0, List.filterMap_map]

/-- What may be said of an element that was read: it has a name, which tells whether it is void, and
no content if it is void or its tag is self-closing. -/
def Node.IsWellFormed : Node → Prop
  | .element head children =>
      head.tag ≠ "" ∧ head.isVoid = isVoidTag head.tag ∧
        ((head.isVoid || head.selfClosing) = true → children = [])
  | _ => True

namespace Nesting.State

theorem splitRepeated_fst_eq_firstOccurrences (attributes : List Attribute) :
    (splitRepeated attributes).1 = firstOccurrences [] attributes := by
  have sameNames : ∀ seen earlier : List String, (∀ name, name ∈ seen ↔ name ∈ earlier) →
      (splitFrom seen attributes).1 = firstOccurrences earlier attributes := by
    induction attributes with
    | nil => exact fun _ _ _ => rfl
    | cons given rest inductionHypothesis =>
        intro seen earlier same
        rw [splitFrom, firstOccurrences]
        by_cases isSeen : lower given.name ∈ seen
        · rw [if_pos isSeen, if_pos ((same _).mp isSeen)]
          apply inductionHypothesis
          -- The repeated name is among the earlier ones, so it makes no difference there.
          intro name
          rw [List.mem_cons, ← same]
          constructor
          · exact Or.inr
          · rintro (rfl | member)
            · exact isSeen
            · exact member
        · rw [if_neg isSeen, if_neg fun member => isSeen ((same _).mpr member)]
          dsimp only
          rw [inductionHypothesis]
          intro name
          rw [List.mem_cons, List.mem_cons, same]
  rw [splitRepeated_eq_splitFrom]
  exact sameNames [] [] fun _ => Iff.rfl

theorem head_pending (tag : WholeTag) : tag.pending.head tag.selfClosing = tag.head := by
  have attributes : (splitRepeated tag.pending.attributes.reverse).1 =
      firstOccurrences [] (attributesOf tag.inner) := by
    rw [splitRepeated_fst_eq_firstOccurrences, WholeTag.pending, List.reverse_reverse]
  rw [PendingTag.head, attributes]
  rfl

/-! ## Elements of tags -/

variable {maxDepth : Amount} {state next final : State}

theorem places_startTag {tag : PendingTag} {selfClosing : Bool}
    (succeeds : startTag maxDepth state tag selfClosing = .ok next) :
    next.places = state.places ++ [(state.stack.length, tag.head selfClosing)] := by
  rcases startTag_cases succeeds with ⟨_, rfl⟩ | ⟨stays, _, rfl⟩
  · rw [places_append, placedHeads_element, placedHeads_nil, stack_noteRepetitions]
    rfl
  · obtain ⟨notVoid, notClosed⟩ := Bool.or_eq_false_iff.mp stays
    rw [PendingTag.head, notVoid, notClosed]
    simp [places, openElement, openPlaces, noteRepetitions, openedElement, OpenElement.head]

theorem heads_handles {tag : WholeTag} (handles : Handles maxDepth state tag next) :
    next.places.map Prod.snd =
      state.places.map Prod.snd ++ ([tag].filter (·.startsElement)).map WholeTag.head := by
  cases handles with
  | nameless unnamed =>
      rw [List.filter_singleton, WholeTag.startsElement, unnamed]
      simp [places]
  | startTag named isStart succeeds =>
      have starts : tag.startsElement = true := by
        simp [WholeTag.startsElement, isStart, named]
      rw [List.filter_singleton, starts, places_startTag succeeds, List.map_append, head_pending]
      rfl
  | endTag named isEnd =>
      rw [List.filter_singleton, WholeTag.startsElement, isEnd, places_endTag]
      simp [places]

/-- Each start tag with a name adds its element after all others. -/
theorem heads_reads {tags : List WholeTag} (reads : Reads maxDepth state tags final) :
    final.places.map Prod.snd =
      state.places.map Prod.snd ++ (tags.filter (·.startsElement)).map WholeTag.head := by
  induction reads with
  | nil => simp
  | stutter first _ inductionHypothesis => rw [inductionHypothesis, first.places]
  | @tag _ _ _ tag tags first _ inductionHypothesis =>
      rw [inductionHypothesis, heads_handles first, List.append_assoc, ← List.map_append,
        ← List.filter_append]
      rfl

theorem heads_of_run {tokens : List Token}
    (succeeds : State.run maxDepth {} tokens = .ok final) :
    Node.heads final.finish.roots.reverse =
      ((wholeTags tokens).filter (·.startsElement)).map WholeTag.head := by
  rw [← map_snd_placedHeads 0, places_finish, heads_reads (reads_of_run succeeds)]
  rfl

/-! ## Where the run stops -/

/-- A run stops only where as many elements are open as the limit allows. -/
theorem fault_of_run {tokens : List Token} {fault : NestingFault}
    (fails : state.run maxDepth tokens = .error fault) :
    ∃ before last, before <+: tokens ∧ state.run maxDepth before = .ok last ∧
      maxDepth.reachedBy last.stack.length = true ∧
        fault.limit = maxDepth ∧ fault.depth = last.stack.length + 1 := by
  induction tokens generalizing state with
  | nil => exact absurd fails (by simp [run])
  | cons token rest inductionHypothesis =>
      have further {next : State} (stepped : state.step maxDepth token = .ok next)
          (fails : next.run maxDepth rest = .error fault) :
          ∃ before last, before <+: token :: rest ∧ state.run maxDepth before = .ok last ∧
            maxDepth.reachedBy last.stack.length = true ∧
              fault.limit = maxDepth ∧ fault.depth = last.stack.length + 1 := by
        obtain ⟨before, last, isPrefix, ran, stops⟩ := inductionHypothesis fails
        refine ⟨token :: before, last, List.cons_prefix_cons.mpr ⟨rfl, isPrefix⟩, ?_, stops⟩
        rw [run_cons_of_step stepped, ran]
      obtain ⟨next, settles | opens⟩ := settles_or_opens state token
      · rw [run_cons_of_step (settles.step_eq _)] at fails
        exact further (settles.step_eq _) fails
      · obtain ⟨tag, step⟩ := opens.step_eq
        by_cases reached : maxDepth.reachedBy state.stack.length = true
        · rw [run_cons, step, if_pos reached, Except.error.injEq] at fails
          subst fails
          exact ⟨[], state, List.nil_prefix, rfl, reached, rfl, rfl⟩
        · have stepped : state.step maxDepth token = .ok next := by rw [step, if_neg reached]
          rw [run_cons_of_step stepped] at fails
          exact further stepped fails

end Nesting.State

/-! ## Whole readings -/

theorem isWellFormed_of_startTag {name : String} (named : name ≠ "") (attributes : List Attribute)
    (selfClosing : Bool) :
    Nesting.State.AdmitsTag Node.IsWellFormed (.startTag name attributes selfClosing) :=
  fun _ complete => ⟨named, rfl, complete⟩

theorem isWellFormed_of_run {maxDepth : Amount} {tokens : List Token} {state : Nesting.State}
    (succeeds : Nesting.State.run maxDepth {} tokens = .ok state) :
    ∀ node ∈ Node.preorder state.finish.roots.reverse, node.IsWellFormed := by
  have keeps : state.Keeps Node.IsWellFormed :=
    Nesting.State.keeps_run succeeds (fun _ => trivial) (fun _ => trivial)
      Nesting.State.keeps_empty
      fun name attributes selfClosing named => isWellFormed_of_startTag named attributes selfClosing
  exact Nesting.State.forall_mem_preorder_of_keeps keeps fun _ => trivial

/-- The elements, the records and the reports that are made up to here pass the checks on them. -/
structure Nesting.State.PassesChecks (state : Nesting.State) : Prop where
  elements : ∀ node ∈ Node.preorder state.finish.roots.reverse, node.PassesCheck
  recoveries : ∀ recovery ∈ state.finish.recoveries, recovery.record.check = .ok recovery.record
  reports : ∀ correlationId, ∀ note ∈ state.finish.notes,
    (Diagnostic.ofNote correlationId note).check = .ok (.ofNote correlationId note)

/-- All that is made while the tokens are nested passes its check, also if the limit on the nesting
stops this. -/
def NestingPasses (maxDepth : Amount) (tokens : List Token) : Prop :=
  ∀ before after state, tokens = before ++ after →
    Nesting.State.run maxDepth {} before = .ok state → state.PassesChecks

theorem nestingPasses (maxDepth : Amount) (tokens : List Token) :
    NestingPasses maxDepth tokens := by
  intro before after state _ succeeds
  constructor
  · exact passesCheck_of_run succeeds
  · exact fun recovery _ => recovery.check_record
  · exact fun correlationId note _ => Diagnostic.check_ofNote correlationId note

/-- What holds of every reading of the tokens. The elements are those of the whole start tags with a
name, in order. -/
structure Reading.IsSound (reading : Reading) (tokens : List Token) : Prop where
  reports : ∀ correlationId, ∀ diagnostic ∈ reading.diagnostics correlationId,
    diagnostic.check = .ok diagnostic
  elements : ∀ node ∈ Node.preorder reading.nodes, node.IsWellFormed
  heads : Node.heads reading.nodes =
    ((wholeTags tokens).filter (·.startsElement)).map WholeTag.head

/-- Whatever the tokens are, they are nested, or one of them would open an element where as many are
open as the limit allows. -/
theorem ofTokens_total (maxDepth : Amount) (tokens : List Token)
    (tokenRepairs : List TokenRepair) :
    NestingPasses maxDepth tokens ∧
      match Reading.ofTokens maxDepth tokens tokenRepairs with
      | .error failure =>
          ∃ before state, before <+: tokens ∧ Nesting.State.run maxDepth {} before = .ok state ∧
            maxDepth.reachedBy state.stack.length = true ∧
              failure.exhaustion? =
                some
                  { resource := "nesting_depth", limit := maxDepth,
                    observed := state.stack.length + 1 }
      | .ok reading => reading.IsSound tokens := by
  refine ⟨nestingPasses maxDepth tokens, ?_⟩
  unfold Reading.ofTokens Fragment.ofTokens
  cases ran : Nesting.State.run maxDepth {} tokens with
  | error fault =>
      obtain ⟨before, state, isPrefix, ranBefore, reached, limit, observed⟩ :=
        Nesting.State.fault_of_run ran
      refine ⟨before, state, isPrefix, ranBefore, reached, ?_⟩
      rw [← limit, ← observed]
      rfl
  | ok state =>
      exact
        { reports := Reading.check_diagnostics _
          elements := isWellFormed_of_run ran
          heads := Nesting.State.heads_of_run ran }

/-- A tag inside of another one replaces it, and a value before all names is of no attribute. -/
example :
    let place := Position.first
    let tokens : List Token :=
      [⟨.tagStart, "<", place⟩, ⟨.tagName, "a", place⟩, ⟨.tagStart, "<", place⟩,
        ⟨.attributeValue, "0", place⟩, ⟨.attributeName, "k", place⟩, ⟨.comment, "c", place⟩,
        ⟨.attributeValue, "1", place⟩, ⟨.tagName, "b", place⟩, ⟨.attributeName, "K", place⟩,
        ⟨.tagEnd, ">", place⟩, ⟨.tagEnd, ">", place⟩]
    (Reading.ofTokens (.whole 1) tokens []).toOption.map (fun reading => Node.heads reading.nodes) =
      some [{ tag := "b", attributes := [{ name := "k", value := "1" }] }] := by
  rfl

end JsxFragment
