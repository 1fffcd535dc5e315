import JsxFragment.Proofs.Jsx.WrittenTags

/-!
# Parts that nest like brackets

The output is made of parts, each on lines of its own and as deep as the elements that it stands in.
The tags of an element that does not fit on one line are a pair of brackets: what is between them is
one step deeper than they are.
-/

namespace JsxFragment.Jsx

/-! ## Parts -/

/-- A part of the output, which is indented as a whole. -/
inductive Part where
  | opening (head : Head)
  | closing (head : Head)
  /-- An element on one line, with its content if it has any. -/
  | element (head : Head) (content : Option String)
  | leaf (text : String)
  | fragmentOpening
  | fragmentClosing

namespace Part

/-- The text of a part, without its indentation. -/
def text : Part → String
  | opening head => openingLine (tagName head.tag) (writeAttributes head.attributes)
  | closing head => closingLine (tagName head.tag)
  | element head none => emptyElement (tagName head.tag) (writeAttributes head.attributes)
  | element head (some content) =>
    openingLine (tagName head.tag) (writeAttributes head.attributes) ++ content
      ++ closingLine (tagName head.tag)
  | leaf text => text
  | fragmentOpening => "<>"
  | fragmentClosing => "</>"

/-- The head of the element that begins with a part. -/
def head? : Part → Option Head
  | opening head => some head
  | element head _ => some head
  | closing _ | leaf _ | fragmentOpening | fragmentClosing => none

/-- The line that a part is, if it is as deep as this. -/
def line (part : Nat × Part) : Nat × String :=
  (part.1, part.2.text)

end Part

/-- The heads of the elements that begin among some parts, in their order. -/
def headsOf (parts : List (Nat × Part)) : List Head :=
  parts.filterMap fun part => part.2.head?

theorem headsOf_append (first second : List (Nat × Part)) :
    headsOf (first ++ second) = headsOf first ++ headsOf second :=
  List.filterMap_append

/-! ## Brackets -/

/-- The parts nest like brackets, with this depth and this number of parts outside all brackets. An
element is on one line, or its tags are brackets around something one step deeper. -/
inductive Bracketed : Nat → Nat → List (Nat × Part) → Prop
  | nil (depth : Nat) : Bracketed depth 0 []
  | leaf {depth count : Nat} {text : String} {rest : List (Nat × Part)} (isLeaf : IsLeaf text)
      (others : Bracketed depth count rest) :
      Bracketed depth (count + 1) ((depth, .leaf text) :: rest)
  | element {depth count : Nat} {rest : List (Nat × Part)} (head : Head) {content : Option String}
      (isLeaf : ∀ text ∈ content, IsLeaf text) (others : Bracketed depth count rest) :
      Bracketed depth (count + 1) ((depth, .element head content) :: rest)
  | nest {depth within count : Nat} {content rest : List (Nat × Part)} (head : Head)
      (inner : Bracketed (depth + 1) (within + 1) content) (others : Bracketed depth count rest) :
      Bracketed depth (count + 1)
        ((depth, .opening head) :: (content ++ (depth, .closing head) :: rest))

theorem Bracketed.append {depth first second : Nat} {parts others : List (Nat × Part)}
    (bracketed : Bracketed depth first parts) (following : Bracketed depth second others) :
    Bracketed depth (first + second) (parts ++ others) := by
  induction bracketed with
  | nil depth => simpa using following
  | leaf isLeaf _ inductionHypothesis =>
      rw [Nat.succ_add]
      exact .leaf isLeaf (inductionHypothesis following)
  | element head isLeaf _ inductionHypothesis =>
      rw [Nat.succ_add]
      exact .element head isLeaf (inductionHypothesis following)
  | nest head inner _ _ inductionHypothesis =>
      rw [Nat.succ_add, List.cons_append, List.append_assoc, List.cons_append]
      exact .nest head inner (inductionHypothesis following)

theorem Bracketed.depth_le {depth count : Nat} {parts : List (Nat × Part)}
    (bracketed : Bracketed depth count parts) : ∀ part ∈ parts, depth ≤ part.1 := by
  induction bracketed with
  | nil depth => simp
  | leaf isLeaf _ inductionHypothesis =>
      exact List.forall_mem_cons.mpr ⟨Nat.le_refl _, inductionHypothesis⟩
  | element head isLeaf _ inductionHypothesis =>
      exact List.forall_mem_cons.mpr ⟨Nat.le_refl _, inductionHypothesis⟩
  | nest head _ _ forInner forOthers =>
      rw [List.forall_mem_cons, List.forall_mem_append, List.forall_mem_cons]
      exact ⟨Nat.le_refl _, fun part member => Nat.le_of_succ_le (forInner part member),
        Nat.le_refl _, forOthers⟩

/-! ## Closing -/

/-- Every opening part is followed by deeper parts, of which those outside all brackets are one step
deeper, and then by the part that closes it. -/
def IsClosed (parts : List (Nat × Part)) : Prop :=
  ∀ before depth head after, parts = before ++ (depth, .opening head) :: after →
    ∃ within inner rest, after = inner ++ (depth, .closing head) :: rest ∧
      Bracketed (depth + 1) (within + 1) inner ∧ ∀ part ∈ inner, depth < part.1

theorem isClosed_nil : IsClosed [] := by
  intro before depth head after split
  exact absurd split (by simp)

theorem IsClosed.cons {depth : Nat} {part : Part} {rest : List (Nat × Part)}
    (notOpening : ∀ head, part ≠ .opening head) (closed : IsClosed rest) :
    IsClosed ((depth, part) :: rest) := by
  intro before openDepth head after split
  cases before with
  | nil => exact absurd (Prod.ext_iff.mp (List.cons.inj split).1).2 (notOpening head)
  | cons first others => exact closed others openDepth head after (List.cons.inj split).2

theorem IsClosed.append {first second : List (Nat × Part)} (closed : IsClosed first)
    (others : IsClosed second) : IsClosed (first ++ second) := by
  intro before depth head after split
  -- An opening part among the first ones is closed there, whatever comes behind.
  rcases List.append_eq_append_iff.mp split with ⟨middle, isBefore, isSecond⟩ | ⟨middle, isFirst, rest⟩
  · exact others middle depth head after isSecond
  · cases middle with
    | nil =>
        exact others [] depth head after rest.symm
    | cons part inFirst =>
        obtain ⟨rfl, rfl⟩ := List.cons.inj rest
        obtain ⟨within, inner, following, rfl, bracketed, deeper⟩ :=
          closed before depth head inFirst isFirst
        exact ⟨within, inner, following ++ second, by simp, bracketed, deeper⟩

theorem IsClosed.nest {depth within : Nat} {head : Head} {content rest : List (Nat × Part)}
    (inner : Bracketed (depth + 1) (within + 1) content) (closed : IsClosed content)
    (others : IsClosed rest) :
    IsClosed ((depth, .opening head) :: (content ++ (depth, .closing head) :: rest)) := by
  have following : IsClosed (content ++ (depth, .closing head) :: rest) :=
    closed.append (others.cons (by simp))
  intro before openDepth openHead after split
  cases before with
  | nil =>
      obtain ⟨same, rfl⟩ := List.cons.inj split
      obtain ⟨rfl, sameHead⟩ := Prod.ext_iff.mp same
      cases sameHead
      exact ⟨within, content, rest, rfl, inner, inner.depth_le⟩
  | cons first behind => exact following behind openDepth openHead after (List.cons.inj split).2

theorem Bracketed.isClosed {depth count : Nat} {parts : List (Nat × Part)}
    (bracketed : Bracketed depth count parts) : IsClosed parts := by
  induction bracketed with
  | nil depth => exact isClosed_nil
  | leaf isLeaf _ inductionHypothesis => exact inductionHypothesis.cons (by simp)
  | element head isLeaf _ inductionHypothesis => exact inductionHypothesis.cons (by simp)
  | nest head inner _ forInner forOthers => exact IsClosed.nest inner forInner forOthers

/-! ## Whole outputs -/

/-- The parts of a whole output. There is at most one outside all brackets: where the fragment has
more, they stand in brackets of their own. -/
inductive IsLayout : List (Nat × Part) → Prop
  | bare {count : Nat} {parts : List (Nat × Part)} (bracketed : Bracketed 0 count parts)
      (atMostOne : count ≤ 1) : IsLayout parts
  | fragment {count : Nat} {parts : List (Nat × Part)} (bracketed : Bracketed 1 count parts)
      (several : 1 < count) :
      IsLayout ((0, .fragmentOpening) :: (parts ++ [(0, .fragmentClosing)]))

theorem IsLayout.isClosed {parts : List (Nat × Part)} (layout : IsLayout parts) :
    IsClosed parts := by
  cases layout with
  | bare bracketed _ => exact bracketed.isClosed
  | fragment bracketed _ =>
      exact (bracketed.isClosed.append (isClosed_nil.cons (by simp))).cons (by simp)

end JsxFragment.Jsx
