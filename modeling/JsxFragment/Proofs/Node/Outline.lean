import JsxFragment.Node

/-!
# Walks in document order

A walk through a fragment is a fold over its nodes in document order. What is proved of all
fragments is proved by one induction over the first node and the nodes after it.
-/

namespace JsxFragment

namespace Node

/-! ## Induction -/

/-- Induction over a fragment: the first node is text, a comment, or an element with children of its
own. -/
@[elab_as_elim]
theorem fragmentInduction {motive : List Node → Prop} (nil : motive [])
    (text : ∀ content rest, motive rest → motive (.text content :: rest))
    (comment : ∀ content rest, motive rest → motive (.comment content :: rest))
    (element : ∀ head children rest,
      motive children → motive rest → motive (.element head children :: rest))
    (fragment : List Node) : motive fragment :=
  Node.rec_1 (motive_1 := fun node => ∀ rest, motive rest → motive (node :: rest))
    (motive_2 := motive)
    (fun head children forChildren rest forRest => element head children rest forChildren forRest)
    text comment nil (fun _ rest forNode forRest => forNode rest forRest) fragment

end Node

/-! ## The order of a walk -/

mutual

/-- A node and all below it in document order, each with the number of its ancestors. -/
def Node.visited (depth : Nat) : Node → List (Nat × Node)
  | .element head children =>
    (depth, .element head children) :: Node.visitedAll (depth + 1) children
  | .text content => [(depth, .text content)]
  | .comment content => [(depth, .comment content)]

/-- The nodes of a fragment in document order, each with the number of its ancestors. -/
def Node.visitedAll (depth : Nat) : List Node → List (Nat × Node)
  | [] => []
  | node :: rest => Node.visited depth node ++ Node.visitedAll depth rest

end

namespace Node

@[simp]
theorem visitedAll_nil (depth : Nat) : visitedAll depth [] = [] :=
  rfl

@[simp]
theorem visitedAll_cons (depth : Nat) (node : Node) (rest : List Node) :
    visitedAll depth (node :: rest) = visited depth node ++ visitedAll depth rest :=
  rfl

theorem visitedAll_append (depth : Nat) (first second : List Node) :
    visitedAll depth (first ++ second) = visitedAll depth first ++ visitedAll depth second := by
  induction first with
  | nil =>
      rfl
  | cons node rest inductionHypothesis =>
      simp [inductionHypothesis]

theorem walkAll_eq_foldl {α : Type _} (visit : α → Nat → Node → α) (fragment : List Node) :
    ∀ depth start,
      walkAll visit depth start fragment =
        (visitedAll depth fragment).foldl (fun seen place => visit seen place.1 place.2) start := by
  induction fragment using fragmentInduction with
  | nil => exact fun _ _ => rfl
  | text content rest forRest => exact fun depth start => forRest depth (visit start depth _)
  | comment content rest forRest => exact fun depth start => forRest depth (visit start depth _)
  | element head children rest forChildren forRest =>
      intro depth start
      unfold walkAll walk
      rw [forRest, forChildren, visitedAll_cons, visited, List.cons_append, List.foldl_cons,
        List.foldl_append]

theorem outline_eq_visitedAll (fragment : List Node) :
    outline fragment = visitedAll 0 fragment := by
  rw [outline, walkAll_eq_foldl, List.foldl_flip_cons_eq_append', List.append_nil,
    List.reverse_reverse]

/-! ## Members of a walk -/

theorem preorder_eq_map_visitedAll (depth : Nat) (fragment : List Node) :
    preorder fragment = (visitedAll depth fragment).map Prod.snd := by
  have forgets : ∀ first second,
      (visitedAll first fragment).map Prod.snd = (visitedAll second fragment).map Prod.snd := by
    induction fragment using fragmentInduction with
    | nil => exact fun _ _ => rfl
    | text content rest forRest | comment content rest forRest =>
        intro first second
        simpa [visited] using forRest first second
    | element head children rest forChildren forRest =>
        intro first second
        simp only [visitedAll_cons, visited, List.map_append, List.map_cons]
        rw [forChildren (first + 1) (second + 1), forRest first second]
  calc preorder fragment
    _ = (visitedAll 0 fragment).map Prod.snd := by
        rw [preorder, walkAll_eq_foldl, List.foldl_flip_cons_eq_append, List.append_nil,
          List.reverse_reverse]
    _ = (visitedAll depth fragment).map Prod.snd := forgets 0 depth

@[simp]
theorem preorder_nil : preorder [] = [] :=
  rfl

@[simp]
theorem preorder_append (first second : List Node) :
    preorder (first ++ second) = preorder first ++ preorder second := by
  simp [preorder_eq_map_visitedAll 0, visitedAll_append]

theorem preorder_cons (node : Node) (rest : List Node) :
    preorder (node :: rest) = preorder [node] ++ preorder rest :=
  preorder_append [node] rest

@[simp]
theorem preorder_text (content : String) : preorder [.text content] = [.text content] :=
  rfl

@[simp]
theorem preorder_comment (content : String) : preorder [.comment content] = [.comment content] :=
  rfl

@[simp]
theorem preorder_element (head : Head) (children : List Node) :
    preorder [.element head children] = .element head children :: preorder children := by
  rw [preorder_eq_map_visitedAll 0, preorder_eq_map_visitedAll 1 children]
  simp [visited]

theorem preorder_eq_map_outline (fragment : List Node) :
    preorder fragment = (outline fragment).map Prod.snd := by
  rw [outline_eq_visitedAll, preorder_eq_map_visitedAll 0]

end Node

end JsxFragment
