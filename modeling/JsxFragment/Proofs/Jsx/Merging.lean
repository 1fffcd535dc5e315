import JsxFragment.Proofs.Jsx.RoundTrip

/-!
# Merging the texts of siblings

Siblings are merged from the last one on, each put onto what is merged already. So what comes of an
append depends on nothing but what comes of its parts, and a block parts what is before it from what
is after it.
-/

namespace JsxFragment.Jsx

open Text

/-! ## Siblings -/

/-- The siblings that are merged already, with one more before them. -/
def Sibling.onto (sibling : Sibling) (merged : List Sibling) : List Sibling :=
  match sibling, merged with
  | .text content, .text next :: others => .text (content ++ next) :: others
  | _, _ => sibling :: merged

theorem mergeTexts_cons_eq_onto (sibling : Sibling) (rest : List Sibling) :
    mergeTexts (sibling :: rest) = sibling.onto (mergeTexts rest) :=
  rfl

/-- A text in two parts is merged as the whole text is. -/
theorem onto_append (first second : String) (merged : List Sibling) :
    Sibling.onto (.text (first ++ second)) merged =
      Sibling.onto (.text first) (Sibling.onto (.text second) merged) := by
  cases merged with
  | nil => rfl
  | cons next others =>
      cases next with
      | block block => rfl
      | text following => rw [Sibling.onto, Sibling.onto, Sibling.onto, String.append_assoc]

theorem foldr_onto_onto (sibling : Sibling) (first second : List Sibling) :
    (sibling.onto first).foldr Sibling.onto second =
      sibling.onto (first.foldr Sibling.onto second) := by
  cases sibling with
  | block block => rfl
  | text content =>
      cases first with
      | nil => rfl
      | cons next others =>
          cases next with
          | block block => rfl
          | text following => exact onto_append content following _

theorem mergeTexts_append (first second : List Sibling) :
    mergeTexts (first ++ second) = (mergeTexts first).foldr Sibling.onto (mergeTexts second) := by
  induction first with
  | nil => rfl
  | cons sibling rest inductionHypothesis =>
      rw [List.cons_append, mergeTexts_cons_eq_onto, inductionHypothesis, mergeTexts_cons_eq_onto,
        foldr_onto_onto]

theorem onto_append_block (sibling : Sibling) (before after : List Sibling) (block : Block) :
    sibling.onto (before ++ .block block :: after) =
      sibling.onto before ++ .block block :: after := by
  cases sibling with
  | block own => rfl
  | text content =>
      cases before with
      | nil => rfl
      | cons next others => cases next <;> rfl

theorem mergeTexts_append_block (before after : List Sibling) (block : Block) :
    mergeTexts (before ++ .block block :: after) =
      mergeTexts before ++ .block block :: mergeTexts after := by
  induction before with
  | nil => rfl
  | cons sibling rest inductionHypothesis =>
      rw [List.cons_append, mergeTexts_cons_eq_onto, inductionHypothesis, onto_append_block,
        mergeTexts_cons_eq_onto]

/-! ## Texts among siblings -/

/-- The text that a sibling is. -/
def Sibling.text? : Sibling → Option String
  | .text content => some content
  | .block _ => none

/-- The sibling without what its block holds. -/
def Sibling.hollow : Sibling → Sibling
  | .text content => .text content
  | .block _ => .block (.line "")

theorem mergeTexts_map_hollow (siblings : List Sibling) :
    mergeTexts (siblings.map Sibling.hollow) = (mergeTexts siblings).map Sibling.hollow := by
  induction siblings with
  | nil => rfl
  | cons sibling rest inductionHypothesis =>
      rw [List.map_cons, mergeTexts_cons_eq_onto, inductionHypothesis, mergeTexts_cons_eq_onto]
      cases sibling with
      | block block => rfl
      | text content =>
          cases mergeTexts rest with
          | nil => rfl
          | cons next others => cases next <;> rfl

theorem filterMap_text?_map_hollow (siblings : List Sibling) :
    (siblings.map Sibling.hollow).filterMap Sibling.text? = siblings.filterMap Sibling.text? := by
  rw [List.filterMap_map]
  congr 1
  funext sibling
  cases sibling <;> rfl

/-- The texts directly among some nodes are those among their merged siblings. -/
theorem directTexts_eq_filterMap (keepComments preformatted : Bool) (nodes : List Node) :
    directTexts keepComments nodes =
      (mergeTexts (nodes.filterMap (sibling? keepComments preformatted))).filterMap
        Sibling.text? := by
  -- Where texts are merged for decoding, blocks are left empty; that changes none of the texts.
  rw [← filterMap_text?_map_hollow, ← mergeTexts_map_hollow, List.map_filterMap]
  unfold directTexts
  dsimp only
  congr 3
  funext node
  cases node with
  | text content => simp [Sibling.hollow]
  | comment content => cases keepComments <;> simp [Sibling.hollow]
  | element head children =>
      rw [sibling?_element]
      rfl

end JsxFragment.Jsx

namespace JsxFragment.Node

/-! ## Texts among nodes -/

/-- The text that a node is. -/
def text? : Node → Option String
  | .text content => some content
  | _ => none

theorem textContent_eq_join (fragment : List Node) :
    textContent fragment = String.join ((preorder fragment).filterMap text?) := by
  have adds (places : List (Nat × Node)) : ∀ start,
      places.foldl
          (fun text place =>
            match place.2 with
            | .text content => text ++ content
            | _ => text) start =
        start ++ String.join (places.filterMap fun place => place.2.text?) := by
    induction places with
    | nil => simp
    | cons place rest inductionHypothesis =>
        intro start
        rw [List.foldl_cons, inductionHypothesis]
        rcases place with ⟨depth, _ | _ | _⟩ <;> simp [text?, String.append_assoc]
  rw [textContent, walkAll_eq_foldl, preorder_eq_map_visitedAll 0, List.filterMap_map]
  exact (adds (visitedAll 0 fragment) "").trans (String.empty_append)

theorem textContent_append (first second : List Node) :
    textContent (first ++ second) = textContent first ++ textContent second := by
  simp [textContent_eq_join]

theorem textContent_cons (node : Node) (rest : List Node) :
    textContent (node :: rest) = textContent [node] ++ textContent rest :=
  textContent_append [node] rest

theorem textContent_text (content : String) : textContent [.text content] = content :=
  String.empty_append

theorem textContent_comment (content : String) : textContent [.comment content] = "" :=
  rfl

theorem textContent_element (head : Head) (children : List Node) :
    textContent [.element head children] = textContent children := by
  rw [textContent_eq_join, preorder_element, textContent_eq_join]
  rfl

end JsxFragment.Node
