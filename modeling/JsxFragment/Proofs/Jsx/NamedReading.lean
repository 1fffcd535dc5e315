import JsxFragment.Proofs.Jsx.TagScan
import JsxFragment.Proofs.Jsx.TextReading

/-!
# Tags of any name

JSX has room for some tags alone, but an element is written with the tag that it has. A text is read
with given tags, of which each is taken as it is, and is otherwise read as JSX is.
-/

namespace JsxFragment.Jsx

/-- Reading a text in which there may be these tags leads from one state to another. -/
inductive ReadsWith (tags : String → Prop) : ReaderState → List Char → ReaderState → Prop
  | reads {state next : ReaderState} {text : List Char} (reads : Reads state text next) :
      ReadsWith tags state text next
  | append {state between next : ReaderState} {first second : List Char}
      (readsFirst : ReadsWith tags state first between)
      (readsSecond : ReadsWith tags between second next) :
      ReadsWith tags state (first ++ second) next
  | start {state next : ReaderState} {tag : String} {text : List Char}
      {attributes : List ChildAttribute} {isClosed : Bool} (isTag : tags tag)
      (scanned : ∀ rest, scanHead? (text ++ rest) = some ((attributes, isClosed), rest))
      (stepped : state.step? (.start tag attributes isClosed) = some next) :
      ReadsWith tags state ('<' :: (tag.toList ++ text)) next
  | closing {state next : ReaderState} {tag : String} (isTag : tags tag)
      (stepped : state.step? (.closing tag) = some next) :
      ReadsWith tags state (closingLine tag).toList next

namespace ReadsWith

variable {tags : String → Prop} {state next : ReaderState} {text : List Char}

/-- Where all tags are plain, it is the reader that reads them. -/
theorem reads_of_plain (readsWith : ReadsWith tags state text next)
    (plain : ∀ tag, tags tag → isPlainTag tag.toList = true) : Reads state text next := by
  induction readsWith with
  | reads reads => exact reads
  | append _ _ inFirst inSecond => exact inFirst.append inSecond
  | start isTag scanned stepped =>
      refine Reads.symbol _ (fun rest => ?_) stepped
      rw [List.cons_append, List.append_assoc]
      exact scanSymbol?_start (plain _ isTag) (scanned rest)
  | closing isTag stepped => exact Reads.symbol _ (scanSymbol?_closingLine (plain _ isTag)) stepped

/-- A reading of no text at all leads nowhere else. -/
theorem eq_of_nil (readsWith : ReadsWith tags state text next) (empty : text = []) :
    next = state := by
  induction readsWith with
  | reads reads =>
      subst empty
      exact reads.eq_of_nil
  | append _ _ inFirst inSecond =>
      obtain ⟨noFirst, noSecond⟩ := List.append_eq_nil_iff.mp empty
      rw [inSecond noSecond, inFirst noFirst]
  | start isTag scanned stepped => exact absurd empty (by simp)
  | closing isTag stepped => exact absurd empty (by simp [closingLine])

end ReadsWith

/-- The text of JSX, in which there may be these tags, stands for the children: by itself, or in the
outer fragment. -/
def StandsFor (tags : String → Prop) (jsx : String) (children : List Child) : Prop :=
  ∃ text next, (jsx.toList = text ∨ jsx.toList = '<' :: '>' :: (text ++ ['<', '/', '>'])) ∧
    ReadsWith tags {} text next ∧ next.outer = [] ∧ next.settled.reverse = children

theorem unwrap_eq_self {text : List Char} {state next : ReaderState}
    (accepted : state.readFrom? text = some next) : unwrap text = text := by
  unfold unwrap
  split
  · next rest =>
      have rejected : scanSymbol? ('<' :: '>' :: rest) = none := rfl
      rw [ReaderState.readFrom?.eq_def, rejected] at accepted
      exact absurd accepted (by simp)
  · rfl

theorem unwrap_fragment (text : List Char) :
    unwrap ('<' :: '>' :: (text ++ ['<', '/', '>'])) = text := by
  have isSuffix : ['<', '/', '>'].isSuffixOf (text ++ ['<', '/', '>']) = true := by
    rw [List.isSuffixOf_iff_suffix]
    exact List.suffix_append text _
  simp [unwrap, isSuffix]

/-- Where all tags are plain, the text stands for what it is read as, and for nothing else. -/
theorem StandsFor.read?_eq {tags : String → Prop} {jsx : String} {children : List Child}
    (standsFor : StandsFor tags jsx children)
    (plain : ∀ tag, tags tag → isPlainTag tag.toList = true) : read? jsx = some children := by
  obtain ⟨text, next, wrapping, readsWith, noneOpen, settled⟩ := standsFor
  have whole := (readsWith.reads_of_plain plain).readFrom?_eq
  have unwrapped : unwrap jsx.toList = text := by
    rcases wrapping with bare | wrapped
    · rw [bare, unwrap_eq_self whole]
    · rw [wrapped, unwrap_fragment]
  simp [read?, unwrapped, whole, noneOpen, settled]

end JsxFragment.Jsx
