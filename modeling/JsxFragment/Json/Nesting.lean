import JsxFragment.Json.Reader

/-!
How deep a JSON text may be nested. Main statement: a reader with room for as many levels as the text
has characters refuses no text for its depth.
-/

namespace JsxFragment.Json

/-- What is read is not refused for being nested too deep. -/
def NotTooDeep {α : Type} (reading : Reading α) : Prop :=
  ∀ container, reading ≠ .error (.nestedTooDeep container)

/-! ## Parts that hold no others -/

theorem readUnicodeEscape_notTooDeep (text : List Char) : NotTooDeep (readUnicodeEscape text) := by
  intro container
  unfold readUnicodeEscape
  grind

theorem readString_notTooDeep (start : List Char) (fuel : Nat) (read text : List Char) :
    NotTooDeep (readString start fuel read text) := by
  induction fuel generalizing read text with
  | zero =>
      intro container
      simp [readString]
  | succ fuel inductionHypothesis =>
      intro container
      have escape := readUnicodeEscape_notTooDeep
      unfold NotTooDeep at *
      unfold readString
      grind

theorem readNumber_notTooDeep (maxDigits : Nat) (text : List Char) :
    NotTooDeep (readNumber maxDigits text) := by
  intro container
  unfold readNumber
  grind

/-! ## Values -/

/-- With room for half as many levels as there is fuel, the fuel ends first. -/
theorem read_notTooDeep (maxDigits fuel : Nat) :
    (∀ room text, fuel ≤ 2 * room → NotTooDeep (readValue maxDigits fuel room text)) ∧
      (∀ room read text, fuel ≤ 2 * room + 1 →
        NotTooDeep (readItems maxDigits fuel room read text)) ∧
        ∀ room read text, fuel ≤ 2 * room + 1 →
          NotTooDeep (readMembers maxDigits fuel room read text) := by
  induction fuel with
  | zero =>
      refine ⟨?_, ?_, ?_⟩ <;> intros <;> intro container <;>
        simp [readValue, readItems, readMembers]
  | succ fuel inductionHypothesis =>
      obtain ⟨values, items, members⟩ := inductionHypothesis
      have strings := readString_notTooDeep
      have numbers := readNumber_notTooDeep maxDigits
      unfold NotTooDeep at *
      refine ⟨?_, ?_, ?_⟩
      · intro room text enough container
        unfold readValue
        grind
      · intro room read text enough container
        unfold readItems
        grind
      · intro room read text enough container
        unfold readMembers
        split
        · split
          · grind
          · split
            · split
              · grind
              · split <;> grind
            · grind
        · grind

/-- A text is never refused for being nested too deep where there is no limit on it. -/
theorem parse_ne_nestedTooDeep (s : String) (container : JsonContainer) :
    parse s ≠ .error (.nestedTooDeep container) := by
  have values :=
    (read_notTooDeep Number.maxDecimalDigits (2 * (s.length + 1))).1 (s.length + 1)
      (skipGap s.toList) (Nat.le_refl _)
  unfold NotTooDeep at values
  unfold parse parseWithin readText
  simp only [String.length_toList]
  split
  · simp
  · split
    · rename_i stop refused
      cases stop <;> simp_all [Stop.toFault]
    · split <;> simp [Stop.toFault]

end JsxFragment.Json
