import JsxFragment.Proofs.Node.Event

/-!
# Balanced tags

A sequence of tags is well-formed if every start tag that waits for an end tag has one of its name,
and what stands between the two is well-formed itself. Reading such a sequence takes no more than a
stack of names: each end tag has to name the innermost one.
-/

namespace JsxFragment

open Text

/-! ## Tags -/

/-- A tag, as far as nesting looks at it. -/
inductive Tag where
  | start (name : String) (selfClosing : Bool)
  | finish (name : String)
  deriving DecidableEq, Repr

/-- The tag that an event tells of, if it is one. -/
def Event.tag? : Event → Option Tag
  | .startTag name selfClosing => some (.start name selfClosing)
  | .endTag name => some (.finish name)
  | .text _ | .comment _ | .doctype => none

/-- The tags of a token list, in order. -/
def Tag.ofLexemes (lexemes : List Lexeme) : List Tag :=
  (Event.ofLexemes lexemes).filterMap Event.tag?

/-- The well-formed sequences of tags. -/
inductive Balanced : List Tag → Prop
  | nil : Balanced []
  | append {first second : List Tag} (balancedFirst : Balanced first)
      (balancedSecond : Balanced second) : Balanced (first ++ second)
  | void {name : String} (selfClosing : Bool) (isVoid : isVoidTag name = true) :
      Balanced [.start name selfClosing]
  | selfClosing (name : String) : Balanced [.start name true]
  | element {name endName : String} {inner : List Tag} (notVoid : isVoidTag name = false)
      (balancedInner : Balanced inner) (sameName : lower name = lower endName) :
      Balanced (.start name false :: (inner ++ [.finish endName]))

/-! ## The stack of open tags -/

/-- The tags close all that is open, the innermost first, and nothing else. -/
def ClosesAll : List String → List Tag → Prop
  | opened, [] => opened = []
  | opened, .start name selfClosing :: rest =>
      ClosesAll (if isVoidTag name || selfClosing then opened else name :: opened) rest
  | opened, .finish name :: rest =>
      isVoidTag name = false ∧
        ∃ innermost outer, opened = innermost :: outer ∧ lower innermost = lower name ∧
          ClosesAll outer rest

theorem isVoidTag_of_lower_eq {first second : String} (sameName : lower first = lower second) :
    isVoidTag first = isVoidTag second := by
  simp only [isVoidTag, sameName]

theorem closesAll_finish_iff {innermost name : String} {outer : List String} {rest : List Tag} :
    ClosesAll (innermost :: outer) (.finish name :: rest) ↔
      isVoidTag name = false ∧ lower innermost = lower name ∧ ClosesAll outer rest := by
  constructor
  · rintro ⟨notVoid, _, _, equality, sameName, closes⟩
    cases equality
    exact ⟨notVoid, sameName, closes⟩
  · rintro ⟨notVoid, sameName, closes⟩
    exact ⟨notVoid, innermost, outer, rfl, sameName, closes⟩

/-- Balanced tags leave what is open as it is. -/
theorem Balanced.closesAll_append_iff {tags : List Tag} (balanced : Balanced tags) :
    ∀ opened rest, ClosesAll opened (tags ++ rest) ↔ ClosesAll opened rest := by
  induction balanced with
  | nil =>
      intro opened rest
      rfl
  | append _ _ firstHypothesis secondHypothesis =>
      intro opened rest
      rw [List.append_assoc, firstHypothesis, secondHypothesis]
  | void selfClosing isVoid =>
      intro opened rest
      simp [ClosesAll, isVoid]
  | selfClosing name =>
      intro opened rest
      simp [ClosesAll]
  | @element name endName inner notVoid _ sameName innerHypothesis =>
      intro opened rest
      have notVoidEnd : isVoidTag endName = false := by
        rw [← isVoidTag_of_lower_eq sameName, notVoid]
      have opens : (isVoidTag name || false) ≠ true := by simp [notVoid]
      rw [List.cons_append, List.append_assoc, ClosesAll, if_neg opens, innerHypothesis,
        List.singleton_append, closesAll_finish_iff]
      simp [notVoidEnd, sameName]

/-- The tags are balanced ones, then an end tag of the innermost open name, and so on until nothing
is open. -/
def Unwinds : List String → List Tag → Prop
  | [], tags => Balanced tags
  | innermost :: outer, tags =>
      ∃ inner endName rest, tags = inner ++ .finish endName :: rest ∧ Balanced inner ∧
        lower innermost = lower endName ∧ Unwinds outer rest

theorem Unwinds.prepend {opened : List String} {first rest : List Tag} (balanced : Balanced first)
    (unwinds : Unwinds opened rest) : Unwinds opened (first ++ rest) := by
  cases opened with
  | nil => exact balanced.append unwinds
  | cons innermost outer =>
      obtain ⟨inner, endName, others, rfl, balancedInner, sameName, unwindsOuter⟩ := unwinds
      exact ⟨first ++ inner, endName, others, by simp, balanced.append balancedInner, sameName,
        unwindsOuter⟩

theorem ClosesAll.unwinds {tags : List Tag} :
    ∀ {opened : List String}, ClosesAll opened tags → Unwinds opened tags := by
  induction tags with
  | nil =>
      rintro opened rfl
      exact Balanced.nil
  | cons tag rest inductionHypothesis =>
      intro opened closes
      cases tag with
      | start name selfClosing =>
          by_cases complete : (isVoidTag name || selfClosing) = true
          · rw [ClosesAll, if_pos complete] at closes
            have balanced : Balanced [.start name selfClosing] := by
              rcases Bool.or_eq_true_iff.mp complete with isVoid | rfl
              · exact .void selfClosing isVoid
              · exact .selfClosing name
            exact (inductionHypothesis closes).prepend balanced
          · rw [ClosesAll, if_neg complete] at closes
            obtain ⟨notVoid, rfl⟩ : isVoidTag name = false ∧ selfClosing = false := by
              simpa using complete
            obtain ⟨inner, endName, others, rfl, balancedInner, sameName, unwinds⟩ :=
              inductionHypothesis closes
            have balanced := Balanced.element notVoid balancedInner sameName
            simpa using unwinds.prepend balanced
      | finish name =>
          obtain ⟨_, innermost, outer, rfl, sameName, closesOuter⟩ := closes
          exact ⟨[], name, rest, rfl, .nil, sameName, inductionHypothesis closesOuter⟩

/-- The balanced sequences are those that a stack of names reads to its end. -/
theorem balanced_iff_closesAll (tags : List Tag) : Balanced tags ↔ ClosesAll [] tags := by
  constructor
  · intro balanced
    have closes := (balanced.closesAll_append_iff [] []).mpr rfl
    rwa [List.append_nil] at closes
  · intro closes
    exact closes.unwinds

/-! ## Names of attributes -/

/-- The names of the attributes before the next end of a tag. -/
def attributeNames (after : List Lexeme) : List String :=
  ((after.takeWhile (·.kind ≠ .tagEnd)).filter (·.kind = .attributeName)).map (·.value)

/-- No start tag of a token list has two attributes of one name, in any case. -/
def HaveDistinctNames (lexemes : List Lexeme) : Prop :=
  ∀ after, ⟨.tagStart, "<"⟩ :: after <:+ lexemes → ((attributeNames after).map lower).Nodup

theorem haveDistinctNames_nil : HaveDistinctNames [] := by
  intro after isSuffix
  exact absurd (List.suffix_nil.mp isSuffix) (by simp)

theorem haveDistinctNames_cons (lexeme : Lexeme) (rest : List Lexeme) :
    HaveDistinctNames (lexeme :: rest) ↔
      (lexeme = ⟨.tagStart, "<"⟩ → ((attributeNames rest).map lower).Nodup) ∧
        HaveDistinctNames rest := by
  constructor
  · intro distinct
    refine ⟨?_, fun after isSuffix => distinct after (isSuffix.trans (List.suffix_cons _ _))⟩
    rintro rfl
    exact distinct rest (List.suffix_refl _)
  · rintro ⟨atFirst, atRest⟩ after isSuffix
    rcases List.suffix_cons_iff.mp isSuffix with whole | inRest
    · injection whole with first others
      rw [others]
      exact atFirst first.symm
    · exact atRest after inRest

end JsxFragment
