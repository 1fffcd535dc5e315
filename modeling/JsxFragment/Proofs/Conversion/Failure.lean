import JsxFragment.Config.Reader
import JsxFragment.Node.RepairRecord
import JsxFragment.Proofs.Jsx.Overlong
import JsxFragment.Proofs.Node.Attached

/-!
# Why conversions fail

A conversion makes records of many kinds, and each kind has a check that could refuse a record. None
does, whatever the text is. So a conversion fails by a limit, unless the indentation is no whole
number of blanks or a preformatted text has a reference with too many digits.
-/

namespace JsxFragment

open Number

/-! ## Records -/

/-- The record of a recovery. -/
def Recovery.record (recovery : Recovery) : RepairRecord :=
  { label := recovery.cause.label
    description := recovery.cause.description
    tag := some recovery.cause.tag }

theorem append_ne_empty (first : String) {second : String} (nonempty : second ≠ "") :
    first ++ second ≠ "" := by
  simp [nonempty]

theorem RecoveryCause.label_ne_empty (cause : RecoveryCause) : cause.label ≠ "" := by
  cases cause <;> simp [label]

theorem RecoveryCause.description_ne_empty (cause : RecoveryCause) : cause.description ≠ "" := by
  cases cause <;> exact append_ne_empty _ (by decide)

theorem TokenRepairCause.description_ne_empty (cause : TokenRepairCause) :
    cause.description ≠ "" := by
  cases cause with
  | unterminatedRawText element content => exact append_ne_empty _ (by decide)
  | _ => simp [description]

theorem Jsx.Notice.message_ne_empty (notice : Jsx.Notice) : notice.message ≠ "" := by
  cases notice <;> exact append_ne_empty _ (by decide)

theorem Recovery.check_record (recovery : Recovery) :
    recovery.record.check = .ok recovery.record := by
  have label : recovery.record.label ≠ "" := recovery.cause.label_ne_empty
  have description : recovery.record.description ≠ "" := recovery.cause.description_ne_empty
  unfold RepairRecord.check
  rw [if_neg label, if_neg description]

namespace Diagnostic

theorem check_eq_ok {diagnostic : Diagnostic} (message : diagnostic.message ≠ "")
    (component : diagnostic.component ≠ "") : diagnostic.check = .ok diagnostic := by
  unfold check
  rw [if_neg message, if_neg component]

theorem check_ofTokenRepair (correlationId : Option String) (repair : TokenRepair) :
    (ofTokenRepair correlationId repair).check = .ok (ofTokenRepair correlationId repair) :=
  check_eq_ok repair.cause.description_ne_empty (by simp [ofTokenRepair])

theorem check_ofNoTokens (correlationId : Option String) :
    (ofNoTokens correlationId).check = .ok (ofNoTokens correlationId) :=
  check_eq_ok (by simp [ofNoTokens]) (by simp [ofNoTokens])

theorem check_ofNote (correlationId : Option String) (note : Note) :
    (ofNote correlationId note).check = .ok (ofNote correlationId note) := by
  cases note with
  | recovered recovery =>
      exact check_eq_ok recovery.cause.description_ne_empty (by simp [ofNote])
  | doctypeDropped doctype position =>
      exact check_eq_ok (by simp [ofNote]) (by simp [ofNote])

theorem check_ofNotice (correlationId : Option String) (notice : Jsx.Notice) :
    (ofNotice correlationId notice).check = .ok (ofNotice correlationId notice) :=
  check_eq_ok notice.message_ne_empty (by simp [ofNotice])

end Diagnostic

theorem Reading.check_diagnostics (reading : Reading) (correlationId : Option String) :
    ∀ diagnostic ∈ reading.diagnostics correlationId, diagnostic.check = .ok diagnostic := by
  unfold diagnostics
  simp only [List.forall_mem_append, List.forall_mem_map]
  refine ⟨⟨fun repair _ => Diagnostic.check_ofTokenRepair correlationId repair, ?_⟩,
    fun note _ => Diagnostic.check_ofNote correlationId note⟩
  split
  · simpa using Diagnostic.check_ofNoTokens correlationId
  · simp

/-! ## Elements -/

/-- The node passes the check on elements, if it is one. -/
def Node.PassesCheck : Node → Prop
  | .element head children => element? head children = .ok (.element head children)
  | _ => True

theorem passesCheck_of_startTag {name : String} (named : name ≠ "") (attributes : List Attribute)
    (selfClosing : Bool) :
    Nesting.State.AdmitsTag Node.PassesCheck (.startTag name attributes selfClosing) := by
  intro children complete
  unfold Node.PassesCheck Node.element?
  dsimp only
  rw [if_neg named]
  cases isVoid : isVoidTag name with
  | false => simp
  | true => simp [complete (by simp [isVoid])]

/-- Every element of a fragment passes its check, whatever tokens the fragment is made of. -/
theorem passesCheck_of_run {maxDepth : Amount} {tokens : List Token} {state : Nesting.State}
    (succeeds : Nesting.State.run maxDepth {} tokens = .ok state) :
    ∀ node ∈ Node.preorder state.finish.roots.reverse, node.PassesCheck := by
  have keeps : state.Keeps Node.PassesCheck :=
    Nesting.State.keeps_run succeeds (fun _ => trivial) (fun _ => trivial)
      Nesting.State.keeps_empty
      fun name attributes selfClosing named => passesCheck_of_startTag named attributes selfClosing
  exact Nesting.State.forall_mem_preorder_of_keeps keeps fun _ => trivial

/-! ## Failures -/

/-- A failure, if there is one, tells of a limit that was exceeded. -/
def FailsOnlyByLimits {α : Type} (result : Except Failure α) : Prop :=
  ∀ failure, result = .error failure → failure.exhaustion? ≠ none

/-- The indentation takes a whole number of blanks. -/
def LayoutOptions.IsIndentable (options : LayoutOptions) : Prop :=
  options.useTabs.isTruthy = true ∨ ∀ size, options.indentSize ≠ .real size

theorem failsOnlyByLimits_ok {α : Type} (value : α) :
    FailsOnlyByLimits (.ok value : Except Failure α) :=
  fun _ failed => absurd failed (by simp)

theorem failsOnlyByLimits_error_iff {α : Type} (failure : Failure) :
    FailsOnlyByLimits (.error failure : Except Failure α) ↔ failure.exhaustion? ≠ none := by
  simp [FailsOnlyByLimits]

theorem failsOnlyByLimits_map_iff {α β : Type} (f : α → β) (result : Except Failure α) :
    FailsOnlyByLimits (result.map f) ↔ FailsOnlyByLimits result := by
  cases result with
  | ok value => exact iff_of_true (failsOnlyByLimits_ok _) (failsOnlyByLimits_ok _)
  | error failure => simp [Except.map, failsOnlyByLimits_error_iff]

theorem failsOnlyByLimits_read (limits : Limits) (html : String) :
    FailsOnlyByLimits (read limits html) := by
  unfold read tokenizeWithin Reading.ofTokens
  split
  · next failure tooLong =>
      have isLong : ∃ amount length, failure = .inputTooLong amount length := by
        split at tooLong
        · exact absurd tooLong (by simp)
        · split at tooLong
          · cases tooLong
            exact ⟨_, _, rfl⟩
          · exact absurd tooLong (by simp)
      obtain ⟨amount, length, rfl⟩ := isLong
      simp [failsOnlyByLimits_error_iff, Failure.exhaustion?]
  · split
    · simp [failsOnlyByLimits_error_iff, Failure.exhaustion?]
    · exact failsOnlyByLimits_ok _

theorem isIndentable_iff (options : LayoutOptions) :
    options.IsIndentable ↔ ∃ unit, options.indentUnit = .ok unit := by
  unfold LayoutOptions.IsIndentable LayoutOptions.indentUnit
  cases options.useTabs.isTruthy with
  | true => simp
  | false => cases options.indentSize <;> simp

theorem failsOnlyByLimits_render_iff (options : LayoutOptions) (nodes : List Node) :
    FailsOnlyByLimits (render options nodes) ↔
      options.IsIndentable ∧
        ∀ text ∈ Jsx.preformattedTexts options.keepsComments nodes,
          ¬Jsx.HasOverlongDecimal text.toList := by
  have readable :
      Jsx.overlongReference? options.keepsComments nodes = none ↔
        ∀ text ∈ Jsx.preformattedTexts options.keepsComments nodes,
          ¬Jsx.HasOverlongDecimal text.toList :=
    Jsx.overlongInAll?_eq_none_iff options.keepsComments false nodes
  rw [isIndentable_iff, ← readable]
  unfold render
  cases options.indentUnit with
  | error fault => simp [failsOnlyByLimits_error_iff, Failure.exhaustion?]
  | ok unit =>
      cases Jsx.overlongReference? options.keepsComments nodes with
      | none => simp [failsOnlyByLimits_ok]
      | some digitCount => simp [failsOnlyByLimits_error_iff, Failure.exhaustion?]

/-- What a conversion makes on its way, up to where it fails if it does, passes the checks on it. -/
structure RecordsPass (config : Config) (correlationId : Option String) (html : String) : Prop where
  positions : ∀ token ∈ (tokenize html).tokens,
    Position.ofInts token.position.line token.position.column token.position.offset =
      .ok token.position
  elements : ∀ before after state, (tokenize html).tokens = before ++ after →
    Nesting.State.run config.limits.maxNestingDepth {} before = .ok state →
      ∀ head children, .element head children ∈ Node.preorder state.finish.roots.reverse →
        Node.element? head children = .ok (.element head children)
  recoveries : ∀ recovery : Recovery, recovery.record.check = .ok recovery.record
  reports : ∀ (reading : Reading), ∀ diagnostic ∈ reading.diagnostics correlationId,
    diagnostic.check = .ok diagnostic
  notices : ∀ notice : Jsx.Notice,
    (Diagnostic.ofNotice correlationId notice).check = .ok (.ofNotice correlationId notice)

theorem recordsPass (config : Config) (correlationId : Option String) (html : String) :
    RecordsPass config correlationId html where
  positions token _ := token.position.ofInts_ofNat
  elements _ _ _ _ succeeds _ _ member := passesCheck_of_run succeeds _ member
  recoveries recovery := recovery.check_record
  reports reading := reading.check_diagnostics correlationId
  notices notice := Diagnostic.check_ofNotice correlationId notice

/-- A conversion fails by a limit alone if and only if the indentation is usable and no text that is
to be kept as it is has a reference too long to be read. -/
theorem failsOnlyByLimits_iff (config : Config) (correlationId : Option String) (html : String) :
    RecordsPass config correlationId html ∧
      (FailsOnlyByLimits (htmlToJsx config html) ∧
          FailsOnlyByLimits (convert config correlationId html) ↔
        ∀ reading, read config.limits html = .ok reading →
          config.layout.IsIndentable ∧
            ∀ text ∈ Jsx.preformattedTexts config.layout.keepsComments reading.nodes,
              ¬Jsx.HasOverlongDecimal text.toList) := by
  refine ⟨recordsPass config correlationId html, ?_⟩
  -- Both conversions fail alike, so only the plain one has to be looked at.
  rw [← convert_jsx config correlationId html, failsOnlyByLimits_map_iff, and_self,
    ← failsOnlyByLimits_map_iff (·.jsx), convert_jsx]
  unfold htmlToJsx
  cases result : read config.limits html with
  | error failure =>
      have byLimit := failsOnlyByLimits_read config.limits html
      rw [result, failsOnlyByLimits_error_iff] at byLimit
      simpa [failsOnlyByLimits_error_iff] using byLimit
  | ok reading => simpa using failsOnlyByLimits_render_iff config.layout reading.nodes

/-- A size of two that is given as a floating-point number is accepted, and then no use. -/
theorem not_failsOnlyByLimits_of_real_indent :
    ∃ config, Config.ofJson
        (.object [("renderer", .object [("indent_size", .real (.ofRatio false 2 1))])]) =
          .ok config ∧
      ¬FailsOnlyByLimits (htmlToJsx config "<p>x</p>") := by
  have allKnown : unknownSections
      [("renderer", .object [("indent_size", .real (.ofRatio false 2 1))])] = [] := by
    simp [unknownSections]
  refine ⟨{ layout := { indentSize := .real (.ofRatio false 2 1) } }, ?_, ?_⟩
  · unfold Config.ofJson
    dsimp only
    rw [allKnown]
    rfl
  · have failed : htmlToJsx { layout := { indentSize := .real (.ofRatio false 2 1) } } "<p>x</p>" =
        .error (.fractionalIndent {}) := rfl
    rw [failed, failsOnlyByLimits_error_iff]
    decide

end JsxFragment
