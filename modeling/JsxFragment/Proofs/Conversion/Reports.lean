import JsxFragment.Proofs.Node.EventRun
import Mathlib.Algebra.BigOperators.Group.List.Lemmas
import Mathlib.Algebra.GroupWithZero.Nat

/-!
# What conversions report

Every repair is reported by one warning: first those to the tokens, then those to their nesting,
each kind in the order in which they were made. The warnings about the output come after them. So
all numbers of repairs agree.
-/

namespace JsxFragment

/-! ## Warnings -/

namespace Diagnostic

/-- The warning of a repair, by the component that made it. -/
def repairWarning (component description label : String) (position : Position)
    (correlationId : Option String) : Diagnostic :=
  { severity := .warning
    message := description
    component
    place := position.toMembers
    details := [("repair_type", .string label)]
    correlationId }

/-- The warnings among reports, in order. -/
def warnings (diagnostics : List Diagnostic) : List Diagnostic :=
  diagnostics.filter (·.severity = .warning)

theorem count_warning (diagnostics : List Diagnostic) :
    count .warning diagnostics = (warnings diagnostics).length :=
  rfl

@[simp]
theorem warnings_append (first second : List Diagnostic) :
    warnings (first ++ second) = warnings first ++ warnings second :=
  List.filter_append _ _

/-- If all reports are warnings, none is left out. -/
theorem warnings_map {α : Type _} (report : α → Diagnostic)
    (isWarning : ∀ item, (report item).severity = .warning) (items : List α) :
    warnings (items.map report) = items.map report := by
  rw [warnings, List.filter_eq_self, List.forall_mem_map]
  exact fun item _ => decide_eq_true (isWarning item)

/-- Of what nesting has to tell, the recoveries are warnings, and document types are not. -/
theorem warnings_notes (correlationId : Option String) (notes : List Note) :
    warnings (notes.map (.ofNote correlationId)) =
      (notes.filterMap Note.recovery?).map fun recovery =>
        repairWarning "html_tree_builder" recovery.cause.description recovery.cause.label
          recovery.position correlationId := by
  induction notes with
  | nil => rfl
  | cons note rest inductionHypothesis =>
      rw [List.map_cons, ← List.singleton_append, warnings_append, inductionHypothesis]
      cases note <;> rfl

end Diagnostic

theorem Reading.warnings_diagnostics (reading : Reading) (correlationId : Option String) :
    Diagnostic.warnings (reading.diagnostics correlationId) =
      reading.tokenRepairs.map (fun repair =>
          Diagnostic.repairWarning "html_tokenizer" repair.cause.description repair.cause.label
            repair.position correlationId) ++
        reading.recoveries.map fun recovery =>
          Diagnostic.repairWarning "html_tree_builder" recovery.cause.description
            recovery.cause.label recovery.position correlationId := by
  have noTokens : Diagnostic.warnings
      (if reading.tokens.isEmpty then [.ofNoTokens correlationId] else []) = [] := by
    split <;> rfl
  have tokenRepairs := Diagnostic.warnings_map (.ofTokenRepair correlationId) (fun _ => rfl)
    reading.tokenRepairs
  rw [diagnostics, Diagnostic.warnings_append, Diagnostic.warnings_append, tokenRepairs, noTokens,
    Diagnostic.warnings_notes, List.append_nil]
  rfl

/-- No report on the reading is one of the renderer. -/
theorem Reading.component_ne_renderer (reading : Reading) (correlationId : Option String) :
    ∀ diagnostic ∈ reading.diagnostics correlationId, diagnostic.component ≠ "jsx_renderer" := by
  unfold diagnostics
  simp only [List.forall_mem_append, List.forall_mem_map]
  refine ⟨⟨fun repair _ => ?_, ?_⟩, fun note _ => ?_⟩
  · simp [Diagnostic.ofTokenRepair]
  · split <;> simp [Diagnostic.ofNoTokens]
  · cases note <;> simp [Diagnostic.ofNote]

/-! ## Numbers of repairs -/

theorem nodup_eraseDups {α : Type _} [DecidableEq α] (items : List α) : items.eraseDups.Nodup := by
  induction length : items.length using Nat.strongRecOn generalizing items with
  | _ length inductionHypothesis =>
      subst length
      cases items with
      | nil => simp
      | cons first rest =>
          rw [List.eraseDups_cons, List.nodup_cons]
          refine ⟨by simp, inductionHypothesis _ ?_ _ rfl⟩
          exact Nat.lt_succ_of_le (List.length_filter_le _ rest)

/-- All items are counted if each is counted under what it is. -/
theorem sum_count_eraseDups {α : Type _} [DecidableEq α] (items : List α) :
    (items.eraseDups.map fun item => items.count item).sum = items.length := by
  have sameItems : items.eraseDups.Perm items.dedup := by
    rw [List.perm_ext_iff_of_nodup (nodup_eraseDups items) (List.nodup_dedup items)]
    intro item
    rw [List.mem_eraseDups, List.mem_dedup]
  rw [(sameItems.map _).sum_eq]
  exact List.sum_map_count_dedup_eq_length items

theorem Reading.sum_repairSummary (reading : Reading) :
    (reading.repairSummary.map Prod.snd).sum = reading.repairCount := by
  rw [repairSummary, List.map_map]
  calc (reading.repairLabels.eraseDups.map fun label => reading.repairLabels.count label).sum
    _ = reading.repairLabels.length := sum_count_eraseDups _
    _ = reading.repairCount := by simp [repairLabels, repairCount]

theorem Reading.count_warning_diagnostics (reading : Reading) (correlationId : Option String) :
    Diagnostic.count .warning (reading.diagnostics correlationId) = reading.repairCount := by
  rw [Diagnostic.count_warning, warnings_diagnostics, List.length_append, List.length_map,
    List.length_map, repairCount, Nat.add_comm]

/-! ## Conversions -/

/-- Every repair of the conversion of a text is reported once, in order and before what the renderer
reports, and all numbers of repairs agree. -/
structure Conversion.ReportsRepairs (conversion : Conversion) (correlationId : Option String)
    (html : String) : Prop where
  warnings : Diagnostic.warnings (conversion.reading.diagnostics correlationId) =
    (tokenize html).repairs.map (fun repair =>
        Diagnostic.repairWarning "html_tokenizer" repair.cause.description repair.cause.label
          repair.position correlationId) ++
      conversion.reading.recoveries.map fun recovery =>
        Diagnostic.repairWarning "html_tree_builder" recovery.cause.description recovery.cause.label
          recovery.position correlationId
  summed : conversion.reading.repairCount = (conversion.reading.repairSummary.map Prod.snd).sum
  counted : conversion.reading.repairCount =
    Diagnostic.count .warning (conversion.reading.diagnostics correlationId)
  rendered : ∃ rendered,
    conversion.diagnostics = conversion.reading.diagnostics correlationId ++ rendered ∧
      (∀ diagnostic ∈ conversion.reading.diagnostics correlationId,
        diagnostic.component ≠ "jsx_renderer") ∧
      (∀ diagnostic ∈ rendered, diagnostic.component = "jsx_renderer") ∧
      Diagnostic.count .warning conversion.diagnostics =
        conversion.reading.repairCount + rendered.length

theorem reading_of_convert {config : Config} {correlationId : Option String} {html : String}
    {conversion : Conversion} (succeeds : convert config correlationId html = .ok conversion) :
    read config.limits html = .ok conversion.reading ∧
      conversion.correlationId = correlationId := by
  unfold convert at succeeds
  split at succeeds
  · exact absurd succeeds (by simp)
  · next reading readHtml =>
      split at succeeds
      · exact absurd succeeds (by simp)
      · rw [Except.ok.injEq] at succeeds
        subst succeeds
        exact ⟨readHtml, rfl⟩

theorem reportsRepairs_of_convert {config : Config} {correlationId : Option String}
    {html : String} {conversion : Conversion}
    (succeeds : convert config correlationId html = .ok conversion) :
    conversion.ReportsRepairs correlationId html := by
  obtain ⟨readHtml, sameId⟩ := reading_of_convert succeeds
  have counted := conversion.reading.count_warning_diagnostics correlationId
  have notices := Diagnostic.warnings_map (.ofNotice correlationId) (fun _ => rfl)
    conversion.notices
  refine ⟨?_, conversion.reading.sum_repairSummary.symm, counted.symm, ?_⟩
  · have repairs : conversion.reading.tokenRepairs = (tokenize html).repairs := by
      obtain ⟨state, _, equality⟩ := run_of_read readHtml
      rw [equality]
    rw [conversion.reading.warnings_diagnostics, repairs]
  · refine ⟨conversion.notices.map (.ofNotice correlationId), ?_, ?_, ?_, ?_⟩
    · rw [Conversion.diagnostics, sameId]
    · exact conversion.reading.component_ne_renderer correlationId
    · rw [List.forall_mem_map]
      exact fun _ _ => rfl
    · rw [Conversion.diagnostics, sameId, Diagnostic.count_warning, Diagnostic.warnings_append,
        List.length_append, ← Diagnostic.count_warning, counted, notices]

theorem reportsRepairs_of_convert_dropped_parts :
    ∃ conversion, convert {} (some "id") "</><!doctype html><i 1 a A>x" = .ok conversion ∧
      conversion.ReportsRepairs (some "id") "</><!doctype html><i 1 a A>x" ∧
      conversion.reading.repairLabels =
        ["duplicate_attribute", "unclosed_element", "empty_end_tag"] ∧
      conversion.notices = [.droppedAttribute "i" "1"] := by
  have computed :
      (convert {} (some "id") "</><!doctype html><i 1 a A>x").toOption.map
          (fun conversion => (conversion.reading.repairLabels, conversion.notices)) =
        some (["duplicate_attribute", "unclosed_element", "empty_end_tag"],
          [.droppedAttribute "i" "1"]) := by
    decide +kernel
  cases succeeds : convert {} (some "id") "</><!doctype html><i 1 a A>x" with
  | error failure =>
      rw [succeeds] at computed
      exact absurd computed (by simp [Except.toOption])
  | ok conversion =>
      rw [succeeds] at computed
      exact ⟨conversion, rfl, reportsRepairs_of_convert succeeds,
        Prod.ext_iff.mp (Option.some.inj computed)⟩

end JsxFragment
