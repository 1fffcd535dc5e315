import JsxFragment.Config.Reader
import JsxFragment.Proofs.Json.DistinctNames

/-!
# Configurations that have been checked

Whatever way a configuration is come by, its numbers have passed the checks, and no object in it has
two members of one name. The checks let every such configuration pass again.
-/

namespace JsxFragment

open Number

/-- A computation in two steps that succeeds succeeds in both. -/
theorem exists_of_bind_eq_ok {ε α β : Type} {first : Except ε α} {next : α → Except ε β}
    {result : β} (success : first >>= next = .ok result) :
    ∃ value, first = .ok value ∧ next value = .ok result := by
  cases first with
  | error fault => cases success
  | ok value => exact ⟨value, rfl, success⟩

/-- Limits that the check lets pass. -/
structure Limits.IsChecked (limits : Limits) : Prop where
  maxNestingDepth : isUsableLimit limits.maxNestingDepth = true
  maxInputLength : ∀ amount, limits.maxInputLength = some amount → isUsableLimit amount = true

/-- A layout that the check lets pass. -/
structure LayoutOptions.IsChecked (options : LayoutOptions) : Prop where
  indentSize : isUsableIndent options.indentSize = true

/-- A configuration whose sections the checks let pass. -/
structure Config.IsChecked (config : Config) : Prop where
  limits : config.limits.IsChecked
  layout : config.layout.IsChecked

theorem Config.isChecked_default : ({} : Config).IsChecked :=
  ⟨⟨rfl, nofun⟩, ⟨rfl⟩⟩

section
variable {members : List (String × Json)}

theorem isUsableLimit_of_inputLengthOf {length : Option Amount}
    (read : inputLengthOf members = .ok length) :
    ∀ amount, length = some amount → isUsableLimit amount = true := by
  rintro amount rfl
  unfold inputLengthOf at read
  split at read
  · cases read
  · cases read
  split at read
  · cases read
  split at read
  · next usable =>
      cases read
      exact usable
  · cases read

theorem Limits.isChecked_of_ofMembers {limits : Limits}
    (read : Limits.ofMembers members = .ok limits) : limits.IsChecked := by
  unfold Limits.ofMembers at read
  split at read
  · cases read
  split at read
  · cases read
  split at read
  · next usable =>
      split at read
      · cases read
      · next length =>
          cases read
          exact ⟨usable, isUsableLimit_of_inputLengthOf length⟩
  · cases read

theorem LayoutOptions.ofMembers_eq_ok {options : LayoutOptions}
    (read : LayoutOptions.ofMembers members = .ok options) :
    options.IsChecked ∧
      Section.renderer.amount members "indent_size" (.whole 2) = .ok options.indentSize ∧
      options.useTabs = (members.lookup "use_tabs").getD (.bool false) ∧
      options.preserveComments = (members.lookup "preserve_comments").getD (.bool true) := by
  unfold LayoutOptions.ofMembers at read
  split at read
  · cases read
  split at read
  · cases read
  · next size =>
      split at read
      · next usable =>
          cases read
          exact ⟨⟨usable⟩, size, rfl, rfl⟩
      · cases read

end

/-! ## Sections as members -/

/-- Checked limits are read back from their members. -/
theorem Limits.IsChecked.ofMembers_toMembers {limits : Limits} (checked : limits.IsChecked) :
    Limits.ofMembers limits.toMembers = .ok limits := by
  obtain ⟨depth, length⟩ := limits
  have known : Section.parser.foreign? (Limits.toMembers ⟨depth, length⟩) = none := rfl
  have depthRead : Section.parser.amount (Limits.toMembers ⟨depth, length⟩) "max_nesting_depth"
      (.whole 10000) = .ok depth := by
    simp only [Section.amount, Limits.toMembers, List.lookup_cons_self, Json.amount?_ofAmount]
  have lengthRead : inputLengthOf (Limits.toMembers ⟨depth, length⟩) = .ok length := by
    cases length with
    | none => rfl
    | some amount =>
        have usable := checked.maxInputLength amount rfl
        cases amount <;> exact if_pos usable
  simp only [Limits.ofMembers, known, depthRead, checked.maxNestingDepth, lengthRead, if_true]

/-- A checked layout is read back from its members. -/
theorem LayoutOptions.IsChecked.ofMembers_toMembers {options : LayoutOptions}
    (checked : options.IsChecked) : LayoutOptions.ofMembers options.toMembers = .ok options := by
  obtain ⟨size, tabs, comments⟩ := options
  have known : Section.renderer.foreign? (LayoutOptions.toMembers ⟨size, tabs, comments⟩) = none :=
    rfl
  have sizeRead : Section.renderer.amount (LayoutOptions.toMembers ⟨size, tabs, comments⟩)
      "indent_size" (.whole 2) = .ok size := by
    simp only [Section.amount, LayoutOptions.toMembers, List.lookup_cons_self,
      Json.amount?_ofAmount]
  simp only [LayoutOptions.ofMembers, known, sizeRead, checked.indentSize, if_true]
  rfl

namespace Config

/-- A value with both sections is read section by section. -/
theorem ofJson_sections (parser renderer : List (String × Json)) :
    ofJson (.object [("parser", .object parser), ("renderer", .object renderer)]) = (do
      let limits ← Limits.ofMembers parser
      let layout ← LayoutOptions.ofMembers renderer
      return { limits, layout }) := by
  have known : unknownSections [("parser", .object parser), ("renderer", .object renderer)] = [] := by
    simp [unknownSections]
  rw [ofJson, known]
  rfl

/-- A checked configuration is read back from its value. -/
theorem IsChecked.ofJson_toJson {config : Config} (checked : config.IsChecked) :
    ofJson config.toJson = .ok config := by
  rw [toJson, ofJson_sections, checked.limits.ofMembers_toMembers,
    checked.layout.ofMembers_toMembers]
  rfl

end Config

/-! ## Distinct names -/

/-- The values of a layout that may be any have distinct names in them. -/
structure LayoutOptions.HasDistinctNames (options : LayoutOptions) : Prop where
  useTabs : options.useTabs.HasDistinctNames
  preserveComments : options.preserveComments.HasDistinctNames

theorem Json.hasDistinctNames_bool (value : Bool) : (Json.bool value).HasDistinctNames :=
  hasDistinctNames_of_leaf rfl fun _ => Json.noConfusion

theorem Json.hasDistinctNames_ofAmount (amount : Amount) : (ofAmount amount).HasDistinctNames := by
  cases amount <;> exact hasDistinctNames_of_leaf rfl fun _ => Json.noConfusion

section
variable {members : List (String × Json)}

theorem hasDistinctNames_getD_lookup (distinct : ∀ member ∈ members, member.2.HasDistinctNames)
    {default : Json} (defaultDistinct : default.HasDistinctNames) (name : String) :
    ((members.lookup name).getD default).HasDistinctNames := by
  cases found : members.lookup name with
  | none => exact defaultDistinct
  | some value =>
      obtain ⟨before, after, rfl, -⟩ := List.lookup_eq_some_iff.mp found
      exact distinct (name, value) (List.mem_append_right _ List.mem_cons_self)

theorem LayoutOptions.hasDistinctNames_of_ofMembers {options : LayoutOptions}
    (distinct : ∀ member ∈ members, member.2.HasDistinctNames)
    (read : LayoutOptions.ofMembers members = .ok options) : options.HasDistinctNames := by
  obtain ⟨-, -, useTabs, preserveComments⟩ := LayoutOptions.ofMembers_eq_ok read
  constructor
  · rw [useTabs]
    exact hasDistinctNames_getD_lookup distinct (Json.hasDistinctNames_bool false) _
  · rw [preserveComments]
    exact hasDistinctNames_getD_lookup distinct (Json.hasDistinctNames_bool true) _

theorem Section.hasDistinctNames_of_membersIn {part : Section} {fields : List (String × Json)}
    (distinct : ∀ member ∈ members, member.2.HasDistinctNames)
    (read : part.membersIn members = .ok fields) : ∀ field ∈ fields, field.2.HasDistinctNames := by
  unfold Section.membersIn at read
  split at read
  · cases read
    exact nofun
  · next found =>
      cases read
      obtain ⟨before, after, rfl, -⟩ := List.lookup_eq_some_iff.mp found
      have object := distinct _ (List.mem_append_right _ List.mem_cons_self)
      exact (Json.hasDistinctNames_object.mp object).2
  · cases read

end

theorem LayoutOptions.HasDistinctNames.toMembers {options : LayoutOptions}
    (distinct : options.HasDistinctNames) :
    ∀ member ∈ options.toMembers, member.2.HasDistinctNames := by
  simp only [LayoutOptions.toMembers, List.forall_mem_cons]
  exact ⟨Json.hasDistinctNames_ofAmount _, distinct.useTabs, distinct.preserveComments, nofun⟩

theorem Limits.hasDistinctNames_toMembers (limits : Limits) :
    ∀ member ∈ limits.toMembers, member.2.HasDistinctNames := by
  simp only [Limits.toMembers, List.forall_mem_cons]
  refine ⟨Json.hasDistinctNames_ofAmount _, ?_, nofun⟩
  cases limits.maxInputLength with
  | none => exact Json.hasDistinctNames_of_leaf rfl fun _ => Json.noConfusion
  | some amount => exact Json.hasDistinctNames_ofAmount amount

theorem Config.hasDistinctNames_toJson {config : Config}
    (distinct : config.layout.HasDistinctNames) : config.toJson.HasDistinctNames := by
  have limits : (Json.object config.limits.toMembers).HasDistinctNames :=
    Json.hasDistinctNames_object.mpr
      ⟨(by decide : ["max_nesting_depth", "max_input_length"].Nodup),
        config.limits.hasDistinctNames_toMembers⟩
  have layout : (Json.object config.layout.toMembers).HasDistinctNames :=
    Json.hasDistinctNames_object.mpr
      ⟨(by decide : ["indent_size", "use_tabs", "preserve_comments"].Nodup), distinct.toMembers⟩
  refine Json.hasDistinctNames_object.mpr ⟨(by decide : ["parser", "renderer"].Nodup), ?_⟩
  simp only [List.forall_mem_cons]
  exact ⟨limits, layout, nofun⟩

/-! ## Where configurations come from -/

namespace Config

/-- A configuration that is read from a value or a text, or made of such a one by overrides. Objects
do not come with two members of one name; the limits of the reader of texts do not matter. -/
inductive Obtained : Config → Prop where
  | value {value : Json} {config : Config} (distinct : value.HasDistinctNames)
      (read : ofJson value = .ok config) : Obtained config
  | text {maxDigits maxLevels : Nat} {text : String} {config : Config}
      (read : ofParsed (Json.readText maxDigits maxLevels text.toList) = .ok config) :
      Obtained config
  | override {config changed : Config} {overrides : List (String × Json)}
      (before : Obtained config)
      (distinct : ∀ change ∈ overrides, change.2.HasDistinctNames)
      (read : config.override overrides = .ok changed) : Obtained changed

/-- A configuration is read from the two sections of a value. -/
theorem exists_sections_of_ofJson {value : Json} {config : Config}
    (read : ofJson value = .ok config) :
    ∃ members parser renderer, value = .object members ∧
      Section.parser.membersIn members = .ok parser ∧
      Limits.ofMembers parser = .ok config.limits ∧
      Section.renderer.membersIn members = .ok renderer ∧
      LayoutOptions.ofMembers renderer = .ok config.layout := by
  unfold ofJson at read
  split at read
  · next members =>
      split at read
      · obtain ⟨parser, parserFound, read⟩ := exists_of_bind_eq_ok read
        obtain ⟨limits, limitsRead, read⟩ := exists_of_bind_eq_ok read
        obtain ⟨renderer, rendererFound, read⟩ := exists_of_bind_eq_ok read
        obtain ⟨layout, layoutRead, read⟩ := exists_of_bind_eq_ok read
        cases read
        exact ⟨members, parser, renderer, rfl, parserFound, limitsRead, rendererFound, layoutRead⟩
      · cases read
  · cases read

theorem isChecked_of_ofJson {value : Json} {config : Config} (read : ofJson value = .ok config) :
    config.IsChecked := by
  obtain ⟨_, _, _, _, _, limitsRead, _, layoutRead⟩ := exists_sections_of_ofJson read
  exact
    ⟨Limits.isChecked_of_ofMembers limitsRead, (LayoutOptions.ofMembers_eq_ok layoutRead).1⟩

theorem hasDistinctNames_of_ofJson {value : Json} {config : Config}
    (distinct : value.HasDistinctNames) (read : ofJson value = .ok config) :
    config.layout.HasDistinctNames := by
  obtain ⟨members, _, renderer, rfl, _, _, rendererFound, layoutRead⟩ :=
    exists_sections_of_ofJson read
  have members := (Json.hasDistinctNames_object.mp distinct).2
  have fields := Section.hasDistinctNames_of_membersIn members rendererFound
  exact LayoutOptions.hasDistinctNames_of_ofMembers fields layoutRead

/-- Overrides change the members of the two sections, which are then read anew. -/
theorem exists_of_override {config changed : Config} {overrides : List (String × Json)}
    (read : config.override overrides = .ok changed) :
    Limits.ofMembers (changedMembers config.limits.toMembers (changesTo .parser overrides)) =
        .ok changed.limits ∧
      LayoutOptions.ofMembers
          (changedMembers config.layout.toMembers (changesTo .renderer overrides)) =
        .ok changed.layout := by
  unfold override at read
  split at read
  · cases read
  split at read
  · cases read
  · obtain ⟨limits, limitsRead, read⟩ := exists_of_bind_eq_ok read
    obtain ⟨layout, layoutRead, read⟩ := exists_of_bind_eq_ok read
    cases read
    exact ⟨limitsRead, layoutRead⟩

theorem isChecked_of_override {config changed : Config} {overrides : List (String × Json)}
    (read : config.override overrides = .ok changed) : changed.IsChecked := by
  obtain ⟨limitsRead, layoutRead⟩ := exists_of_override read
  exact
    ⟨Limits.isChecked_of_ofMembers limitsRead, (LayoutOptions.ofMembers_eq_ok layoutRead).1⟩

theorem forall_mem_changesTo {property : Json → Prop} {overrides : List (String × Json)}
    (all : ∀ change ∈ overrides, property change.2) (part : Section) :
    ∀ change ∈ changesTo part overrides, property change.2 := by
  apply Json.forall_mem_merge
  · exact nofun
  · intro change member
    obtain ⟨origin, held, kept⟩ := List.mem_filterMap.mp member
    split at kept
    · split at kept
      · cases kept
        exact all origin held
      · cases kept
    · cases kept

theorem forall_mem_changedMembers {property : Json → Prop} {members changes : List (String × Json)}
    (all : ∀ member ∈ members, property member.2) (more : ∀ change ∈ changes, property change.2) :
    ∀ member ∈ changedMembers members changes, property member.2 :=
  List.forall_mem_append.mpr ⟨more, fun member kept => all member (List.mem_filter.mp kept).1⟩

theorem hasDistinctNames_of_override {config changed : Config}
    {overrides : List (String × Json)} (before : config.layout.HasDistinctNames)
    (distinct : ∀ change ∈ overrides, change.2.HasDistinctNames)
    (read : config.override overrides = .ok changed) : changed.layout.HasDistinctNames :=
  LayoutOptions.hasDistinctNames_of_ofMembers
    (forall_mem_changedMembers before.toMembers (forall_mem_changesTo distinct .renderer))
    (exists_of_override read).2

theorem Obtained.isChecked {config : Config} (obtained : Obtained config) : config.IsChecked := by
  cases obtained with
  | value _ read => exact isChecked_of_ofJson read
  | text read =>
      unfold ofParsed at read
      split at read
      · cases read
      · exact isChecked_of_ofJson read
  | override _ _ read => exact isChecked_of_override read

theorem Obtained.hasDistinctNames {config : Config} (obtained : Obtained config) :
    config.layout.HasDistinctNames := by
  induction obtained with
  | value distinct read => exact hasDistinctNames_of_ofJson distinct read
  | text read =>
      unfold ofParsed at read
      split at read
      · cases read
      · next parsed =>
          exact hasDistinctNames_of_ofJson (Json.hasDistinctNames_of_readText parsed) read
  | override _ distinct read inductionHypothesis =>
      exact hasDistinctNames_of_override inductionHypothesis distinct read

end Config

end JsxFragment
