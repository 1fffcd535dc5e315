import JsxFragment.Proofs.Config.RoundTrip

/-!
# Overrides as field updates

A configuration with overrides is what is read from its dump once the fields in question are set in
there: the same configuration, or the same fault. That is so although a section with changes is made of
the changes and of what they leave of it, whereas in a dump a field that is set keeps its place.
-/

namespace JsxFragment

/-! ## Members that are put in -/

namespace Json

theorem lookup_cons (member : String × Json) (members : List (String × Json)) (name : String) :
    (member :: members).lookup name =
      if name = member.1 then some member.2 else members.lookup name := by
  rw [List.lookup_cons]
  by_cases same : name = member.1
  · simp [same]
  · rw [if_neg same, beq_false_of_ne same]

theorem isSome_lookup {members : List (String × Json)} {name : String} :
    (members.lookup name).isSome = members.any (·.1 = name) := by
  induction members with
  | nil => rfl
  | cons member members inductionHypothesis =>
      rw [lookup_cons, List.any_cons, ← inductionHypothesis]
      by_cases same : name = member.1
      · simp [same]
      · simp [same, Ne.symm same]

theorem lookup_map_replace (members : List (String × Json)) (name other : String) (value : Json) :
    (members.map fun member => if member.1 = name then (name, value) else member).lookup other =
      if other = name then (members.lookup name).map fun _ => value
      else members.lookup other := by
  induction members with
  | nil => simp
  | cons member members inductionHypothesis =>
      rw [List.map_cons, lookup_cons, lookup_cons, lookup_cons, inductionHypothesis]
      by_cases replaced : member.1 = name
      · subst replaced
        by_cases same : other = member.1
        · simp [same]
        · simp [same]
      · by_cases same : other = name
        · subst same
          simp [replaced, Ne.symm replaced]
        · simp [replaced, same]

/-- The member that was put in is found, and any other as before. -/
theorem lookup_put (members : List (String × Json)) (name other : String) (value : Json) :
    (put members name value).lookup other =
      if other = name then some value else members.lookup other := by
  unfold put
  rw [← isSome_lookup]
  cases found : members.lookup name with
  | some old => rw [Option.isSome_some, if_pos rfl, lookup_map_replace, found, Option.map_some]
  | none =>
      rw [Option.isSome_none, if_neg Bool.false_ne_true, List.lookup_append, lookup_cons]
      by_cases same : other = name
      · simp [same, found]
      · simp [same]

/-- Members that were put in are found if they are among them, and any other as before. -/
theorem lookup_merge (members others : List (String × Json)) (name : String) :
    (merge members others).lookup name =
      ((merge [] others).lookup name).or (members.lookup name) := by
  induction others generalizing members with
  | nil => rfl
  | cons other others inductionHypothesis =>
      have first (before : List (String × Json)) :
          merge before (other :: others) = merge (put before other.1 other.2) others := rfl
      rw [first, first, inductionHypothesis, inductionHypothesis (put [] other.1 other.2),
        Option.or_assoc, lookup_put, lookup_put]
      by_cases same : name = other.1
      · rw [if_pos same, if_pos same, Option.some_or]
      · rw [if_neg same, if_neg same, List.lookup_nil, Option.none_or]

end Json

/-! ## Sections that read alike -/

namespace Section

/-- The first of some names that is no field of the section. -/
def foreignName? (part : Section) (names : List String) : Option String :=
  names.find? fun name => !part.fields.contains name

theorem foreign?_eq (part : Section) (members : List (String × Json)) :
    part.foreign? members =
      (part.foreignName? (members.map Prod.fst)).map fun name =>
        if name = "self" then .reservedField part else .unknownField part name := by
  rw [foreign?, foreignName?, List.find?_map, Option.map_map]
  rfl

theorem foreignName?_append (part : Section) (names others : List String) :
    part.foreignName? (names ++ others) =
      (part.foreignName? names).or (part.foreignName? others) :=
  List.find?_append

theorem foreignName?_eq_none_iff {part : Section} {names : List String} :
    part.foreignName? names = none ↔ ∀ name ∈ names, name ∈ part.fields := by
  simp [foreignName?]

theorem foreignName?_put (part : Section) (members : List (String × Json)) (name : String)
    (value : Json) :
    part.foreignName? ((Json.put members name value).map Prod.fst) =
      (part.foreignName? (members.map Prod.fst)).or (part.foreignName? [name]) := by
  rw [Json.map_fst_put]
  split
  · next there =>
      cases foreign : part.foreignName? (members.map Prod.fst) with
      | some other => rfl
      | none =>
          have known := foreignName?_eq_none_iff.mp foreign name there
          rw [Option.none_or, eq_comm, foreignName?_eq_none_iff]
          simpa using known
  · exact foreignName?_append part _ _

theorem foreignName?_merge (part : Section) (members others : List (String × Json)) :
    part.foreignName? ((Json.merge members others).map Prod.fst) =
      (part.foreignName? (members.map Prod.fst)).or
        (part.foreignName? (others.map Prod.fst)) := by
  induction others generalizing members with
  | nil => exact (Option.or_none).symm
  | cons other others inductionHypothesis =>
      rw [Json.merge, List.foldl_cons, ← Json.merge, inductionHypothesis, foreignName?_put,
        Option.or_assoc, ← foreignName?_append]
      rfl

/-- Two lists of members from which a section is read alike: the first name that is no field is the
same, and each field has the same value. -/
structure ReadsAlike (part : Section) (members others : List (String × Json)) : Prop where
  foreign : part.foreign? members = part.foreign? others
  lookup : ∀ name, members.lookup name = others.lookup name

theorem ReadsAlike.limits {members others : List (String × Json)}
    (alike : Section.parser.ReadsAlike members others) :
    Limits.ofMembers members = Limits.ofMembers others := by
  simp only [Limits.ofMembers, Section.amount, inputLengthOf, alike.foreign, alike.lookup]

theorem ReadsAlike.layout {members others : List (String × Json)}
    (alike : Section.renderer.ReadsAlike members others) :
    LayoutOptions.ofMembers members = LayoutOptions.ofMembers others := by
  simp only [LayoutOptions.ofMembers, Section.amount, alike.foreign, alike.lookup]

end Section

theorem lookup_changedMembers (members changes : List (String × Json)) (name : String) :
    (Config.changedMembers members changes).lookup name =
      (changes.lookup name).or (members.lookup name) := by
  rw [Config.changedMembers, List.lookup_append]
  cases found : changes.lookup name with
  | some value => rfl
  | none =>
      have unchanged : changes.any (·.1 = name) = false := by
        rw [← Json.isSome_lookup, found, Option.isSome_none]
      rw [Option.none_or, Option.none_or]
      induction members with
      | nil => rfl
      | cons member members inductionHypothesis =>
          rw [List.filter_cons, Json.lookup_cons]
          by_cases same : name = member.1
          · subst same
            rw [if_pos rfl, unchanged, Bool.not_false, if_pos rfl, Json.lookup_cons, if_pos rfl]
          · rw [if_neg same]
            split
            · rw [Json.lookup_cons, if_neg same, inductionHypothesis]
            · exact inductionHypothesis

/-- Whether a changed section is made of its changes and what they leave, or the changes are put in one
after another, it is read alike. -/
theorem Section.readsAlike_changedMembers {part : Section} {members : List (String × Json)}
    (known : ∀ member ∈ members, member.1 ∈ part.fields) (changes : List (String × Json)) :
    part.ReadsAlike (Config.changedMembers members (Json.merge [] changes))
      (Json.merge members changes) := by
  have allKnown : part.foreignName? (members.map Prod.fst) = none :=
    foreignName?_eq_none_iff.mpr (List.forall_mem_map.mpr known)
  constructor
  · have leftKnown (kept : String × Json → Bool) :
        part.foreignName? ((members.filter kept).map Prod.fst) = none :=
      foreignName?_eq_none_iff.mpr <| List.forall_mem_map.mpr fun member held =>
        known member (List.mem_filter.mp held).1
    rw [foreign?_eq, foreign?_eq, Config.changedMembers, List.map_append, foreignName?_append,
      leftKnown, Option.or_none, foreignName?_merge, foreignName?_merge, allKnown, Option.none_or]
    rfl
  · intro name
    rw [lookup_changedMembers, ← Json.lookup_merge]

/-! ## Keys of overrides -/

/-- A field of a section, by a name that is not empty, and the value that it is to have. -/
structure FieldChange where
  part : Section
  field : String
  value : Json
  isNamed : field ≠ ""

namespace FieldChange

/-- The key that names the section and the field. -/
def key (change : FieldChange) : String :=
  change.part.name ++ "__" ++ change.field

/-- The change as an override. -/
def override (change : FieldChange) : String × Json :=
  (change.key, change.value)

/-- The member that the change makes in a section, if it is a change to that section. -/
def member? (part : Section) (change : FieldChange) : Option (String × Json) :=
  if change.part = part then some (change.field, change.value) else none

end FieldChange

namespace Config

theorem cutKey_append {before : List Char} (absent : '_' ∉ before) (rest : List Char) :
    cutKey (before ++ '_' :: '_' :: rest) = (before, rest) := by
  induction before with
  | nil => rfl
  | cons c before inductionHypothesis =>
      obtain ⟨different, later⟩ : '_' ≠ c ∧ '_' ∉ before := by simpa using absent
      rw [List.cons_append, cutKey, inductionHypothesis later]
      intro behind begins
      exact absurd begins.symm different

theorem eq_or_eq_of_cutKey (text : List Char) :
    text = (cutKey text).1 ++ '_' :: '_' :: (cutKey text).2 ∨ (cutKey text).2 = [] := by
  fun_induction cutKey text with
  | case1 rest => exact Or.inl rfl
  | case2 c rest _ cut inductionHypothesis =>
      exact inductionHypothesis.imp_left fun whole => congrArg (c :: ·) whole
  | case3 => exact Or.inr rfl

theorem fieldOfKey?_key (change : FieldChange) :
    fieldOfKey? change.key = some (change.part, change.field) := by
  have named : change.field.toList.isEmpty = false := by simpa using change.isNamed
  have absent : '_' ∉ change.part.name.toList := by
    cases change.part <;> decide
  have cut : cutKey change.key.toList = (change.part.name.toList, change.field.toList) := by
    rw [FieldChange.key, String.toList_append, String.toList_append, List.append_assoc]
    exact cutKey_append absent _
  rw [fieldOfKey?, cut]
  dsimp only
  rw [named, String.ofList_toList]
  cases change.part <;> rfl

theorem exists_key_of_cutKey {part : Section} {key : String} {field : List Char}
    (cut : cutKey key.toList = (part.name.toList, field)) (isNamed : field ≠ []) :
    ∃ change : FieldChange, key = change.key := by
  have notEmpty : String.ofList field ≠ "" := by simpa using isNamed
  have whole := (eq_or_eq_of_cutKey key.toList).resolve_right (by rwa [cut])
  rw [cut] at whole
  refine ⟨⟨part, String.ofList field, .null, notEmpty⟩, ?_⟩
  rw [← String.toList_inj, whole]
  simp [FieldChange.key]

/-- A key names no field if it is not of the form of one that does. -/
theorem fieldOfKey?_eq_none_iff {key : String} :
    fieldOfKey? key = none ↔ ∀ change : FieldChange, key ≠ change.key := by
  constructor
  · rintro nameless change rfl
    rw [fieldOfKey?_key] at nameless
    cases nameless
  · intro different
    cases cut : cutKey key.toList with
    | mk before field =>
        have unlike (part : Section) (isNamed : ¬field.isEmpty = true) :
            before ≠ part.name.toList := by
          rintro rfl
          obtain ⟨change, same⟩ := exists_key_of_cutKey cut (by simpa using isNamed)
          exact different change same
        rw [fieldOfKey?, cut]
        dsimp only
        split
        · rfl
        · next isNamed =>
            exact (if_neg (unlike .parser isNamed)).trans (if_neg (unlike .renderer isNamed))

end Config

/-! ## Fields that are set in a dump -/

namespace FieldChange

/-- The value of a configuration once the field is set in it. -/
def setIn (change : FieldChange) : Json → Json
  | .object sections => .object <| sections.map fun entry =>
      match entry with
      | (name, .object members) =>
        if name = change.part.name then (name, .object (Json.put members change.field change.value))
        else entry
      | _ => entry
  | value => value

/-- The value of a configuration once all the fields are set in it, one after another. -/
def setAll (changes : List FieldChange) (value : Json) : Json :=
  changes.foldl (fun value change => change.setIn value) value

theorem setAll_sections (changes : List FieldChange) (parser renderer : List (String × Json)) :
    setAll changes (.object [("parser", .object parser), ("renderer", .object renderer)]) =
      .object [("parser", .object (Json.merge parser (changes.filterMap (member? .parser)))),
        ("renderer", .object (Json.merge renderer (changes.filterMap (member? .renderer))))] := by
  induction changes generalizing parser renderer with
  | nil => rfl
  | cons change changes inductionHypothesis =>
      rw [setAll, List.foldl_cons, ← setAll]
      obtain ⟨part, field, value, isNamed⟩ := change
      cases part with
      | parser => exact inductionHypothesis (Json.put parser field value) renderer
      | renderer => exact inductionHypothesis parser (Json.put renderer field value)

theorem changesTo_map_override (part : Section) (changes : List FieldChange) :
    Config.changesTo part (changes.map override) =
      Json.merge [] (changes.filterMap (member? part)) := by
  rw [Config.changesTo, List.filterMap_map]
  congr 2
  funext change
  simp only [Function.comp_apply, override, Config.fieldOfKey?_key, member?]

end FieldChange

namespace Config

theorem Limits.fst_mem_fields (limits : Limits) :
    ∀ member ∈ limits.toMembers, member.1 ∈ Section.parser.fields := by
  simp [Limits.toMembers, Section.fields]

theorem LayoutOptions.fst_mem_fields (options : LayoutOptions) :
    ∀ member ∈ options.toMembers, member.1 ∈ Section.renderer.fields := by
  simp [LayoutOptions.toMembers, Section.fields]

/-- Overrides come to the same as fields that are set in a dump, which is then read. -/
theorem override_map (config : Config) (changes : List FieldChange) :
    config.override (changes.map FieldChange.override) =
      ofJson (FieldChange.setAll changes config.toJson) := by
  have noField : fieldOfKey? "self" = none := rfl
  have notReserved : (changes.map FieldChange.override).any (·.1 = "self") = false := by
    rw [List.any_eq_false, List.forall_mem_map]
    intro change _ reserved
    exact fieldOfKey?_eq_none_iff.mp noField change (of_decide_eq_true reserved).symm
  have allNamed : (changes.map FieldChange.override).find?
      (fun change => (fieldOfKey? change.1).isNone) = none := by
    rw [List.find?_eq_none, List.forall_mem_map]
    exact fun change _ => by simp [FieldChange.override, fieldOfKey?_key]
  have limits := (Section.readsAlike_changedMembers (Limits.fst_mem_fields config.limits)
    (changes.filterMap (FieldChange.member? .parser))).limits
  have layout := (Section.readsAlike_changedMembers (LayoutOptions.fst_mem_fields config.layout)
    (changes.filterMap (FieldChange.member? .renderer))).layout
  rw [toJson, FieldChange.setAll_sections, ofJson_sections, override, notReserved, allNamed,
    FieldChange.changesTo_map_override, FieldChange.changesTo_map_override, limits, layout]
  rfl

/-- The first key that names no field is refused, but for the one that the configuration goes by. -/
theorem override_eq_error {config : Config} {overrides : List (String × Json)}
    (notReserved : ∀ change ∈ overrides, change.1 ≠ "self")
    (nameless : ∃ change ∈ overrides, ∀ named : FieldChange, change.1 ≠ named.key) :
    ∃ before change after, overrides = before ++ change :: after ∧
      (∀ earlier ∈ before, ∃ named : FieldChange, earlier.1 = named.key) ∧
      (∀ named : FieldChange, change.1 ≠ named.key) ∧
      config.override overrides = .error (.overrideKey change.1) := by
  have unreserved : overrides.any (·.1 = "self") = false := by
    rw [List.any_eq_false]
    exact fun change member => by simpa using notReserved change member
  cases found : overrides.find? fun change => (fieldOfKey? change.1).isNone with
  | none =>
      obtain ⟨change, member, unlike⟩ := nameless
      have named := List.find?_eq_none.mp found change member
      exact absurd (Option.isNone_iff_eq_none.mpr (fieldOfKey?_eq_none_iff.mpr unlike)) named
  | some change =>
      obtain ⟨isNone, before, after, split, earlier⟩ := List.find?_eq_some_iff_append.mp found
      refine ⟨before, change, after, split, fun first member => ?_,
        fieldOfKey?_eq_none_iff.mp (Option.isNone_iff_eq_none.mp isNone), ?_⟩
      · by_cases named : ∃ named : FieldChange, first.1 = named.key
        · exact named
        · have none := fieldOfKey?_eq_none_iff.mpr (not_exists.mp named)
          exact absurd (earlier first member) (by simp [none])
      · rw [override, unreserved, found]
        rfl

/-- Overrides of the configuration are checked updates of its fields, and it has passed the checks
itself. What is overridden stays as it is: an override makes another configuration of it. -/
structure UpdatesFields (config : Config) : Prop where
  /-- However deep its values are, the configuration can be dumped if there are enough places. -/
  isDumped : ∃ enough, ∀ places, enough ≤ places → ∃ dumped, config.dumpWithin places = .ok dumped
  /-- With some fields overridden it is what is read once they are set in a dump, or fails as that
  does. -/
  override_eq : ∀ (changes : List FieldChange) places dumped, config.dumpWithin places = .ok dumped →
    config.override (changes.map FieldChange.override) =
      ofJson (FieldChange.setAll changes dumped.value)
  /-- The first key of any other form is refused. -/
  override_eq_error : ∀ overrides : List (String × Json),
    (∀ change ∈ overrides, change.1 ≠ "self") →
    (∃ change ∈ overrides, ∀ named : FieldChange, change.1 ≠ named.key) →
    ∃ before change after, overrides = before ++ change :: after ∧
      (∀ earlier ∈ before, ∃ named : FieldChange, earlier.1 = named.key) ∧
      (∀ named : FieldChange, change.1 ≠ named.key) ∧
      config.override overrides = .error (.overrideKey change.1)
  maxNestingDepth : config.limits.maxNestingDepth.leInt 0 = false
  maxInputLength : ∀ amount, config.limits.maxInputLength = some amount → amount.leInt 0 = false
  indentSize : config.layout.indentSize.intLe 0 = true ∧ config.layout.indentSize.leInt 16 = true

/-- Wherever a configuration comes from, overrides update its fields and nothing else. -/
theorem updatesFields_of_obtained {config : Config} (obtained : Obtained config) :
    config.UpdatesFields := by
  have checked := obtained.isChecked
  constructor
  · obtain ⟨enough, dumps⟩ := config.exists_dumpWithin
    exact ⟨enough, fun places more => ⟨_, dumps places more⟩⟩
  · intro changes places dumped success
    rw [(dumpWithin_eq_ok success).1]
    exact config.override_map changes
  · exact fun overrides notReserved nameless => Config.override_eq_error notReserved nameless
  · simpa [isUsableLimit] using checked.limits.maxNestingDepth
  · exact fun amount given => by
      simpa [isUsableLimit] using checked.limits.maxInputLength amount given
  · have size := checked.layout.indentSize
    rw [isUsableIndent, Bool.and_eq_true] at size
    exact size

/-- A configuration without a limit in effect, since no number is at most one that is none, and with a
list for a truth value. -/
def unlimited : Config :=
  { limits := { maxNestingDepth := .real .nan }, layout := { useTabs := .array [.null] } }

/-- Of a size that is too great and a field that is unknown the field is told, in an override as in a
reading. -/
theorem updatesFields_unlimited :
    Obtained unlimited ∧ unlimited.UpdatesFields ∧
      unlimited.override [("renderer__indent_size", .whole 17), ("parser__depth", .null)] =
        .error (.unknownField .parser "depth") := by
  have limitsGiven : ofJson (.object [("parser", .object [("max_nesting_depth", .real .nan)])]) =
      .ok { limits := unlimited.limits } := by
    simp [ofJson, unknownSections]
    rfl
  have distinct :
      (Json.object [("parser", .object [("max_nesting_depth", .real .nan)])]).HasDistinctNames := by
    simp [Json.HasDistinctNames, Json.parts, Json.partsOfMembers]
  have overridden : override { limits := unlimited.limits }
      [("renderer__use_tabs", unlimited.layout.useTabs)] = .ok unlimited :=
    rfl
  have tabsDistinct : unlimited.layout.useTabs.HasDistinctNames := by
    simp [unlimited, Json.HasDistinctNames, Json.parts, Json.partsOfItems]
  have obtained : Obtained unlimited :=
    .override (.value distinct limitsGiven) (by simpa using tabsDistinct) overridden
  exact ⟨obtained, updatesFields_of_obtained obtained, rfl⟩

end Config

end JsxFragment
