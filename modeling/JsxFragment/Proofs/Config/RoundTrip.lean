import JsxFragment.Config.Dump
import JsxFragment.Proofs.Config.Checked
import JsxFragment.Proofs.Json.RoundTrip

/-!
# Dumped configurations

A configuration that has been read or overridden, and that holds no floating-point number, is read
back from its dump: from the value and from the text.
-/

namespace JsxFragment

/-! ## Enough places -/

namespace Json

/-- The value can be copied if there are enough places on the stack. -/
def IsCopyable (value : Json) : Prop :=
  ∃ enough, ∀ places, enough ≤ places → copyFault? places value = none

theorem leafFault?_eq_none {places : Nat} (enough : 3 ≤ places) : leafFault? places = none := by
  rw [leafFault?, if_neg (by omega), if_neg (by omega)]

theorem itemsFault?_eq_none {items : List Json} (copyable : ∀ item ∈ items, item.IsCopyable) :
    ∃ enough, ∀ places, enough ≤ places → itemsFault? places items = none := by
  induction items with
  | nil => exact ⟨0, fun _ _ => rfl⟩
  | cons item rest inductionHypothesis =>
      obtain ⟨forItem, item⟩ := copyable item List.mem_cons_self
      obtain ⟨forRest, rest⟩ :=
        inductionHypothesis fun item member => copyable item (List.mem_cons_of_mem _ member)
      refine ⟨max forItem forRest, fun places enough => ?_⟩
      simp only [itemsFault?, item places (by omega), rest places (by omega)]

theorem membersFault?_eq_none {members : List (String × Json)}
    (copyable : ∀ member ∈ members, member.2.IsCopyable) :
    ∃ enough, ∀ places, enough ≤ places → membersFault? places members = none := by
  induction members with
  | nil => exact ⟨0, fun _ _ => rfl⟩
  | cons member rest inductionHypothesis =>
      obtain ⟨forValue, value⟩ := copyable member List.mem_cons_self
      obtain ⟨forRest, rest⟩ :=
        inductionHypothesis fun member held => copyable member (List.mem_cons_of_mem _ held)
      refine ⟨max 3 (max forValue forRest), fun places enough => ?_⟩
      simp only [membersFault?, leafFault?_eq_none (show 3 ≤ places by omega),
        value places (by omega), rest places (by omega)]

/-- Every value can be copied, since it is only so deep. -/
theorem isCopyable (value : Json) : value.IsCopyable := by
  induction value using inductionOn with
  | null | bool | whole | real | string =>
      exact ⟨3, fun places enough => leafFault?_eq_none enough⟩
  | array items inductionHypothesis =>
      obtain ⟨forItems, items⟩ := itemsFault?_eq_none inductionHypothesis
      refine ⟨forItems + 2, fun places enough => ?_⟩
      rw [copyFault?, if_neg (by omega), items (places - 2) (by omega)]
  | object members inductionHypothesis =>
      obtain ⟨forMembers, members⟩ := membersFault?_eq_none inductionHypothesis
      refine ⟨forMembers + 2, fun places enough => ?_⟩
      rw [copyFault?, if_neg (by omega), members (places - 2) (by omega)]

end Json

namespace Config

theorem exists_dumpWithin (config : Config) :
    ∃ enough, ∀ places, enough ≤ places →
      config.dumpWithin places = .ok { value := config.toJson, text := config.toJson.pretty } := by
  have copyable : ∀ value ∈ [config.layout.useTabs, config.layout.preserveComments],
      value.IsCopyable :=
    fun value _ => value.isCopyable
  obtain ⟨enough, copied⟩ := Json.itemsFault?_eq_none copyable
  refine ⟨enough + 1, fun places more => ?_⟩
  simp only [dumpWithin, copyFault?, copied places (by omega), copied (places - 1) (by omega)]

/-! ## Reading back -/

/-- No value of the configuration is a floating-point number or holds one. -/
def IsExact (config : Config) : Prop :=
  ∀ x, .real x ∉ config.toJson.parts

/-- No whole number in the configuration has more digits than are read. -/
def HasFewDigits (config : Config) : Prop :=
  ∀ n, .whole n ∈ config.toJson.parts → (Json.unsignedDigits n).length ≤ Number.maxDecimalDigits

/-- The configuration is read back from its dumps. -/
structure SurvivesDumping (config : Config) : Prop where
  /-- However deep its values are, the configuration can be dumped if there are enough places. -/
  isDumped : ∃ enough, ∀ places, enough ≤ places → ∃ dumped, config.dumpWithin places = .ok dumped
  /-- The value of a dump is read as the configuration. -/
  ofJson_value : ∀ places dumped, config.dumpWithin places = .ok dumped →
    ofJson dumped.value = .ok config
  /-- The text of a dump is read as the configuration, however long its numbers are. -/
  ofParsed_text : ∀ places dumped, config.dumpWithin places = .ok dumped →
    ofParsed (Json.parseUnbounded dumped.text) = .ok config
  /-- So it is by the reader that refuses long numbers, where there are none. -/
  ofText_text : config.HasFewDigits → ∀ places dumped, config.dumpWithin places = .ok dumped →
    ofText dumped.text = .ok config

/-- Configurations survive dumping and reading, if no floating-point number is in them. -/
theorem survivesDumping_of_obtained {config : Config} (obtained : Obtained config)
    (isExact : config.IsExact) : config.SurvivesDumping := by
  have value : ofJson config.toJson = .ok config := obtained.isChecked.ofJson_toJson
  have distinct := hasDistinctNames_toJson obtained.hasDistinctNames
  constructor
  · obtain ⟨enough, dumps⟩ := config.exists_dumpWithin
    exact ⟨enough, fun places more => ⟨_, dumps places more⟩⟩
  · intro places dumped success
    rw [(dumpWithin_eq_ok success).1, value]
  · intro places dumped success
    rw [(dumpWithin_eq_ok success).2, Json.parseUnbounded_pretty isExact distinct]
    exact value
  · intro few places dumped success
    rw [(dumpWithin_eq_ok success).2, ofText, Json.parse_pretty ⟨isExact, few, distinct⟩]
    exact value

/-- A configuration with a truth value for a limit, and with values in values. -/
def nested : Config :=
  { limits := { maxNestingDepth := .truth true }
    layout :=
      { useTabs :=
          .array [.null, .object [("\"é", .string "😀\n"), ("", .whole (-12))], .array []] } }

/-- Read from a value and overridden, a configuration of nested values survives. -/
theorem survivesDumping_nested :
    Obtained nested ∧ nested.IsExact ∧ nested.SurvivesDumping := by
  have tabsDistinct : nested.layout.useTabs.HasDistinctNames := by
    simp [nested, Json.HasDistinctNames, Json.parts, Json.partsOfItems, Json.partsOfMembers]
  have unlimited : ∀ amount, nested.limits.maxInputLength = some amount →
      isUsableLimit amount = true :=
    fun _ given => absurd given (Option.some_ne_none _).symm
  have checked : ({ limits := nested.limits } : Config).IsChecked := ⟨⟨rfl, unlimited⟩, ⟨rfl⟩⟩
  have limited : Obtained { limits := nested.limits } :=
    .value (hasDistinctNames_toJson ⟨Json.hasDistinctNames_bool _, Json.hasDistinctNames_bool _⟩)
      checked.ofJson_toJson
  have overridden :
      override { limits := nested.limits } [("renderer__use_tabs", nested.layout.useTabs)] =
        .ok nested :=
    rfl
  have obtained : Obtained nested := .override limited (by simpa using tabsDistinct) overridden
  have isExact : nested.IsExact := by
    intro x
    simp [nested, toJson, Limits.toMembers, LayoutOptions.toMembers, Json.parts,
      Json.partsOfItems, Json.partsOfMembers, Json.ofAmount]
  exact ⟨obtained, isExact, survivesDumping_of_obtained obtained isExact⟩

end Config

end JsxFragment
