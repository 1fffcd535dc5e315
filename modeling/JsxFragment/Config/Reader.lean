import JsxFragment.Config.Fault

/-!
Reading of configurations from JSON, and changes to single fields. A section is read as a whole: an
unknown field is refused before any value is looked at, and a field that is missing has its default.
-/

namespace JsxFragment

open Number

/-- The first member of a section that is no field of it. -/
def Section.foreign? (part : Section) (members : List (String × Json)) : Option ConfigFault :=
  (members.find? fun member => !part.fields.contains member.1).map fun member =>
    if member.1 = "self" then .reservedField part else .unknownField part member.1

/-- A member of a section as a number, or the default if the section has none. -/
def Section.amount (part : Section) (members : List (String × Json)) (field : String)
    (default : Amount) : Except ConfigFault Amount :=
  match members.lookup field with
  | none => .ok default
  | some value =>
    match value.amount? with
    | some amount => .ok amount
    | none => .error (.notANumber part value.kindName)

/-- Whether an amount is a usable limit: no limit may be zero or less. -/
def isUsableLimit (amount : Amount) : Bool :=
  !amount.leInt 0

/-- Whether an amount is a usable size of an indentation. -/
def isUsableIndent (amount : Amount) : Bool :=
  amount.intLe 0 && amount.leInt maxIndentSize

/-- The limit on the length of the input; null is no limit. -/
def inputLengthOf (members : List (String × Json)) : Except ConfigFault (Option Amount) :=
  match members.lookup "max_input_length" with
  | none => .ok none
  | some .null => .ok none
  | some value =>
    match value.amount? with
    | none => .error (.notANumber .parser value.kindName)
    | some amount =>
      if isUsableLimit amount then .ok (some amount) else .error .inputLengthOutOfRange

/-- The limits that the members of a section give. -/
def Limits.ofMembers (members : List (String × Json)) : Except ConfigFault Limits :=
  match Section.parser.foreign? members with
  | some fault => .error fault
  | none =>
    match Section.parser.amount members "max_nesting_depth" (.whole 10000) with
    | .error fault => .error fault
    | .ok depth =>
      if isUsableLimit depth then
        match inputLengthOf members with
        | .error fault => .error fault
        | .ok length => .ok { maxNestingDepth := depth, maxInputLength := length }
      else .error .nestingDepthOutOfRange

/-- The layout that the members of a section give. -/
def LayoutOptions.ofMembers (members : List (String × Json)) : Except ConfigFault LayoutOptions :=
  match Section.renderer.foreign? members with
  | some fault => .error fault
  | none =>
    match Section.renderer.amount members "indent_size" (.whole 2) with
    | .error fault => .error fault
    | .ok size =>
      if isUsableIndent size then
        .ok
          { indentSize := size
            useTabs := (members.lookup "use_tabs").getD (.bool false)
            preserveComments := (members.lookup "preserve_comments").getD (.bool true) }
      else .error .indentSizeOutOfRange

/-- The members of a section of a configuration; a section that is missing has none. -/
def Section.membersIn (part : Section) (members : List (String × Json)) :
    Except ConfigFault (List (String × Json)) :=
  match members.lookup part.name with
  | none => .ok []
  | some (.object fields) => .ok fields
  | some other => .error (.sectionNotAnObject part other.kindName)

/-- The names of the members that are no sections, in alphabetical order. -/
def unknownSections (members : List (String × Json)) : List String :=
  let names := members.map (·.1)
  (names.filter fun name => name ≠ "parser" && name ≠ "renderer").mergeSort fun a b =>
    decide (a ≤ b)

namespace Config

/-- The configuration that a JSON value describes. -/
def ofJson (value : Json) : Except ConfigFault Config :=
  match value with
  | .object members =>
    match unknownSections members with
    | [] => do
      let limits ← Limits.ofMembers (← Section.parser.membersIn members)
      let layout ← LayoutOptions.ofMembers (← Section.renderer.membersIn members)
      return { limits, layout }
    | names => .error (.unknownSections names)
  | _ => .error .notAnObject

/-- The configuration that a JSON value describes, once a text has been read as one. -/
def ofParsed : Except JsonFault Json → Except ConfigFault Config
  | .error fault => .error (.json fault)
  | .ok value => ofJson value

/-- The configuration that a JSON text describes. -/
def ofText (text : String) : Except ConfigFault Config :=
  ofParsed (Json.parse text)

/-- The configuration that a JSON text describes, if its arrays and objects are nested no deeper than
a limit. -/
def ofTextWithin (limit : Nat) (text : String) : Except ConfigFault Config :=
  ofParsed (Json.parseWithin limit text)

/-- How deep the arrays and objects of a text from outside may be nested. -/
def maxTextNesting : Nat :=
  991

/-- How deep the arrays and objects of a file may be nested: the file itself takes three levels. -/
def maxFileNesting : Nat :=
  maxTextNesting - 3

/-! ## Overrides -/

/-- Cuts a key at the first pair of underscores. -/
def cutKey : List Char → List Char × List Char
  | '_' :: '_' :: rest => ([], rest)
  | c :: rest =>
    let cut := cutKey rest
    (c :: cut.1, cut.2)
  | [] => ([], [])

/-- The section and the field that the key of an override names. -/
def fieldOfKey? (key : String) : Option (Section × String) :=
  let cut := cutKey key.toList
  let field := String.ofList cut.2
  if cut.2.isEmpty then none
  else if cut.1 = "parser".toList then some (.parser, field)
  else if cut.1 = "renderer".toList then some (.renderer, field)
  else none

/-- The changes that the overrides make to a section. -/
def changesTo (part : Section) (overrides : List (String × Json)) : List (String × Json) :=
  Json.merge [] <| overrides.filterMap fun change =>
    match fieldOfKey? change.1 with
    | some (other, field) => if other = part then some (field, change.2) else none
    | none => none

/-- The members that a changed record is made of: the changes first, and then the members of the
record that they leave as they are. -/
def changedMembers (members changes : List (String × Json)) : List (String × Json) :=
  changes ++ members.filter fun member => !changes.any (·.1 = member.1)

/-- The configuration with some fields changed. Each section is made anew, of its changes and of what
they leave of it. -/
def override (config : Config) (overrides : List (String × Json)) : Except ConfigFault Config :=
  if overrides.any (·.1 = "self") then .error .reservedOverride
  else
    match overrides.find? fun change => (fieldOfKey? change.1).isNone with
    | some change => .error (.overrideKey change.1)
    | none => do
      let limits ←
        Limits.ofMembers (changedMembers config.limits.toMembers (changesTo .parser overrides))
      let layout ←
        LayoutOptions.ofMembers
          (changedMembers config.layout.toMembers (changesTo .renderer overrides))
      return { limits, layout }

end Config

end JsxFragment
