import JsxFragment.Config
import JsxFragment.Json.Writer

/-!
Dumping of configurations, as a JSON value and as a text. The values of a configuration are copied
level by level, on a stack that has only so many places; values nested too deep cannot be dumped.
-/

namespace JsxFragment

/-- Where the stack ends while values are copied. -/
inductive DumpFault where
  /-- Before a value is entered. -/
  | atValue
  /-- Inside a value that holds no others. -/
  | insideLeaf
  deriving DecidableEq, Repr

/-- The fault in words. -/
def DumpFault.message : DumpFault → String
  | .atValue => "maximum recursion depth exceeded"
  | .insideLeaf => "maximum recursion depth exceeded while calling a Python object"

namespace Json

/-- Why a value that holds no others cannot be copied with so many places: it takes three of them,
two to enter it. -/
def leafFault? (places : Nat) : Option DumpFault :=
  if places < 2 then some .atValue
  else if places < 3 then some .insideLeaf
  else none

mutual

/-- Why a value cannot be copied with so many places. An array or an object takes two of them, as
long as the values in it are copied. -/
def copyFault? (places : Nat) : Json → Option DumpFault
  | .array items => if places < 2 then some .atValue else itemsFault? (places - 2) items
  | .object members => if places < 2 then some .atValue else membersFault? (places - 2) members
  | _ => leafFault? places

/-- Why one of several values cannot be copied. -/
def itemsFault? (places : Nat) : List Json → Option DumpFault
  | [] => none
  | value :: rest =>
    match copyFault? places value with
    | some fault => some fault
    | none => itemsFault? places rest

/-- Why one of several members, its name first, cannot be copied. -/
def membersFault? (places : Nat) : List (String × Json) → Option DumpFault
  | [] => none
  | (_, value) :: rest =>
    match leafFault? places with
    | some fault => some fault
    | none =>
      match copyFault? places value with
      | some fault => some fault
      | none => membersFault? places rest

end

end Json

/-- A configuration as a JSON value and as a text. -/
structure ConfigDump where
  value : Json
  text : String

namespace Config

/-- The places on the stack for the copy that becomes a JSON value. The copy that becomes a text
takes one of them for itself. -/
def placesForValue : Nat :=
  991

/-- Why the values of a configuration cannot be copied. Numbers alone never are too deep. -/
def copyFault? (config : Config) (places : Nat) : Option DumpFault :=
  Json.itemsFault? places [config.layout.useTabs, config.layout.preserveComments]

/-- Dumps a configuration, first as a value and then as a text, with so many places. -/
def dumpWithin (places : Nat) (config : Config) : Except DumpFault ConfigDump :=
  match config.copyFault? places, config.copyFault? (places - 1) with
  | some fault, _ => .error fault
  | none, some fault => .error fault
  | none, none => .ok { value := config.toJson, text := config.toJson.pretty }

/-- Dumps a configuration. -/
def dump (config : Config) : Except DumpFault ConfigDump :=
  config.dumpWithin placesForValue

/-- A dump tells the configuration as it is, in both forms. -/
theorem dumpWithin_eq_ok {places : Nat} {config : Config} {dumped : ConfigDump}
    (success : config.dumpWithin places = .ok dumped) :
    dumped.value = config.toJson ∧ dumped.text = config.toJson.pretty := by
  unfold dumpWithin at success
  split at success
  · exact absurd success (by simp)
  · exact absurd success (by simp)
  · obtain rfl := Except.ok.inj success
    exact ⟨rfl, rfl⟩

end Config

end JsxFragment
