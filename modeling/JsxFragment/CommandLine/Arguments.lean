import JsxFragment.CommandLine.Path
import JsxFragment.CommandLine.Word
import JsxFragment.Text.Quoted
import JsxFragment.Text.WholeNumber

/-!
What a command line asks for. The words are taken from left to right: flags and their values where
they stand, and the first run of plain words as the HTML. Any other plain word is one too many.
-/

namespace JsxFragment.CommandLine

open Text

/-- Why a command line is refused. -/
inductive UsageFault where
  | ambiguous (ambiguity : Ambiguity)
  | missingValue (setting : Setting)
  /-- Something attached to a switch. -/
  | needlessValue (switch : Switch) (value : String)
  | notAWholeNumber (setting : Setting) (value : String)
  | repeated (setting : Setting)
  | unrecognized (words : List String)
  /-- Standard input together with another source. -/
  | stdinAndOther
  /-- An input file together with HTML on the command line. -/
  | fileAndHtml
  deriving DecidableEq, Repr

/-- The refusal in words. -/
def UsageFault.message : UsageFault → String
  | .ambiguous ambiguity =>
    "ambiguous option: " ++ ambiguity.word ++ " could match "
      ++ ", ".intercalate (ambiguity.candidates.map Flag.longName)
  | .missingValue setting =>
    "argument " ++ (Flag.setting setting).label ++ ": expected one argument"
  | .needlessValue switch value =>
    "argument " ++ (Flag.switch switch).label ++ ": ignored explicit argument " ++ quoted value
  | .notAWholeNumber setting value =>
    "argument " ++ (Flag.setting setting).label ++ ": invalid int value: " ++ quoted value
  | .repeated setting =>
    "argument " ++ (Flag.setting setting).label ++ ": Only one "
      ++ (Flag.setting setting).longName ++ " value is allowed."
  | .unrecognized words => "unrecognized arguments: " ++ " ".intercalate words
  | .stdinAndOther => "--stdin cannot be combined with --input or a positional HTML value."
  | .fileAndHtml => "Provide either --input or a positional HTML value, not both."

/-! ## Values -/

/-- What a command line gives for a setting. -/
inductive Given (α : Type) where
  /-- The setting is not there. -/
  | nothing
  /-- The setting is there, but what is attached to it is a double dash, which is no value. -/
  | blank
  | value (value : α)
  deriving DecidableEq, Repr

namespace Given

/-- Whether the setting is there, with a value or without one. -/
def isThere {α : Type} : Given α → Bool
  | .nothing => false
  | _ => true

/-- The value, if there is one. -/
def value? {α : Type} : Given α → Option α
  | .value given => some given
  | _ => none

/-- The text that is given for a path. -/
def path (text : String) : Given Path :=
  if text = "--" then .blank else .value (.ofString text)

/-- The text that is given for a whole number, if it is one. -/
def wholeNumber? (text : String) : Option (Given Int) :=
  if text = "--" then some .blank else (readWholeNumber? text).map .value

end Given

/-! ## Arguments -/

/-- What a command line asks for. -/
structure Arguments where
  /-- The words of the HTML. -/
  html : List String := []
  switches : List Switch := []
  input : Given Path := .nothing
  output : Given Path := .nothing
  indent : Given Int := .nothing
  config : Given Path := .nothing
  deriving DecidableEq, Repr

namespace Arguments

/-- Whether a switch is on. -/
def has (arguments : Arguments) (switch : Switch) : Bool :=
  arguments.switches.contains switch

/-- Whether there is anything to convert: the help and the version are told without it. -/
def converts (arguments : Arguments) : Bool :=
  !arguments.has .help && !arguments.has .version

/-- Turns switches on. -/
def turnOn (arguments : Arguments) (switches : List Switch) : Arguments :=
  { arguments with switches := arguments.switches ++ switches }

/-- Gives a setting its value. Of several indentations or configurations the last one counts; a
second input or output is refused, also where one of the two has no value. -/
def set (arguments : Arguments) (setting : Setting) (text : String) :
    Except UsageFault Arguments :=
  match setting with
  | .input =>
    if arguments.input.isThere then .error (.repeated setting)
    else .ok { arguments with input := .path text }
  | .output =>
    if arguments.output.isThere then .error (.repeated setting)
    else .ok { arguments with output := .path text }
  | .config => .ok { arguments with config := .path text }
  | .indent =>
    match Given.wholeNumber? text with
    | some indent => .ok { arguments with indent }
    | none => .error (.notAWholeNumber setting text)

end Arguments

/-! ## Joined letters -/

/-- What joined letters stand for: switches, and after them perhaps a setting with the value that is
attached to it, if one is. -/
structure Joined where
  switches : List Switch
  setting : Option (Setting × Option String)
  deriving DecidableEq, Repr

/-- What the letters after a switch stand for. Each has to be a short name, up to the first setting;
what follows a setting is its value. -/
def readLetters (switch : Switch) : List Char → Except UsageFault Joined
  | [] => .ok { switches := [switch], setting := none }
  | letter :: rest =>
    match Flag.ofLetter? letter with
    | none => .error (.needlessValue switch (String.ofList (letter :: rest)))
    | some (.setting setting) =>
      let value := if rest.isEmpty then none else some (String.ofList rest)
      .ok { switches := [switch], setting := some (setting, value) }
    | some (.switch next) =>
      match readLetters next rest with
      | .error fault => .error fault
      | .ok joined => .ok { joined with switches := switch :: joined.switches }

/-- What a flag stands for, with what is attached to its name. -/
def readFlag (flag : Flag) (kind : NameKind) (attached : Option String) :
    Except UsageFault Joined :=
  match flag, attached with
  | .setting setting, attached => .ok { switches := [], setting := some (setting, attached) }
  | .switch switch, none => .ok { switches := [switch], setting := none }
  | .switch switch, some value =>
    if kind = .short && value ≠ "" then readLetters switch value.toList
    else .error (.needlessValue switch value)

/-! ## From left to right -/

/-- How far the reading of a command line has come. -/
structure Progress where
  arguments : Arguments := {}
  /-- The plain words directly before this place, the last of them first. -/
  run : List String := []
  /-- Whether the words of the HTML have been taken. -/
  hasHtml : Bool := false
  /-- The words that nothing can be made of, the last of them first. -/
  unrecognized : List String := []

namespace Progress

/-- Ends a run of plain words. The first run is the HTML. -/
def endRun (progress : Progress) : Progress :=
  if progress.run.isEmpty then progress
  else if progress.hasHtml then
    { progress with run := [], unrecognized := progress.run ++ progress.unrecognized }
  else
    { progress with
      run := []
      hasHtml := true
      arguments := { progress.arguments with html := progress.run.reverse } }

/-- Gives a setting its value. -/
def set (progress : Progress) (setting : Setting) (value : String) : Except UsageFault Progress :=
  match progress.arguments.set setting value with
  | .error fault => .error fault
  | .ok arguments => .ok { progress with arguments }

/-- Turns switches on. -/
def turnOn (progress : Progress) (switches : List Switch) : Progress :=
  { progress with arguments := progress.arguments.turnOn switches }

/-- Reads words. A setting without an attached value has the next word as its value, which has to be
a plain one. The double dash is no part of the HTML. -/
def readWords (progress : Progress) : List Word → Except UsageFault Progress
  | [] => .ok progress.endRun
  | .plain text :: rest => readWords { progress with run := text :: progress.run } rest
  | .separator :: rest =>
    if progress.hasHtml then readWords { progress with run := "--" :: progress.run } rest
    else readWords progress rest
  | .unknown text :: rest =>
    let ended := progress.endRun
    readWords { ended with unrecognized := text :: ended.unrecognized } rest
  | .named flag kind attached :: rest =>
    match readFlag flag kind attached with
    | .error fault => .error fault
    | .ok joined =>
      let ready := progress.endRun.turnOn joined.switches
      match joined.setting, rest with
      | none, rest => readWords ready rest
      | some (setting, some value), rest =>
        match ready.set setting value with
        | .error fault => .error fault
        | .ok next => readWords next rest
      | some (setting, none), .plain value :: rest =>
        match ready.set setting value with
        | .error fault => .error fault
        | .ok next => readWords next rest
      | some (setting, none), _ => .error (.missingValue setting)

end Progress

/-- Reads a command line. -/
def Arguments.ofStrings (texts : List String) : Except UsageFault Arguments :=
  match Word.ofStrings texts with
  | .error ambiguity => .error (.ambiguous ambiguity)
  | .ok words =>
    match Progress.readWords {} words with
    | .error fault => .error fault
    | .ok progress =>
      match progress.unrecognized.reverse with
      | [] => .ok progress.arguments
      | words => .error (.unrecognized words)

end JsxFragment.CommandLine
