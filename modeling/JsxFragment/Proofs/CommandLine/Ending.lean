import JsxFragment.CommandLine.Run
import JsxFragment.Proofs.Config.Checked

/-!
# How a run ends

Whatever ends a run early keeps silent on standard output and has no file to write, but for the help
where there is nothing to convert. A run that converts does so for one source and one configuration.
-/

namespace JsxFragment

/-! ## An indentation over a configuration -/

namespace CommandLine

/-! ## What a command line asks for -/

/-- The file with the configuration is read as this one; without a file it is the default one. -/
inductive HasBase (around : Surroundings) (arguments : Arguments) : Config → Prop where
  | default (noFile : arguments.config.value? = none) : HasBase around arguments {}
  | file {path : Path} {text : String} {config : Config}
      (named : arguments.config.value? = some path) (read : around.readText path = .ok text)
      (accepted : Config.ofTextWithin Config.maxFileNesting text = .ok config) :
      HasBase around arguments config

/-- The configuration of a command line: that of its file, with its indentation over it. -/
inductive Configures (around : Surroundings) (arguments : Arguments) : Config → Prop where
  | base {base : Config} (hasBase : HasBase around arguments base)
      (noIndent : arguments.indent = .nothing) : Configures around arguments base
  | indented {base : Config} {size : Int} (hasBase : HasBase around arguments base)
      (indent : arguments.indent = .value size) :
      Configures around arguments
        { base with layout := { base.layout with indentSize := .whole size } }

/-- The command line names no source but one, which holds this text. -/
inductive Selects (around : Surroundings) (arguments : Arguments) : String → Prop where
  | file {path : Path} {text : String} (noStdin : arguments.has .stdin = false)
      (named : arguments.input.value? = some path) (noWords : arguments.html = [])
      (read : around.readText path = .ok text) : Selects around arguments text
  | words (noStdin : arguments.has .stdin = false) (noFile : arguments.input.value? = none)
      (given : arguments.html ≠ []) : Selects around arguments (" ".intercalate arguments.html)
  | stdin {text : String} (asked : arguments.has .stdin = true ∨ around.isTerminal = false)
      (noFile : arguments.input.value? = none) (noWords : arguments.html = [])
      (read : around.stdin = some text) : Selects around arguments text

/-- The command line names no source, and standard input is no source by itself. -/
structure LacksInput (around : Surroundings) (arguments : Arguments) : Prop where
  noStdin : arguments.has .stdin = false
  noFile : arguments.input.value? = none
  noWords : arguments.html = []
  isTerminal : around.isTerminal = true

/-- The outcome is a failure that prints nothing and writes nothing. -/
structure Outcome.IsSilentFailure (outcome : Outcome) : Prop where
  code : outcome.code ≠ 0
  stdout : outcome.stdout = ""
  file : outcome.file = none

section
variable {around : Surroundings}

theorem HasBase.isChecked {arguments : Arguments} {base : Config}
    (hasBase : HasBase around arguments base) : base.IsChecked := by
  cases hasBase with
  | default => exact Config.isChecked_default
  | file _ _ accepted =>
      unfold Config.ofTextWithin Config.ofParsed at accepted
      split at accepted
      · cases accepted
      · exact Config.isChecked_of_ofJson accepted

end

end CommandLine

end JsxFragment
