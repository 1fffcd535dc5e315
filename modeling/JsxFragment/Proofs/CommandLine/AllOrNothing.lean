import JsxFragment.Proofs.CommandLine.Ending
import JsxFragment.Proofs.CommandLine.Written

/-!
# All or nothing

A run that fails writes no file and prints nothing but the help, and that only where it has nothing
to convert. A run that converts gives the whole result to one place: to the file that is named, or
to standard output.
-/

namespace JsxFragment.CommandLine

/-! ## What a run hands over -/

/-- The text is what the source of a command line is converted to, under its configuration. -/
structure Converts (around : Surroundings) (arguments : Arguments) (config : Config)
    (html jsx : String) : Prop where
  configures : Configures around arguments config
  selects : Selects around arguments html
  htmlToJsx_eq : htmlToJsx config html = .ok jsx

/-- The outcome hands a text over to the file that is named, or else prints it. -/
inductive HandsOver (arguments : Arguments) (jsx : String) : Outcome → Prop where
  | printed {stderr : String} (noFile : arguments.output.value? = none) :
      HandsOver arguments jsx { code := 0, stdout := jsx ++ "\n", stderr }
  | toFile {path : Path} {stderr : String} (named : arguments.output.value? = some path) :
      HandsOver arguments jsx { code := 0, stderr, file := some (path, jsx) }

/-- The command line asks for the help or for the version. -/
def AsksForInformation (texts : List String) : Prop :=
  ∃ arguments, Arguments.ofStrings texts = .ok arguments ∧
    (arguments.has .help = true ∨ arguments.has .version = true)

/-- The ways in which a run can end. -/
inductive Ends (around : Surroundings) (texts : List String) : Outcome → Prop where
  | silent {outcome : Outcome} (failure : outcome.IsSilentFailure) : Ends around texts outcome
  | noInput {arguments : Arguments} (understood : Arguments.ofStrings texts = .ok arguments)
      (lacksInput : LacksInput around arguments) : Ends around texts .noInput
  | informed {stdout : String} (asks : AsksForInformation texts) :
      Ends around texts { code := 0, stdout }
  | converted {arguments : Arguments} {config : Config} {html jsx : String} {outcome : Outcome}
      (understood : Arguments.ofStrings texts = .ok arguments)
      (asksNothing : ¬AsksForInformation texts)
      (converts : Converts around arguments config html jsx)
      (handsOver : HandsOver arguments jsx outcome) : Ends around texts outcome

section
variable {around : Surroundings} {arguments : Arguments} {config : Config} {html : String}

end

/-! ## Runs in a directory -/

/-- What becomes of an outcome in a directory: nothing more where it has no file to write, and a
failure where the file cannot be written. -/
inductive Settles (tree : FileTree) (ended : Outcome) : Outcome → FileTree → Prop where
  | noFile (file : ended.file = none) : Settles tree ended ended tree
  | unwritten {path : Path} {text : String} {fault : FileFault}
      (file : ended.file = some (path, text)) (failed : tree.write path text = .error fault) :
      Settles tree ended (ended.unwritten path fault) tree
  | written {path : Path} {text : String} {after : FileTree}
      (file : ended.file = some (path, text)) (success : tree.write path text = .ok after) :
      Settles tree ended ended after

section
variable {tree after : FileTree} {outcome : Outcome}

end

section
variable {tree after : FileTree} {around : Surroundings} {texts : List String}
  {ended outcome : Outcome}

end

end JsxFragment.CommandLine
