import JsxFragment.CommandLine.Source
import JsxFragment.Conversion.Log

/-!
A run of the program: from a command line, the files that can be read and standard input, to what is
printed and what is written to a file.
-/

namespace JsxFragment.CommandLine

/-! ## The log -/

/-- How much of the log is shown. -/
inductive Verbosity where
  | errors
  | warnings
  | everything
  deriving DecidableEq, Repr

/-- How much of the log a command line asks for. -/
def Arguments.verbosity (arguments : Arguments) : Verbosity :=
  if arguments.has .verbose then .everything
  else if arguments.has .quiet then .errors
  else .warnings

/-- The record of a finished conversion. -/
def summaryRecord : LogRecord :=
  (Logger.make "html_to_jsx_transform.cli.main" none (some "cli")).record .debug
    "Conversion summary"

/-- A record as it is shown. -/
def showRecord (verbosity : Verbosity) (record : LogRecord) : String :=
  match verbosity with
  | .everything => record.level.name ++ ":" ++ record.logger ++ ":" ++ record.message ++ "\n"
  | .warnings => if record.level = .warning then record.message ++ "\n" else ""
  | .errors => ""

/-- The log of a conversion as it is shown. -/
def showLog (verbosity : Verbosity) (records : List LogRecord) : String :=
  String.join (records.map (showRecord verbosity))

/-! ## The run -/

/-- Converts the HTML, and prints the result unless it goes to a file. -/
def deliver (arguments : Arguments) (config : Config) (html : String) : Except Ending Outcome :=
  let verbosity := arguments.verbosity
  let log := Conversion.log config none html
  match htmlToJsx config html with
  | .error failure =>
    match failure.exhaustion? with
    | none => .error (.breakdown (.conversion failure))
    | some _ =>
      .ok { code := 1, stderr := showLog verbosity log ++ failure.message ++ "\n" }
  | .ok jsx =>
    let stderr := showLog verbosity (log ++ [summaryRecord])
    match arguments.output.value? with
    | none => .ok { code := 0, stdout := jsx ++ "\n", stderr }
    | some path =>
      if path.isUnusable then .error (.breakdown .unusablePath)
      else .ok { code := 0, stderr, file := some (path, jsx) }

/-- The run of a command line that has been understood. -/
def runArguments (around : Surroundings) (arguments : Arguments) : Except Ending Outcome :=
  if arguments.has .help then .ok { code := 0, stdout := helpText }
  else if arguments.has .version then .ok { code := 0, stdout := programVersion ++ "\n" }
  else do
    let config ← configFor around arguments
    let html ← htmlFor around arguments
    deliver arguments config html

/-- Runs the program. -/
def run (around : Surroundings) (texts : List String) : Except Breakdown Outcome :=
  match Arguments.ofStrings texts with
  | .error fault => .ok { code := 1, stderr := fault.message ++ "\n" }
  | .ok arguments =>
    match runArguments around arguments with
    | .ok outcome | .error (.outcome outcome) => .ok outcome
    | .error (.breakdown breakdown) => .error breakdown

/-- Runs the program in a directory with these files, and writes the file that is to be written. -/
def runIn (tree : FileTree) (isTerminal : Bool) (stdin : Option String) (texts : List String) :
    Except Breakdown (Outcome × FileTree) :=
  match run { read := tree.read, isTerminal, stdin } texts with
  | .error breakdown => .error breakdown
  | .ok outcome =>
    match outcome.file with
    | none => .ok (outcome, tree)
    | some (path, text) =>
      match tree.write path text with
      | .error fault => .ok (outcome.unwritten path fault, tree)
      | .ok after => .ok (outcome, after)

end JsxFragment.CommandLine
