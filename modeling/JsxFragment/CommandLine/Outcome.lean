import JsxFragment.CommandLine.FileTree
import JsxFragment.CommandLine.Flag
import JsxFragment.Config.Fault
import JsxFragment.Failure

/-!
How a run of the program can end: with an outcome, whatever its exit code, or with a breakdown.
-/

namespace JsxFragment.CommandLine

/-- What a run leaves behind. -/
structure Outcome where
  code : Nat
  stdout : String := ""
  stderr : String := ""
  /-- The text to be written to a file. -/
  file : Option (Path × String) := none
  deriving DecidableEq, Repr

/-- Why a run stops without an outcome. -/
inductive Breakdown where
  | config (fault : ConfigFault)
  | conversion (failure : Failure)
  /-- A path that no file can have. -/
  | unusablePath
  deriving DecidableEq, Repr

/-- The reason in words. -/
def Breakdown.message : Breakdown → String
  | .config fault => fault.message
  | .conversion failure => failure.message
  | .unusablePath => "embedded null byte"

/-- The end of a run that has nothing to convert. -/
def Outcome.noInput : Outcome :=
  { code := 1, stdout := helpText, stderr := "No input provided.\n" }

/-- The end of a run that the user interrupts. -/
def Outcome.interrupted : Outcome :=
  { code := 130, stderr := "\nOperation interrupted by user\n" }

/-- The outcome if the file cannot be written. -/
def Outcome.unwritten (outcome : Outcome) (path : Path) (fault : FileFault) : Outcome :=
  { code := 1
    stdout := outcome.stdout
    stderr := outcome.stderr ++ "Error: " ++ fault.message path ++ "\n" }

/-- What ends a run early: an outcome, or a breakdown. -/
inductive Ending where
  | outcome (outcome : Outcome)
  | breakdown (breakdown : Breakdown)

namespace Ending

/-- An end with a message. -/
def withMessage (message : String) : Ending :=
  .outcome { code := 1, stderr := message ++ "\n" }

/-- An end since a file or its contents cannot be used. -/
def withError (message : String) : Ending :=
  withMessage ("Error: " ++ message)

/-- The end that a refused configuration brings. -/
def ofConfigFault (fault : ConfigFault) : Ending :=
  match fault with
  | .json (.overlongNumber _) | .json (.nestedTooDeep _) => .breakdown (.config fault)
  | _ => withMessage fault.message

end Ending

end JsxFragment.CommandLine
