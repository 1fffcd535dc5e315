import JsxFragment.CommandLine.Run

/-!
The program: it reads the files and the standard input that a command line names, runs, and prints.
-/

namespace JsxFragment.Program

open CommandLine

/-- The fault that the system reports. -/
def faultOf : IO.Error → FileFault
  | .noFileOrDirectory .. => .notFound
  | .permissionDenied _ code details => .other code.toNat details
  | .inappropriateType _ code details => .other code.toNat details
  | .resourceExhausted _ code details => .other code.toNat details
  | error => .other 5 (toString error)

/-- Reads a file. -/
def readFile (path : Path) : IO (Except FileFault (List UInt8)) := do
  match ← (IO.FS.readBinFile path.text).toBaseIO with
  | .ok bytes => return .ok bytes.toList
  | .error error => return .error (faultOf error)

/-- Reads a stream to its end, after the bytes that have been read already. -/
partial def readStream (stream : IO.FS.Stream) (read : ByteArray) : IO ByteArray := do
  let chunk ← stream.read 65536
  if chunk.isEmpty then return read else readStream stream (read ++ chunk)

/-- What a run finds that neither reads a file nor standard input. -/
def nothingAround : Surroundings where
  read := fun _ => .error .notFound
  isTerminal := true
  stdin := some ""

/-- Gathers what a command line has to find around it: the files that it names, and standard input
only if that is its source. -/
def surroundingsOf (arguments : Arguments) : IO Surroundings := do
  let stdin ← IO.getStdin
  let isTerminal ← stdin.isTty
  let paths := arguments.config.value?.toList ++ arguments.input.value?.toList
  let files ← paths.mapM fun path => return (path, ← readFile path)
  let bytes ←
    match arguments.source? isTerminal with
    | .ok (some .stdin) => readStream stdin .empty
    | _ => pure .empty
  return {
    read := fun path => (files.lookup path).getD (.error .notFound)
    isTerminal
    stdin := some ((String.fromUTF8? bytes).getD "") }

/-- Gathers what a run has to find around it. -/
def surroundings (texts : List String) : IO Surroundings :=
  match Arguments.ofStrings texts with
  | .error _ => return nothingAround
  | .ok arguments => if arguments.converts then surroundingsOf arguments else return nothingAround

/-- Writes the file that a run has left to be written. -/
def writeFile (outcome : Outcome) : IO Outcome := do
  match outcome.file with
  | none => return outcome
  | some (path, text) =>
    match ← (IO.FS.writeFile path.text text).toBaseIO with
    | .ok _ => return outcome
    | .error error => return outcome.unwritten path (faultOf error)

/-- Runs the program on a command line, and gives its exit code. -/
def runOn (texts : List String) : IO UInt32 := do
  match run (← surroundings texts) texts with
  | .error breakdown =>
    IO.eprintln breakdown.message
    return 1
  | .ok outcome =>
    let final ← writeFile outcome
    IO.print final.stdout
    IO.eprint final.stderr
    return UInt32.ofNat final.code

end JsxFragment.Program

/-- Runs the program on a command line. -/
def main (texts : List String) : IO UInt32 :=
  JsxFragment.Program.runOn texts
