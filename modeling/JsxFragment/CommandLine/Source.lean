import JsxFragment.CommandLine.Arguments
import JsxFragment.CommandLine.Outcome
import JsxFragment.Config.Reader
import JsxFragment.Text.Newline
import JsxFragment.Text.Utf8

/-!
Where the HTML and the configuration of a run come from: files, the command line itself, or standard
input.
-/

namespace JsxFragment.CommandLine

open Text

/-- What a run finds around it. -/
structure Surroundings where
  /-- The bytes of the file at a path. -/
  read : Path → Except FileFault (List UInt8)
  /-- Whether standard input is a terminal. -/
  isTerminal : Bool
  /-- All of standard input; none if the user interrupts the reading. -/
  stdin : Option String

/-- Why a file gives no text. -/
inductive TextFault where
  | unusablePath
  | file (fault : FileFault)
  | utf8 (fault : Utf8Fault)
  deriving DecidableEq, Repr

/-- The text of a file, with all line ends read alike. -/
def Surroundings.readText (around : Surroundings) (path : Path) : Except TextFault String :=
  if path.isUnusable then .error .unusablePath
  else
    match around.read path with
    | .error fault => .error (.file fault)
    | .ok bytes =>
      match Utf8.decode bytes with
      | .error fault => .error (.utf8 fault)
      | .ok text => .ok (String.ofList (unifyLineEnds text))

/-! ## The configuration -/

/-- The configuration in a file. -/
def configIn (around : Surroundings) (path : Path) : Except Ending Config :=
  match around.readText path with
  | .error .unusablePath => .error (.breakdown .unusablePath)
  | .error (.file fault) =>
    .error (.withMessage
      ("Could not read config file " ++ path.text ++ ": " ++ fault.message path))
  | .error (.utf8 fault) => .error (.withError fault.message)
  | .ok text =>
    match Config.ofTextWithin Config.maxFileNesting text with
    | .error fault => .error (.ofConfigFault fault)
    | .ok config => .ok config

/-- The indentation that a command line gives, as a configuration has it. One that is given without
a value is the empty list, which no configuration takes. -/
def Arguments.indentSize? (arguments : Arguments) : Option Json :=
  match arguments.indent with
  | .nothing => none
  | .blank => some (.array [])
  | .value size => some (.whole size)

/-- The configuration that a command line asks for; an indentation of its own takes the place of the
one in the file. -/
def configFor (around : Surroundings) (arguments : Arguments) : Except Ending Config := do
  let config ←
    match arguments.config.value? with
    | none => Except.ok {}
    | some path => configIn around path
  match arguments.indentSize? with
  | none => return config
  | some size =>
    match config.override [("renderer__indent_size", size)] with
    | .error fault => .error (.ofConfigFault fault)
    | .ok config => return config

/-! ## The HTML -/

/-- A source of HTML. -/
inductive Source where
  | file (path : Path)
  /-- Words of the command line, with a space between one and the next. -/
  | words (words : List String)
  | stdin
  deriving DecidableEq, Repr

/-- The source of HTML that a command line names. Standard input is one by itself unless it is a
terminal. -/
def Arguments.source? (arguments : Arguments) (isTerminal : Bool) :
    Except UsageFault (Option Source) :=
  match arguments.has .stdin, arguments.input.value?, arguments.html with
  | true, none, [] => .ok (some .stdin)
  | true, _, _ => .error .stdinAndOther
  | false, some path, [] => .ok (some (.file path))
  | false, some _, _ => .error .fileAndHtml
  | false, none, [] => .ok (if isTerminal then none else some .stdin)
  | false, none, words => .ok (some (.words words))

/-- The HTML that a source holds. -/
def Surroundings.html (around : Surroundings) : Source → Except Ending String
  | .words words => .ok (" ".intercalate words)
  | .stdin =>
    match around.stdin with
    | some text => .ok text
    | none => .error (.outcome .interrupted)
  | .file path =>
    match around.readText path with
    | .ok text => .ok text
    | .error .unusablePath => .error (.breakdown .unusablePath)
    | .error (.file fault) => .error (.withError (fault.message path))
    | .error (.utf8 fault) => .error (.withError fault.message)

/-- The HTML that a command line asks to convert. -/
def htmlFor (around : Surroundings) (arguments : Arguments) : Except Ending String :=
  match arguments.source? around.isTerminal with
  | .error fault => .error (.withMessage fault.message)
  | .ok none => .error (.outcome .noInput)
  | .ok (some source) => around.html source

end JsxFragment.CommandLine
