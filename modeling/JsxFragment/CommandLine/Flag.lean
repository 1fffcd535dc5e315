/-!
The flags of the command line, their names, and the help on them. A switch stands by itself; a
setting is followed by a value.
-/

namespace JsxFragment.CommandLine

/-- A flag that stands by itself. -/
inductive Switch where
  | stdin
  | verbose
  | quiet
  | help
  | version
  deriving DecidableEq, Repr

/-- A flag that is followed by a value. -/
inductive Setting where
  | input
  | output
  | indent
  | config
  deriving DecidableEq, Repr

/-- A flag. -/
inductive Flag where
  | switch (switch : Switch)
  | setting (setting : Setting)
  deriving DecidableEq, Repr

namespace Flag

/-- All flags, in the order in which the help tells of them. -/
def all : List Flag :=
  [.setting .input, .setting .output, .switch .stdin, .setting .indent, .setting .config,
   .switch .verbose, .switch .quiet, .switch .help, .switch .version]

/-- The long name of a flag. -/
def longName : Flag → String
  | .setting .input => "--input"
  | .setting .output => "--output"
  | .setting .indent => "--indent"
  | .setting .config => "--config"
  | .switch .stdin => "--stdin"
  | .switch .verbose => "--verbose"
  | .switch .quiet => "--quiet"
  | .switch .help => "--help"
  | .switch .version => "--version"

/-- The letter of a flag's short name, if it has one. -/
def letter? : Flag → Option Char
  | .setting .input => some 'i'
  | .setting .output => some 'o'
  | .switch .quiet => some 'q'
  | .switch .help => some 'h'
  | .switch .version => some 'v'
  | _ => none

/-- The flag with this letter. -/
def ofLetter? (letter : Char) : Option Flag :=
  all.find? fun flag => flag.letter? = some letter

/-- The flag with this long name. -/
def ofLongName? (name : String) : Option Flag :=
  all.find? fun flag => flag.longName = name

/-- The flags whose long names begin with a text. -/
def withPrefix (text : String) : List Flag :=
  all.filter fun flag => text.toList.isPrefixOf flag.longName.toList

/-- What messages call a flag. -/
def label (flag : Flag) : String :=
  match flag.letter? with
  | none => flag.longName
  | some letter => flag.longName ++ "/-" ++ letter.toString

end Flag

/-- The version of the program. -/
def programVersion : String :=
  "0.1.0"

/-- The help, line by line. -/
def helpLines : List String :=
  ["usage: html-to-jsx-transform [--input INPUT] [--output OUTPUT] [--stdin]",
   "                             [--indent INDENT] [--config CONFIG] [--verbose]",
   "                             [--quiet] [--help] [--version]",
   "                             [html ...]",
   "",
   "Convert an HTML fragment into a JSX fragment",
   "",
   "positional arguments:",
   "  html                  HTML to convert; multiple words are joined with spaces",
   "",
   "options:",
   "  --input INPUT, -i INPUT",
   "                        Read HTML from a file",
   "  --output OUTPUT, -o OUTPUT",
   "                        Write JSX to a file (default: stdout)",
   "  --stdin               Read HTML from stdin",
   "  --indent INDENT       Spaces per indentation level",
   "  --config CONFIG       JSON configuration file",
   "  --verbose             Enable debug logging",
   "  --quiet, -q           Only log errors",
   "  --help, -h            Show this help message",
   "  --version, -v         Show the current version",
   "",
   "examples:",
   "  html-to-jsx-transform \"<h1>Hello</h1>\"",
   "  html-to-jsx-transform --input input.html --output output.jsx",
   "  cat input.html | html-to-jsx-transform --stdin"]

/-- The help. -/
def helpText : String :=
  String.join (helpLines.map (· ++ "\n"))

end JsxFragment.CommandLine
