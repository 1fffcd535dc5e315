import JsxFragment.Diagnostic

/-!
Log records. Every record carries the component that wrote it and the correlation id of the
conversion, so that one conversion can be followed through all of them.
-/

namespace JsxFragment

/-- A log record, with its further fields. -/
structure LogRecord where
  level : Severity
  logger : String
  message : String
  extra : List (String × Json)

/-- A writer of log records. -/
structure Logger where
  name : String
  component : String
  correlationId : Option String

/-- A further field by a name that every record has already. -/
structure ReservedField where
  name : String
  deriving DecidableEq, Repr

/-- The fault in words. -/
def ReservedField.message (fault : ReservedField) : String :=
  "\"Attempt to overwrite '" ++ fault.name ++ "' in LogRecord\""

/-- The fields that every record has. -/
def reservedFields : List String :=
  ["message", "asctime", "name", "msg", "args", "levelname", "levelno", "pathname", "filename",
   "module", "exc_info", "exc_text", "stack_info", "lineno", "funcName", "created", "msecs",
   "relativeCreated", "thread", "threadName", "processName", "process"]

namespace Logger

/-- The part of a dotted name after the last dot. -/
def lastPart (name : String) : String :=
  String.ofList (name.toList.reverse.takeWhile (· ≠ '.')).reverse

/-- The name of the writer above all others, which is meant where no name is given. -/
def rootName : String :=
  "root"

/-- The writer by this name. Without a component it goes by the last part of its name. -/
def make (name : String) (correlationId : Option String) (component : Option String) : Logger :=
  let component :=
    match component with
    | none => lastPart name
    | some given => if given = "" then lastPart name else given
  { name := if name = "" then rootName else name, component, correlationId }

/-- The record of a message. -/
def record (logger : Logger) (level : Severity) (message : String)
    (extra : List (String × Json) := []) : LogRecord :=
  let own :=
    [("component", Json.string logger.component),
     ("correlation_id", Json.ofString? logger.correlationId)]
  { level, logger := logger.name, message, extra := Json.merge own extra }

/-- The record of a message, unless a further field has a reserved name. -/
def record? (logger : Logger) (level : Severity) (message : String)
    (extra : List (String × Json)) : Except ReservedField LogRecord :=
  let made := logger.record level message extra
  match made.extra.find? fun field => reservedFields.contains field.1 with
  | some field => .error ⟨field.1⟩
  | none => .ok made

end Logger

end JsxFragment
