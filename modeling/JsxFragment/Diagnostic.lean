import JsxFragment.Json
import JsxFragment.Jsx.Attribute
import JsxFragment.Node.Recovery
import JsxFragment.Token.Repair

/-!
Diagnostics: what a conversion reports about its input, each with the part of the program that
found it.
-/

namespace JsxFragment

/-- How much a report matters. -/
inductive Severity where
  | debug
  | info
  | warning
  | error
  deriving DecidableEq, Repr

namespace Severity

/-- The name of the severity. -/
def name : Severity → String
  | .debug => "DEBUG"
  | .info => "INFO"
  | .warning => "WARNING"
  | .error => "ERROR"

/-- All severities. -/
def all : List Severity :=
  [.debug, .info, .warning, .error]

/-- The severity by this name. -/
def ofName? (name : String) : Option Severity :=
  all.find? (·.name = name)

end Severity

/-- A report. The place and the details are open records, and empty if there is nothing to tell. -/
structure Diagnostic where
  severity : Severity
  message : String
  component : String
  place : List (String × Json) := []
  details : List (String × Json) := []
  correlationId : Option String := none

/-- Why a report cannot be made. -/
inductive DiagnosticFault where
  | emptyMessage
  | emptyComponent
  deriving DecidableEq, Repr

/-- The fault in words. -/
def DiagnosticFault.message : DiagnosticFault → String
  | .emptyMessage => "Diagnostic message cannot be empty"
  | .emptyComponent => "Diagnostic component cannot be empty"

/-- A position as an open record. -/
def Position.toMembers (position : Position) : List (String × Json) :=
  [("line", .ofNat position.line), ("column", .ofNat position.column),
   ("offset", .ofNat position.offset)]

namespace Diagnostic

/-- The report, if it says something and says who found it. -/
def check (diagnostic : Diagnostic) : Except DiagnosticFault Diagnostic :=
  if diagnostic.message = "" then .error .emptyMessage
  else if diagnostic.component = "" then .error .emptyComponent
  else .ok diagnostic

/-- The report as members of an object, without its correlation id. -/
def toMembers (diagnostic : Diagnostic) : List (String × Json) :=
  [("severity", .string diagnostic.severity.name),
   ("message", .string diagnostic.message),
   ("component", .string diagnostic.component)]
    ++ (if diagnostic.place.isEmpty then [] else [("position", .object diagnostic.place)])
    ++ if diagnostic.details.isEmpty then [] else [("details", .object diagnostic.details)]

/-- The number of reports of a severity. -/
def count (severity : Severity) (diagnostics : List Diagnostic) : Nat :=
  (diagnostics.filter (·.severity = severity)).length

/-! ## What is reported -/

/-- The report of a repair to the tokens. -/
def ofTokenRepair (correlationId : Option String) (repair : TokenRepair) : Diagnostic :=
  { severity := .warning
    message := repair.cause.description
    component := "html_tokenizer"
    place := repair.position.toMembers
    details := [("repair_type", .string repair.cause.label)]
    correlationId }

/-- The report of an input that has no tokens at all. -/
def ofNoTokens (correlationId : Option String) : Diagnostic :=
  { severity := .info
    message := "No tokens provided - empty fragment created"
    component := "html_tree_builder"
    details := [("input_type", .string "empty")]
    correlationId }

/-- The report of what the nesting of the tags had to tell. -/
def ofNote (correlationId : Option String) : Note → Diagnostic
  | .recovered recovery =>
    { severity := .warning
      message := recovery.cause.description
      component := "html_tree_builder"
      place := recovery.position.toMembers
      details := [("repair_type", .string recovery.cause.label)]
      correlationId }
  | .doctypeDropped doctype position =>
    { severity := .info
      message := "Dropped DOCTYPE declaration"
      component := "html_tree_builder"
      place := position.toMembers
      details := [("doctype", .string doctype)]
      correlationId }

/-- The report of what was lost in the output. -/
def ofNotice (correlationId : Option String) (notice : Jsx.Notice) : Diagnostic :=
  { severity := .warning
    message := notice.message
    component := "jsx_renderer"
    details := [(notice.detail.1, .string notice.detail.2)]
    correlationId }

end Diagnostic

end JsxFragment
