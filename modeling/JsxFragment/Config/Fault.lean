import JsxFragment.Config
import JsxFragment.Json.Reader

/-!
Why a configuration is refused.
-/

namespace JsxFragment

/-- The two sections of a configuration. -/
inductive Section where
  | parser
  | renderer
  deriving DecidableEq, Repr

namespace Section

/-- The name of the section. -/
def name : Section → String
  | .parser => "parser"
  | .renderer => "renderer"

/-- The name of the record that the section fills. -/
def recordName : Section → String
  | .parser => "ParserConfig"
  | .renderer => "RendererConfig"

/-- The names of the section's fields. -/
def fields : Section → List String
  | .parser => ["max_nesting_depth", "max_input_length"]
  | .renderer => ["indent_size", "use_tabs", "preserve_comments"]

end Section

/-- Why a configuration is refused. -/
inductive ConfigFault where
  | json (fault : JsonFault)
  | notAnObject
  | unknownSections (names : List String)
  /-- A section that is no object, with the kind of value that it is. -/
  | sectionNotAnObject (part : Section) (kind : String)
  | unknownField (part : Section) (name : String)
  /-- A field by the name that the record itself goes by. -/
  | reservedField (part : Section)
  /-- A value that no number can be compared with, and its kind. -/
  | notANumber (part : Section) (kind : String)
  | nestingDepthOutOfRange
  | inputLengthOutOfRange
  | indentSizeOutOfRange
  /-- An override whose key names no field of a section. -/
  | overrideKey (key : String)
  /-- An override by the name that the configuration itself goes by. -/
  | reservedOverride
  deriving DecidableEq, Repr

namespace ConfigFault

/-- The refusal in words. -/
def message : ConfigFault → String
  | .json (.malformed cause position) =>
    "Invalid JSON configuration: " ++ (JsonFault.malformed cause position).message
  | .json fault => fault.message
  | .notAnObject => "Configuration must be a JSON object"
  | .unknownSections names => "Unknown configuration sections: " ++ ", ".intercalate names
  | .sectionNotAnObject part kind =>
    "Invalid configuration field: html_to_jsx_transform.shared.config." ++ part.recordName
      ++ "() argument after ** must be a mapping, not " ++ kind
  | .unknownField part name =>
    "Invalid configuration field: " ++ part.recordName
      ++ ".__init__() got an unexpected keyword argument '" ++ name ++ "'"
  | .reservedField part =>
    "Invalid configuration field: " ++ part.recordName
      ++ ".__init__() got multiple values for argument 'self'"
  | .notANumber .parser kind =>
    "Invalid configuration field: '<=' not supported between instances of '" ++ kind
      ++ "' and 'int'"
  | .notANumber .renderer kind =>
    "Invalid configuration field: '<=' not supported between instances of 'int' and '" ++ kind
      ++ "'"
  | .nestingDepthOutOfRange => "max_nesting_depth must be > 0"
  | .inputLengthOutOfRange => "max_input_length must be > 0 or None"
  | .indentSizeOutOfRange => "indent_size must be between 0 and " ++ toString maxIndentSize
  | .overrideKey key => "Invalid override key: " ++ key
  | .reservedOverride => "ConverterConfig.override() got multiple values for argument 'self'"

/-- The field that is out of range. -/
def field? : ConfigFault → Option String
  | .nestingDepthOutOfRange => some "max_nesting_depth"
  | .inputLengthOutOfRange => some "max_input_length"
  | .indentSizeOutOfRange => some "indent_size"
  | _ => none

/-- What could be done instead. -/
def suggestions : ConfigFault → List String
  | .unknownSections _ => ["Valid sections are 'parser' and 'renderer'"]
  | .inputLengthOutOfRange => ["Use None to disable the input length limit"]
  | .overrideKey _ => ["Use 'parser__<field>' or 'renderer__<field>'"]
  | _ => []

end ConfigFault

end JsxFragment
