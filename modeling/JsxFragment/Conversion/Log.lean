import JsxFragment.Conversion
import JsxFragment.Log

/-!
The log of a conversion: what each stage writes when it begins, when it puts something right, and
when it is done.
-/

namespace JsxFragment

open Number

namespace Conversion

/-- How much of the input the log shows. -/
def previewLength : Nat :=
  100

/-- The beginning of the input, as the log shows it. -/
def preview (html : String) : String :=
  if previewLength < html.length then String.ofList (html.toList.take previewLength) ++ "..."
  else html

/-- The logger of the conversion as a whole. -/
def converterLogger (correlationId : Option String) : Logger :=
  .make "html_to_jsx_transform.api.converter" correlationId (some "html_to_jsx_converter")

/-- The logger of the tokens. -/
def tokenLogger (correlationId : Option String) : Logger :=
  .make "html_to_jsx_transform.tokenization.tokenizer" correlationId (some "html_tokenizer")

/-- The logger of the nesting. -/
def nestingLogger (correlationId : Option String) : Logger :=
  .make "html_to_jsx_transform.tree.builder" correlationId (some "html_tree_builder")

/-- The logger of the layout. -/
def layoutLogger (correlationId : Option String) : Logger :=
  .make "html_to_jsx_transform.jsx.renderer" correlationId (some "jsx_renderer")

/-- A place as the log shows it. -/
def placeText (position : Position) : String :=
  toString position.line ++ ":" ++ toString position.column

/-- The records of cutting a text into tokens. -/
def tokenRecords (correlationId : Option String) (tokenization : Tokenization) : List LogRecord :=
  let logger := tokenLogger correlationId
  logger.record .debug "Starting tokenization"
      [("char_count", .ofNat tokenization.characterCount)]
    :: tokenization.repairs.map (fun repair =>
        logger.record .debug "Tokenizer repair applied"
          [("repair_type", .string repair.cause.label),
           ("position", .string (placeText repair.position))])
    ++ [logger.record .debug "Tokenization completed"
        [("token_count", .ofNat tokenization.tokens.length),
         ("repair_count", .ofNat tokenization.repairs.length)]]

/-- The record of the beginning of the nesting. -/
def nestingStart (correlationId : Option String) (tokenization : Tokenization) : LogRecord :=
  (nestingLogger correlationId).record .debug "Starting tree building"
    [("token_count", .ofNat tokenization.tokens.length)]

/-- The record of the end of the nesting. -/
def nestingEnd (correlationId : Option String) (reading : Reading) : LogRecord :=
  (nestingLogger correlationId).record .debug "Tree building completed"
    [("top_level_nodes", .ofNat reading.nodes.length),
     ("repair_count", .ofNat reading.repairCount)]

/-- The record of elements nested too deep. -/
def nestingExceeded (correlationId : Option String) (fault : NestingFault) : LogRecord :=
  (nestingLogger correlationId).record .warning "Nesting depth limit exceeded"
    [("limit", .ofAmount fault.limit), ("tag", .string fault.tag)]

/-- The records of laying out nodes, whose text is `jsx`. -/
def layoutRecords (correlationId : Option String) (options : LayoutOptions) (nodes : List Node)
    (jsx : String) : List LogRecord :=
  let logger := layoutLogger correlationId
  let keepComments := options.keepsComments
  (renderNotices options nodes).map (fun notice =>
      logger.record .debug notice.message [(notice.detail.1, .string notice.detail.2)])
    ++ [logger.record .debug "Rendering completed"
        [("top_level_pieces", .ofNat (Jsx.fragmentPieces keepComments nodes).length),
         ("line_count", .ofNat (Jsx.lines (Jsx.blocks keepComments nodes)).length),
         ("output_characters", .ofNat jsx.length)]]

/-- The record of a conversion that ends at a limit; other failures leave no record. -/
def abortRecords (correlationId : Option String) (failure : Failure) : List LogRecord :=
  match failure.exhaustion? with
  | none => []
  | some exhaustion =>
    [(converterLogger correlationId).record .warning "Conversion aborted"
      [("resource", .string exhaustion.resource), ("limit", .ofAmount exhaustion.limit)]]

/-- The records after the tokens have been nested. -/
def writingRecords (config : Config) (correlationId : Option String) (reading : Reading) :
    List LogRecord :=
  match render config.layout reading.nodes with
  | .error failure => abortRecords correlationId failure
  | .ok jsx =>
    layoutRecords correlationId config.layout reading.nodes jsx
      ++ [(converterLogger correlationId).record .info "Conversion completed"
          [("repair_count", .ofNat reading.repairCount), ("output_characters", .ofNat jsx.length)]]

/-- The records after the text has been cut into tokens. -/
def readingRecords (config : Config) (correlationId : Option String)
    (tokenization : Tokenization) : List LogRecord :=
  let maxDepth := config.limits.maxNestingDepth
  nestingStart correlationId tokenization
    :: match Fragment.ofTokens maxDepth tokenization.tokens with
      | .error fault =>
        nestingExceeded correlationId fault :: abortRecords correlationId (.nestedTooDeep fault)
      | .ok fragment =>
        let reading : Reading :=
          { tokens := tokenization.tokens, tokenRepairs := tokenization.repairs,
            nodes := fragment.nodes, notes := fragment.notes }
        nestingEnd correlationId reading :: writingRecords config correlationId reading

/-- The records of a conversion, in order. -/
def log (config : Config) (correlationId : Option String) (html : String) : List LogRecord :=
  (converterLogger correlationId).record .info "Starting conversion"
      [("content_length", .ofNat html.length), ("preview", .string (preview html))]
    :: match tokenizeWithin config.limits.maxInputLength html with
      | .error failure => abortRecords correlationId failure
      | .ok tokenization =>
        tokenRecords correlationId tokenization
          ++ readingRecords config correlationId tokenization

end Conversion

end JsxFragment
