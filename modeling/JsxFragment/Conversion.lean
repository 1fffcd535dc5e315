import JsxFragment.Diagnostic
import JsxFragment.Failure
import JsxFragment.Jsx.Reference
import JsxFragment.Token.Lexer

/-!
From HTML to JSX: a text is cut into tokens, the tokens are nested, and the nodes are laid out. The
reading and the writing can be used apart.
-/

namespace JsxFragment

open Number

/-! ## Reading -/

/-- Cuts a text into tokens, if it is not longer than allowed. -/
def tokenizeWithin (limit : Option Amount) (text : String) : Except Failure Tokenization :=
  match limit with
  | none => .ok (tokenize text)
  | some amount =>
    if amount.exceededBy text.length then .error (.inputTooLong amount text.length)
    else .ok (tokenize text)

/-- A document fragment as it was read: its nodes, what the reading had to tell, and the repairs
that its tokens took. -/
structure Reading where
  tokens : List Token
  tokenRepairs : List TokenRepair
  nodes : List Node
  notes : List Note

/-- Nests tokens, with the repairs that they took. -/
def Reading.ofTokens (maxDepth : Amount) (tokens : List Token) (tokenRepairs : List TokenRepair) :
    Except Failure Reading :=
  match Fragment.ofTokens maxDepth tokens with
  | .error fault => .error (.nestedTooDeep fault)
  | .ok fragment => .ok { tokens, tokenRepairs, nodes := fragment.nodes, notes := fragment.notes }

/-- Reads a text within limits. -/
def read (limits : Limits) (text : String) : Except Failure Reading :=
  match tokenizeWithin limits.maxInputLength text with
  | .error failure => .error failure
  | .ok tokenization =>
    Reading.ofTokens limits.maxNestingDepth tokenization.tokens tokenization.repairs

namespace Reading

/-- The recoveries that the nesting took. -/
def recoveries (reading : Reading) : List Recovery :=
  reading.notes.filterMap Note.recovery?

/-- The number of repairs, to tokens and to their nesting. -/
def repairCount (reading : Reading) : Nat :=
  reading.recoveries.length + reading.tokenRepairs.length

/-- The short names of all repairs, those to the nesting first. -/
def repairLabels (reading : Reading) : List String :=
  reading.recoveries.map (·.cause.label) ++ reading.tokenRepairs.map (·.cause.label)

/-- The number of repairs by their short names. -/
def repairSummary (reading : Reading) : List (String × Nat) :=
  let labels := reading.repairLabels
  labels.eraseDups.map fun label => (label, labels.count label)

/-- The reports on the reading: first on the tokens, then on their nesting. -/
def diagnostics (reading : Reading) (correlationId : Option String) : List Diagnostic :=
  reading.tokenRepairs.map (.ofTokenRepair correlationId)
    ++ (if reading.tokens.isEmpty then [.ofNoTokens correlationId] else [])
    ++ reading.notes.map (.ofNote correlationId)

end Reading

/-! ## Writing -/

/-- Writes a document fragment as JSX. -/
def render (options : LayoutOptions) (nodes : List Node) : Except Failure String :=
  match options.indentUnit with
  | .error fault => .error (.fractionalIndent fault)
  | .ok unit =>
    match Jsx.overlongReference? options.keepsComments nodes with
    | some digitCount => .error (.overlongReference digitCount)
    | none => .ok (Jsx.indent unit (Jsx.lines (Jsx.blocks options.keepsComments nodes)))

/-- What there is to tell of a document fragment that is written. Nothing is told if the indentation
is not even usable, and nothing of what comes after a text that cannot be written. -/
def renderNotices (options : LayoutOptions) (nodes : List Node) : List Jsx.Notice :=
  match options.indentUnit with
  | .error _ => []
  | .ok _ =>
    match Jsx.overlongReference? options.keepsComments nodes with
    | some _ => Jsx.noticesUntilOverlong options.keepsComments nodes
    | none => Jsx.notices nodes

/-! ## Converting -/

/-- Converts HTML to JSX. -/
def htmlToJsx (config : Config) (html : String) : Except Failure String :=
  match read config.limits html with
  | .error failure => .error failure
  | .ok reading => render config.layout reading.nodes

/-- A finished conversion. -/
structure Conversion where
  html : String
  jsx : String
  reading : Reading
  notices : List Jsx.Notice
  correlationId : Option String

/-- Converts HTML to JSX and keeps what was found on the way. -/
def convert (config : Config) (correlationId : Option String) (html : String) :
    Except Failure Conversion :=
  match read config.limits html with
  | .error failure => .error failure
  | .ok reading =>
    match render config.layout reading.nodes with
    | .error failure => .error failure
    | .ok jsx =>
      .ok { html, jsx, reading, notices := renderNotices config.layout reading.nodes, correlationId }

/-- The reports on a conversion: first on the reading, then on the writing. -/
def Conversion.diagnostics (conversion : Conversion) : List Diagnostic :=
  conversion.reading.diagnostics conversion.correlationId
    ++ conversion.notices.map (.ofNotice conversion.correlationId)

/-- Converting gives the text that the plain conversion gives. -/
theorem convert_jsx (config : Config) (correlationId : Option String) (html : String) :
    (convert config correlationId html).map (·.jsx) = htmlToJsx config html := by
  unfold convert htmlToJsx
  cases read config.limits html with
  | error failure => rfl
  | ok reading =>
      dsimp only
      cases render config.layout reading.nodes with
      | error failure => rfl
      | ok jsx => rfl

end JsxFragment
