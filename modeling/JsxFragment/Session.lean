import JsxFragment.Conversion

/-!
A session: one lexer, one builder of nodes, one renderer and one converter that serve many requests.
Each of them still holds what its last request has left in it, also where that request failed
midway, and clears it when it begins with the next one.
-/

namespace JsxFragment

open Number

/-! ## Cutting again -/

namespace Lexer.State

/-- The lexer without what the last text has left in it. -/
def clear (state : State) : State :=
  { state with position := .first, mode := .between, tokens := [], repairs := [] }

/-- The lexer at the end of a whole text, for which it has been cleared. -/
def readAll (state : State) (text : String) : State :=
  let read := state.clear.run text.toList
  read.record (finish read.mode)

/-- The text that the lexer has read to its end, cut into tokens. -/
def tokenization (state : State) (text : String) : Tokenization :=
  { tokens := state.tokens.reverse
    repairs := state.repairs.reverse
    characterCount := text.length }

end Lexer.State

/-- Why a text is not cut at all. -/
def lengthFailure? (limit : Option Amount) (text : String) : Option Failure :=
  match limit with
  | none => none
  | some amount =>
    if amount.exceededBy text.length then some (.inputTooLong amount text.length) else none

/-! ## Nesting again -/

namespace Nesting.State

/-- The fragment without what the last tokens have left in it. -/
def clear (state : State) : State :=
  { state with roots := [], stack := [], text := [], pending := none, notes := [] }

/-- The fragment where a tag would open one element too many. The tag is not pending any more and
the attributes that it repeats are noted, but all that was open stays open. -/
def giveUp (state : State) : State :=
  match state.pending with
  | none => state
  | some tag =>
    (splitRepeated tag.attributes.reverse).2.foldl
      (fun state given => state.recover (.duplicateAttribute given.name tag.name) tag.position)
      { state with pending := none }

/-- The fragment after more tokens, or at the one where it is given up, with the reason. -/
def advance (maxDepth : Amount) (state : State) : List Token → State × Option NestingFault
  | [] => (state, none)
  | token :: rest =>
    match state.step maxDepth token with
    | .error fault => (state.giveUp, some fault)
    | .ok next => next.advance maxDepth rest

/-- The fragment at the end of tokens, for which it has been cleared. If it is given up it is left
as it is. -/
def readAll (maxDepth : Amount) (state : State) (tokens : List Token) :
    State × Option NestingFault :=
  match state.clear.advance maxDepth tokens with
  | (stopped, some fault) => (stopped, some fault)
  | (read, none) => (read.finish, none)

end Nesting.State

/-! ## Sessions -/

/-- What a session keeps. -/
structure Session where
  config : Config
  /-- The id that the lexer, the builder and the renderer put into their reports. -/
  correlationId : Option String
  /-- The id that the converter puts into its own. -/
  converterId : String
  /-- What the lexer holds: the last text that was not too long, cut to its end. -/
  lexer : Lexer.State := .initial
  /-- What the builder holds: the last fragment, finished or given up. -/
  nesting : Nesting.State := {}
  /-- The last text that was cut into tokens. -/
  tokenization : Option Tokenization := none
  /-- The last fragment that was read, with the reports on it. -/
  reading : Option (Reading × List Diagnostic) := none
  /-- What the last layout had to tell. -/
  notices : List Jsx.Notice := []
  /-- How many conversions have succeeded since the start or the last reset. -/
  conversions : Nat := 0

/-- A request to a session. -/
inductive Request where
  | tokenize (html : String)
  /-- Nests these tokens, or those of the last tokenization. -/
  | build (tokens : Option (List Token))
  /-- Writes these nodes, or those of the last fragment. -/
  | render (nodes : Option (List Node))
  | convert (html : String)
  | addDiagnostic (diagnostic : Diagnostic)
  | resetStatistics
  | statistics

/-- What a request relies on although the session has not come by it yet. -/
inductive Lack where
  /-- Tokens to be nested. -/
  | tokens
  /-- Nodes to be written. -/
  | nodes
  /-- A fragment to be reported on. -/
  | fragment
  deriving DecidableEq, Repr

/-- The lack in words. -/
def Lack.message : Lack → String
  | .tokens => "object of type 'NoneType' has no len()"
  | .nodes => "'NoneType' object has no attribute 'nodes'"
  | .fragment => "'NoneType' object has no attribute 'add_diagnostic'"

/-- The answer to a request. -/
inductive Reply where
  | tokenized (tokenization : Tokenization)
  | built (reading : Reading)
  | rendered (jsx : String)
  | converted (conversion : Conversion)
  | reported (diagnostics : List Diagnostic)
  | nothing
  | failed (failure : Failure)
  | refused (fault : DiagnosticFault)
  | lacking (lack : Lack)

namespace Session

/-- The tokens to be nested, with the repairs that they took: those that are given, or else the last
that were cut. -/
def tokensFor (session : Session) (given : Option (List Token)) :
    Option (List Token × List TokenRepair) :=
  match given with
  | some tokens => some (tokens, [])
  | none => session.tokenization.map fun last => (last.tokens, last.repairs)

/-- The nodes to be written: those that are given, or else those of the last fragment. -/
def nodesFor (session : Session) (given : Option (List Node)) : Option (List Node) :=
  match given with
  | some nodes => some nodes
  | none => session.reading.map fun last => last.1.nodes

/-- Adds a report on the last fragment, whose reports are the answer. -/
def addReport (session : Session) (diagnostic : Diagnostic) : Session × Reply :=
  match session.reading with
  | none => (session, .lacking .fragment)
  | some (reading, reports) =>
    match diagnostic.check with
    | .error fault => (session, .refused fault)
    | .ok checked =>
      let reports := reports ++ [{ checked with correlationId := session.correlationId }]
      ({ session with reading := some (reading, reports) }, .reported reports)

/-- Cuts a text into tokens. A text that is too long leaves all as it was. -/
def tokenizeText (session : Session) (html : String) : Session × Reply :=
  match lengthFailure? session.config.limits.maxInputLength html with
  | some failure => (session, .failed failure)
  | none =>
    let lexer := session.lexer.readAll html
    let tokenization := lexer.tokenization html
    ({ session with lexer, tokenization := some tokenization }, .tokenized tokenization)

/-- Nests tokens. A failure leaves the last fragment that was read as it was, not the builder. -/
def buildTokens (session : Session) (given : Option (List Token)) : Session × Reply :=
  match session.tokensFor given with
  | none => (session, .lacking .tokens)
  | some (tokens, repairs) =>
    match session.nesting.readAll session.config.limits.maxNestingDepth tokens with
    | (nesting, some fault) => ({ session with nesting }, .failed (.nestedTooDeep fault))
    | (nesting, none) =>
      let reading : Reading :=
        { tokens
          tokenRepairs := repairs
          nodes := nesting.roots.reverse
          notes := nesting.notes.reverse }
      let reports := reading.diagnostics session.correlationId
      ({ session with nesting, reading := some (reading, reports) }, .built reading)

/-- Writes nodes. What the renderer had to tell before is forgotten, also if it fails. -/
def renderNodes (session : Session) (given : Option (List Node)) : Session × Reply :=
  match session.nodesFor given with
  | none => (session, .lacking .nodes)
  | some nodes =>
    let cleared := { session with notices := [] }
    let after :=
      { cleared with notices := cleared.notices ++ renderNotices session.config.layout nodes }
    match render session.config.layout nodes with
    | .error failure => (after, .failed failure)
    | .ok jsx => (after, .rendered jsx)

/-- Converts a text, with parts of its own. -/
def convertText (session : Session) (html : String) : Session × Reply :=
  match JsxFragment.convert session.config (some session.converterId) html with
  | .error failure => (session, .failed failure)
  | .ok conversion =>
    ({ session with conversions := session.conversions + 1 }, .converted conversion)

/-- The session after a request, and the answer. -/
def serve (session : Session) : Request → Session × Reply
  | .tokenize html => session.tokenizeText html
  | .build tokens => session.buildTokens tokens
  | .render nodes => session.renderNodes nodes
  | .convert html => session.convertText html
  | .addDiagnostic diagnostic => session.addReport diagnostic
  | .resetStatistics => ({ session with conversions := 0 }, .nothing)
  | .statistics => (session, .nothing)

end Session

end JsxFragment
