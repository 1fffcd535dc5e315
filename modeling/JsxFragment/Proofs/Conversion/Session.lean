import JsxFragment.Session
import Mathlib.Data.List.Induction

/-!
# Sessions as good as new

The parts of a session hold what earlier requests have left in them, half a fragment included where
one was given up. None of it shows in a later reply: the reply is that of the plain functions, and
so that of new parts.
-/

namespace JsxFragment

open Number

/-! ## Parts that have been used -/

theorem tokenizeWithin_eq (limit : Option Amount) (text : String) :
    tokenizeWithin limit text =
      match lengthFailure? limit text with
      | some failure => .error failure
      | none => .ok (tokenize text) := by
  unfold tokenizeWithin lengthFailure?
  cases limit with
  | none => rfl
  | some amount =>
      dsimp only
      split <;> rfl

/-- What a lexer holds does not bear on how it cuts the next text. -/
theorem Lexer.State.tokenization_readAll (state : State) (text : String) :
    (state.readAll text).tokenization text = tokenize text :=
  rfl

namespace Nesting.State

/-- Where the plain run of a fragment fails, the builder's gives up. -/
theorem run_eq_advance (maxDepth : Amount) (state : State) (tokens : List Token) :
    State.run maxDepth state tokens =
      match state.advance maxDepth tokens with
      | (_, some fault) => .error fault
      | (next, none) => .ok next := by
  induction tokens generalizing state with
  | nil => rfl
  | cons token rest inductionHypothesis =>
      unfold State.run advance
      cases state.step maxDepth token with
      | error fault => rfl
      | ok next => exact inductionHypothesis next

/-- What a builder holds does not bear on how it nests the next tokens. -/
theorem readAll_eq (maxDepth : Amount) (state : State) (tokens : List Token) :
    state.readAll maxDepth tokens = State.readAll maxDepth {} tokens :=
  rfl

end Nesting.State

theorem Reading.ofTokens_eq (maxDepth : Amount) (tokens : List Token) (repairs : List TokenRepair)
    (state : Nesting.State) :
    Reading.ofTokens maxDepth tokens repairs =
      match state.readAll maxDepth tokens with
      | (_, some fault) => .error (.nestedTooDeep fault)
      | (nesting, none) =>
        .ok
          { tokens
            tokenRepairs := repairs
            nodes := nesting.roots.reverse
            notes := nesting.notes.reverse } := by
  rw [Nesting.State.readAll_eq]
  unfold Reading.ofTokens Fragment.ofTokens Nesting.State.readAll
  rw [Nesting.State.run_eq_advance]
  -- To clear a fragment that is empty changes nothing.
  change _ =
    match
      (match Nesting.State.advance maxDepth {} tokens with
      | (stopped, some fault) => (stopped, some fault)
      | (read, none) => (read.finish, none)) with
    | (_, some fault) => _
    | (nesting, none) => _
  obtain ⟨stopped, fault?⟩ := Nesting.State.advance maxDepth {} tokens
  cases fault? <;> rfl

namespace Session

/-! ## One request -/

/-- The session with new parts, and with the results at hand that it has come by. -/
def renewed (session : Session) : Session :=
  { config := session.config
    correlationId := session.correlationId
    converterId := session.converterId
    tokenization := session.tokenization
    reading := session.reading }

/-- The results at hand after a request and the reply to it, by the plain functions, which have no
parts. -/
def plainly (session : Session) : Request → Session × Reply
  | .tokenize html =>
    match tokenizeWithin session.config.limits.maxInputLength html with
    | .error failure => (session.renewed, .failed failure)
    | .ok tokenization =>
      ({ session.renewed with tokenization := some tokenization }, .tokenized tokenization)
  | .build given =>
    match session.tokensFor given with
    | none => (session.renewed, .lacking .tokens)
    | some (tokens, repairs) =>
      match Reading.ofTokens session.config.limits.maxNestingDepth tokens repairs with
      | .error failure => (session.renewed, .failed failure)
      | .ok reading =>
        let reports := reading.diagnostics session.correlationId
        ({ session.renewed with reading := some (reading, reports) }, .built reading)
  | .render given =>
    match session.nodesFor given with
    | none => (session.renewed, .lacking .nodes)
    | some nodes =>
      match JsxFragment.render session.config.layout nodes with
      | .error failure => (session.renewed, .failed failure)
      | .ok jsx => (session.renewed, .rendered jsx)
  | .convert html =>
    match JsxFragment.convert session.config (some session.converterId) html with
    | .error failure => (session.renewed, .failed failure)
    | .ok conversion => (session.renewed, .converted conversion)
  | .addDiagnostic diagnostic => session.renewed.addReport diagnostic
  | .resetStatistics => (session.renewed, .nothing)
  | .statistics => (session.renewed, .nothing)

/-- What the parts have become is left out of account, and the results at hand are kept. -/
def withoutParts (served : Session × Reply) : Session × Reply :=
  (served.1.renewed, served.2)

theorem withoutParts_tokenizeText (session : Session) (html : String) :
    withoutParts (session.tokenizeText html) = session.plainly (.tokenize html) := by
  simp only [plainly, tokenizeText, tokenizeWithin_eq, Lexer.State.tokenization_readAll]
  cases lengthFailure? session.config.limits.maxInputLength html <;> rfl

theorem withoutParts_buildTokens (session : Session) (given : Option (List Token)) :
    withoutParts (session.buildTokens given) = session.plainly (.build given) := by
  simp only [plainly, buildTokens]
  cases session.tokensFor given with
  | none => rfl
  | some last =>
      obtain ⟨tokens, repairs⟩ := last
      dsimp only
      rw [Reading.ofTokens_eq _ tokens repairs session.nesting]
      obtain ⟨nesting, fault?⟩ :=
        session.nesting.readAll session.config.limits.maxNestingDepth tokens
      cases fault? <;> rfl

theorem withoutParts_renderNodes (session : Session) (given : Option (List Node)) :
    withoutParts (session.renderNodes given) = session.plainly (.render given) := by
  simp only [plainly, renderNodes]
  cases session.nodesFor given with
  | none => rfl
  | some nodes =>
      dsimp only
      cases JsxFragment.render session.config.layout nodes <;> rfl

theorem withoutParts_convertText (session : Session) (html : String) :
    withoutParts (session.convertText html) = session.plainly (.convert html) := by
  simp only [plainly, convertText]
  cases JsxFragment.convert session.config (some session.converterId) html <;> rfl

theorem withoutParts_addReport (session : Session) (diagnostic : Diagnostic) :
    withoutParts (session.addReport diagnostic) = session.plainly (.addDiagnostic diagnostic) := by
  have reading : session.renewed.reading = session.reading := rfl
  simp only [plainly, addReport, reading]
  cases session.reading with
  | none => rfl
  | some last =>
      dsimp only
      cases diagnostic.check <;> rfl

/-- Whatever the parts of a session hold, they do as the plain functions do. -/
theorem withoutParts_serve (session : Session) (request : Request) :
    withoutParts (session.serve request) = session.plainly request := by
  cases request with
  | tokenize html => exact withoutParts_tokenizeText session html
  | build given => exact withoutParts_buildTokens session given
  | render given => exact withoutParts_renderNodes session given
  | convert html => exact withoutParts_convertText session html
  | addDiagnostic diagnostic => exact withoutParts_addReport session diagnostic
  | resetStatistics | statistics => rfl

theorem plainly_renewed (session : Session) (request : Request) :
    session.renewed.plainly request = session.plainly request := by
  cases request <;> rfl

theorem withoutParts_serve_renewed (session : Session) (request : Request) :
    withoutParts (session.renewed.serve request) = withoutParts (session.serve request) := by
  rw [withoutParts_serve, withoutParts_serve, plainly_renewed]

/-! ## Failures -/

/-- A text that is too long leaves the whole session as it was. -/
theorem serve_tokenize_of_failed {session : Session} {html : String} {failure : Failure}
    (failed : (session.serve (.tokenize html)).2 = .failed failure) :
    (session.serve (.tokenize html)).1 = session := by
  simp only [serve, tokenizeText] at failed ⊢
  cases tooLong : lengthFailure? session.config.limits.maxInputLength html with
  | none =>
      rw [tooLong] at failed
      exact Reply.noConfusion failed
  | some reason => rfl

/-- A fragment that is nested too deep changes the builder, but none of the results at hand. -/
theorem renewed_serve_build_of_failed {session : Session} {given : Option (List Token)}
    {failure : Failure} (failed : (session.serve (.build given)).2 = .failed failure) :
    (session.serve (.build given)).1.renewed = session.renewed := by
  simp only [serve, buildTokens] at failed ⊢
  cases given : session.tokensFor given with
  | none => rfl
  | some last =>
      obtain ⟨tokens, repairs⟩ := last
      rw [given] at failed
      dsimp only at failed ⊢
      cases read : session.nesting.readAll session.config.limits.maxNestingDepth tokens with
      | mk nesting fault? =>
          rw [read] at failed
          cases fault? with
          | none => exact Reply.noConfusion failed
          | some fault => rfl

/-! ## Many requests -/

/-- The requests to a session, each with the reply to it. -/
def exchanges (session : Session) : List Request → List (Request × Reply)
  | [] => []
  | request :: rest =>
    (request, (session.serve request).2) :: (session.serve request).1.exchanges rest

/-- The session after some requests. -/
def after (session : Session) (requests : List Request) : Session :=
  requests.foldl (fun session request => (session.serve request).1) session

theorem exchanges_concat (session : Session) (requests : List Request) (request : Request) :
    session.exchanges (requests ++ [request]) =
      session.exchanges requests ++ [(request, ((session.after requests).serve request).2)] := by
  induction requests generalizing session with
  | nil => rfl
  | cons first rest inductionHypothesis =>
      rw [List.cons_append, exchanges, inductionHypothesis, exchanges, List.cons_append]
      rfl

theorem after_concat (session : Session) (requests : List Request) (request : Request) :
    session.after (requests ++ [request]) = ((session.after requests).serve request).1 := by
  rw [after, List.foldl_append]
  rfl

/-- Two sessions with the same results at hand cannot be told apart by their replies. -/
theorem exchanges_of_renewed_eq {session other : Session}
    (sameResults : session.renewed = other.renewed) (requests : List Request) :
    session.exchanges requests = other.exchanges requests := by
  induction requests generalizing session other with
  | nil => rfl
  | cons request rest inductionHypothesis =>
      have alike : withoutParts (session.serve request) = withoutParts (other.serve request) := by
        rw [← withoutParts_serve_renewed session, ← withoutParts_serve_renewed other, sameResults]
      obtain ⟨results, reply⟩ := Prod.mk.inj alike
      rw [exchanges, exchanges, reply, inductionHypothesis results]

end Session

end JsxFragment
