import JsxFragment.Proofs.Conversion.Session

/-!
# What a session has become of its replies

After any requests, whatever failed among them, the results that a session has at hand are the last
ones that it replied, and its count of conversions is that of the replies. So a request is served as
by a session that begins with it and is only given what the request refers to.
-/

namespace JsxFragment

/-! ## What the replies say -/

/-- The request is for a result, not about an earlier one or about the counting. -/
def Request.isForResult : Request → Bool
  | .tokenize _ | .build _ | .render _ | .convert _ => true
  | .addDiagnostic _ | .resetStatistics | .statistics => false

/-- The request does not say all that it is about: the rest are the last results. -/
def Request.refersBack : Request → Bool
  | .build none | .render none | .addDiagnostic _ => true
  | _ => false

/-- The request starts the counting of conversions again. -/
def Request.isReset : Request → Bool
  | .resetStatistics => true
  | _ => false

/-- The text that was cut, if the reply is one. -/
def Reply.tokenization? : Reply → Option Tokenization
  | .tokenized tokenization => some tokenization
  | _ => none

/-- The fragment that was read, if the reply is one. -/
def Reply.reading? : Reply → Option Reading
  | .built reading => some reading
  | _ => none

/-- The reply is a conversion that succeeded. -/
def Reply.isConverted : Reply → Bool
  | .converted _ => true
  | _ => false

/-- The last result of a kind among the replies. -/
def lastResult {α : Type} (result? : Reply → Option α) (exchanges : List (Request × Reply)) :
    Option α :=
  exchanges.reverse.findSome? fun exchange => result? exchange.2

/-- How many of the replies since the last reset are conversions. -/
def conversionsIn (exchanges : List (Request × Reply)) : Nat :=
  (exchanges.reverse.takeWhile fun exchange => !exchange.1.isReset).countP
    fun exchange => exchange.2.isConverted

theorem lastResult_concat {α : Type} (result? : Reply → Option α)
    (exchanges : List (Request × Reply)) (exchange : Request × Reply) :
    lastResult result? (exchanges ++ [exchange]) =
      (result? exchange.2).or (lastResult result? exchanges) := by
  rw [lastResult, List.reverse_concat, List.findSome?_cons, lastResult]
  cases result? exchange.2 <;> rfl

theorem conversionsIn_concat (exchanges : List (Request × Reply)) (exchange : Request × Reply) :
    conversionsIn (exchanges ++ [exchange]) =
      if exchange.1.isReset then 0
      else conversionsIn exchanges + if exchange.2.isConverted then 1 else 0 := by
  rw [conversionsIn, List.reverse_concat, List.takeWhile_cons]
  cases exchange.1.isReset with
  | true => rfl
  | false => exact List.countP_cons

namespace Session

/-- A session as it begins. -/
def fresh (config : Config) (correlationId : Option String) (converterId : String) : Session :=
  { config, correlationId, converterId }

/-- The session with the last results among some replies at hand. -/
def withResultsOf (session : Session) (exchanges : List (Request × Reply)) : Session :=
  { session with
    tokenization := lastResult Reply.tokenization? exchanges
    reading := (lastResult Reply.reading? exchanges).map fun reading => (reading, []) }

/-! ## One request -/

/-- What a session has become of the replies that it has given. -/
structure Fits (start : Session) (exchanges : List (Request × Reply)) (session : Session) :
    Prop where
  config_eq : session.config = start.config
  correlationId_eq : session.correlationId = start.correlationId
  converterId_eq : session.converterId = start.converterId
  tokenization_eq : session.tokenization = lastResult Reply.tokenization? exchanges
  tokens_eq :
    session.lexer.tokens.reverse = (session.tokenization.map Tokenization.tokens).getD []
  repairs_eq :
    session.lexer.repairs.reverse = (session.tokenization.map Tokenization.repairs).getD []
  reading_eq : session.reading.map Prod.fst = lastResult Reply.reading? exchanges
  conversions_eq : session.conversions = conversionsIn exchanges

theorem fits_fresh (config : Config) (correlationId : Option String) (converterId : String) :
    Fits (fresh config correlationId converterId) [] (fresh config correlationId converterId) :=
  ⟨rfl, rfl, rfl, rfl, rfl, rfl, rfl, rfl⟩

section
variable {start session : Session} {exchanges : List (Request × Reply)}

/-- A reply that is neither tokens nor a fragment nor a conversion tells of no change. -/
theorem Fits.reply (fits : Fits start exchanges session) {request : Request} {reply : Reply}
    (noTokenization : reply.tokenization? = none) (noReading : reply.reading? = none)
    (noConversion : reply.isConverted = false) (noReset : request.isReset = false) :
    Fits start (exchanges ++ [(request, reply)]) session where
  config_eq := fits.config_eq
  correlationId_eq := fits.correlationId_eq
  converterId_eq := fits.converterId_eq
  tokenization_eq := by
    rw [fits.tokenization_eq, lastResult_concat, noTokenization, Option.none_or]
  tokens_eq := fits.tokens_eq
  repairs_eq := fits.repairs_eq
  reading_eq := by rw [fits.reading_eq, lastResult_concat, noReading, Option.none_or]
  conversions_eq := by
    rw [fits.conversions_eq, conversionsIn_concat, noReset, noConversion]
    rfl

theorem Fits.tokenizeText (fits : Fits start exchanges session) (html : String) :
    Fits start (exchanges ++ [(.tokenize html, (session.tokenizeText html).2)])
      (session.tokenizeText html).1 := by
  unfold Session.tokenizeText
  cases lengthFailure? session.config.limits.maxInputLength html with
  | some failure => exact fits.reply rfl rfl rfl rfl
  | none =>
      exact
        { fits with
          tokenization_eq := by rw [lastResult_concat]; rfl
          tokens_eq := rfl
          repairs_eq := rfl
          reading_eq := by rw [lastResult_concat]; exact fits.reading_eq
          conversions_eq := by rw [conversionsIn_concat]; exact fits.conversions_eq }

theorem Fits.buildTokens (fits : Fits start exchanges session) (given : Option (List Token)) :
    Fits start (exchanges ++ [(.build given, (session.buildTokens given).2)])
      (session.buildTokens given).1 := by
  unfold Session.buildTokens
  cases session.tokensFor given with
  | none => exact fits.reply rfl rfl rfl rfl
  | some last =>
      obtain ⟨tokens, repairs⟩ := last
      dsimp only
      obtain ⟨nesting, fault?⟩ :=
        session.nesting.readAll session.config.limits.maxNestingDepth tokens
      cases fault? with
      | some fault => exact { fits.reply rfl rfl rfl rfl with }
      | none =>
          exact
            { fits with
              tokenization_eq := by rw [lastResult_concat]; exact fits.tokenization_eq
              reading_eq := by rw [lastResult_concat]; rfl
              conversions_eq := by rw [conversionsIn_concat]; exact fits.conversions_eq }

theorem Fits.renderNodes (fits : Fits start exchanges session) (given : Option (List Node)) :
    Fits start (exchanges ++ [(.render given, (session.renderNodes given).2)])
      (session.renderNodes given).1 := by
  unfold Session.renderNodes
  cases session.nodesFor given with
  | none => exact fits.reply rfl rfl rfl rfl
  | some nodes =>
      dsimp only
      cases render session.config.layout nodes <;> exact { fits.reply rfl rfl rfl rfl with }

theorem Fits.convertText (fits : Fits start exchanges session) (html : String) :
    Fits start (exchanges ++ [(.convert html, (session.convertText html).2)])
      (session.convertText html).1 := by
  unfold Session.convertText
  cases convert session.config (some session.converterId) html with
  | error failure => exact fits.reply rfl rfl rfl rfl
  | ok conversion =>
      exact
        { fits with
          tokenization_eq := by rw [lastResult_concat]; exact fits.tokenization_eq
          reading_eq := by rw [lastResult_concat]; exact fits.reading_eq
          conversions_eq := by
            rw [conversionsIn_concat]
            exact congrArg (· + 1) fits.conversions_eq }

theorem Fits.addReport (fits : Fits start exchanges session) (diagnostic : Diagnostic) :
    Fits start (exchanges ++ [(.addDiagnostic diagnostic, (session.addReport diagnostic).2)])
      (session.addReport diagnostic).1 := by
  have reading_eq := fits.reading_eq
  unfold Session.addReport
  cases last : session.reading with
  | none => exact fits.reply rfl rfl rfl rfl
  | some reported =>
      rw [last] at reading_eq
      dsimp only
      cases diagnostic.check with
      | error fault => exact fits.reply rfl rfl rfl rfl
      | ok checked =>
          exact
            { fits.reply rfl rfl rfl rfl with
              reading_eq := by rw [lastResult_concat]; exact reading_eq }

theorem Fits.serve (fits : Fits start exchanges session) (request : Request) :
    Fits start (exchanges ++ [(request, (session.serve request).2)])
      (session.serve request).1 := by
  cases request with
  | tokenize html => exact fits.tokenizeText html
  | build given => exact fits.buildTokens given
  | render given => exact fits.renderNodes given
  | convert html => exact fits.convertText html
  | addDiagnostic diagnostic => exact fits.addReport diagnostic
  | resetStatistics =>
      exact
        { fits with
          tokenization_eq := by rw [lastResult_concat]; exact fits.tokenization_eq
          reading_eq := by rw [lastResult_concat]; exact fits.reading_eq
          conversions_eq := by rw [conversionsIn_concat]; rfl }
  | statistics => exact fits.reply rfl rfl rfl rfl

end

/-! ## Many requests -/

theorem fits_after (config : Config) (correlationId : Option String) (converterId : String)
    (requests : List Request) :
    Fits (fresh config correlationId converterId)
      ((fresh config correlationId converterId).exchanges requests)
      ((fresh config correlationId converterId).after requests) := by
  induction requests using List.reverseRecOn with
  | nil => exact fits_fresh config correlationId converterId
  | append_singleton requests request inductionHypothesis =>
      rw [exchanges_concat, after_concat]
      exact inductionHypothesis.serve request

/-! ## As good as new -/

/-- The plain functions take their settings from a session, and the results that a request refers
back to, which are not more than the last tokens and the nodes of the last fragment. -/
theorem plainly_reply_eq {session other : Session} {request : Request}
    (config_eq : session.config = other.config)
    (converterId_eq : session.converterId = other.converterId)
    (tokensFor_eq : ∀ given, request = .build given →
      session.tokensFor given = other.tokensFor given)
    (nodesFor_eq : ∀ given, request = .render given →
      session.nodesFor given = other.nodesFor given)
    (forResult : request.isForResult) :
    (session.plainly request).2 = (other.plainly request).2 := by
  cases request with
  | tokenize html =>
      simp only [plainly, config_eq]
      cases tokenizeWithin other.config.limits.maxInputLength html <;> rfl
  | build given =>
      simp only [plainly, config_eq, tokensFor_eq given rfl]
      cases other.tokensFor given with
      | none => rfl
      | some last =>
          obtain ⟨tokens, repairs⟩ := last
          dsimp only
          cases Reading.ofTokens other.config.limits.maxNestingDepth tokens repairs <;> rfl
  | render given =>
      simp only [plainly, config_eq, nodesFor_eq given rfl]
      cases other.nodesFor given with
      | none => rfl
      | some nodes =>
          dsimp only
          cases JsxFragment.render other.config.layout nodes <;> rfl
  | convert html =>
      simp only [plainly, config_eq, converterId_eq]
      cases JsxFragment.convert other.config (some other.converterId) html <;> rfl
  | addDiagnostic _ | resetStatistics | statistics => exact absurd forResult Bool.false_ne_true

/-- A session serves as one that has just begun, whatever it has replied until now. -/
structure ServesAs (start : Session) (exchanges : List (Request × Reply)) (session : Session) :
    Prop where
  /-- A request that says all that it is about gets the reply that it would have got first. -/
  reply_eq_first : ∀ request, request.isForResult → request.refersBack = false →
    (session.serve request).2 = (start.serve request).2
  /-- A request about the last results needs no more of the past than just these. -/
  reply_eq : ∀ request, request.isForResult →
    (session.serve request).2 = ((start.withResultsOf exchanges).serve request).2
  /-- What the renderer has to tell is about the nodes that it has just written. -/
  notices_eq_first : ∀ nodes,
    (session.serve (.render (some nodes))).1.notices =
      (start.serve (.render (some nodes))).1.notices
  /-- A text that is too long leaves everything as it was, what the lexer holds included. -/
  tooLong : ∀ html failure, (session.serve (.tokenize html)).2 = .failed failure →
    (session.serve (.tokenize html)).1 = session
  /-- What the lexer holds are the last tokens and repairs that it replied. -/
  lexer_eq : ∀ tokenization, lastResult Reply.tokenization? exchanges = some tokenization →
    session.lexer.tokens.reverse = tokenization.tokens ∧
      session.lexer.repairs.reverse = tokenization.repairs
  /-- After a fragment that is nested too deep, all replies are as without it. -/
  tooDeep : ∀ given failure, (session.serve (.build given)).2 = .failed failure →
    ∀ requests, (session.serve (.build given)).1.exchanges requests = session.exchanges requests
  /-- The conversions that count are those that succeeded after the last reset. -/
  conversions_eq : session.conversions = conversionsIn exchanges

section
variable {start session : Session} {exchanges : List (Request × Reply)}

theorem Fits.reply_eq_first (fits : Fits start exchanges session) {request : Request}
    (forResult : request.isForResult) (alone : request.refersBack = false) :
    (session.serve request).2 = (start.serve request).2 := by
  have tokensFor_eq : ∀ given, request = .build given →
      session.tokensFor given = start.tokensFor given := by
    rintro (_ | tokens) rfl
    · exact Bool.noConfusion alone
    · rfl
  have nodesFor_eq : ∀ given, request = .render given →
      session.nodesFor given = start.nodesFor given := by
    rintro (_ | nodes) rfl
    · exact Bool.noConfusion alone
    · rfl
  have plain :=
    plainly_reply_eq fits.config_eq fits.converterId_eq tokensFor_eq nodesFor_eq forResult
  rwa [← withoutParts_serve, ← withoutParts_serve] at plain

theorem Fits.reply_eq (fits : Fits start exchanges session) {request : Request}
    (forResult : request.isForResult) :
    (session.serve request).2 = ((start.withResultsOf exchanges).serve request).2 := by
  have tokensFor_eq : ∀ given,
      session.tokensFor given = (start.withResultsOf exchanges).tokensFor given := by
    rintro (_ | tokens)
    · exact congrArg (Option.map _) fits.tokenization_eq
    · rfl
  have nodesFor_eq : ∀ given,
      session.nodesFor given = (start.withResultsOf exchanges).nodesFor given := by
    rintro (_ | nodes)
    · have reading_eq := congrArg (Option.map Reading.nodes) fits.reading_eq
      rw [Option.map_map] at reading_eq
      simpa [Session.nodesFor, withResultsOf, Function.comp_def] using reading_eq
    · rfl
  have plain :
      (session.plainly request).2 = ((start.withResultsOf exchanges).plainly request).2 :=
    plainly_reply_eq fits.config_eq fits.converterId_eq
      (fun given _ => tokensFor_eq given) (fun given _ => nodesFor_eq given) forResult
  rwa [← withoutParts_serve, ← withoutParts_serve] at plain

theorem Fits.notices_eq_first (fits : Fits start exchanges session) (nodes : List Node) :
    (session.serve (.render (some nodes))).1.notices =
      (start.serve (.render (some nodes))).1.notices := by
  simp only [Session.serve, Session.renderNodes, nodesFor, fits.config_eq]
  cases JsxFragment.render start.config.layout nodes <;> rfl

theorem Fits.lexer_eq (fits : Fits start exchanges session) {tokenization : Tokenization}
    (last : lastResult Reply.tokenization? exchanges = some tokenization) :
    session.lexer.tokens.reverse = tokenization.tokens ∧
      session.lexer.repairs.reverse = tokenization.repairs := by
  rw [fits.tokens_eq, fits.repairs_eq, fits.tokenization_eq, last]
  exact ⟨rfl, rfl⟩

end

/-- Requests leave nothing behind in a session that another request would meet, whether they have
been served or have failed. -/
theorem servesAs_fresh_after (config : Config) (correlationId : Option String)
    (converterId : String) (requests : List Request) :
    ServesAs (fresh config correlationId converterId)
      ((fresh config correlationId converterId).exchanges requests)
      ((fresh config correlationId converterId).after requests) := by
  have fits := fits_after config correlationId converterId requests
  exact
    { reply_eq_first := fun _ forResult alone => fits.reply_eq_first forResult alone
      reply_eq := fun _ forResult => fits.reply_eq forResult
      notices_eq_first := fits.notices_eq_first
      tooLong := fun _ _ failed => serve_tokenize_of_failed failed
      lexer_eq := fun _ last => fits.lexer_eq last
      tooDeep := fun _ _ failed => exchanges_of_renewed_eq (renewed_serve_build_of_failed failed)
      conversions_eq := fits.conversions_eq }

-- A builder that has failed still holds what was open, and the next reply does not show it.
example :
    let session := (fresh { limits := { maxNestingDepth := .whole 1 } } none "").after
      [.tokenize "<b><i>", .build none, .tokenize "<u>"]
    session.nesting.stack.length = 1 ∧
      ((session.serve (.build none)).2.reading?.map fun reading => reading.nodes) =
        some [.element { tag := "u" } []] :=
  ⟨rfl, rfl⟩

end Session

end JsxFragment
