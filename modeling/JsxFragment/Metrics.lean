import JsxFragment.Json

/-!
Measures of a conversion and the rates computed from them.
-/

namespace JsxFragment

open Number

/-- What was measured of a conversion. The values are kept in the form in which they were given; it is
only where a rate is asked for that they have to be numbers. -/
structure Metrics where
  processingTimeMs : Json := .real (.zero false)
  memoryUsedBytes : Json := .whole 0
  charactersProcessed : Json := .whole 0
  tokensGenerated : Json := .whole 0
  nodesCreated : Json := .whole 0
  repairsApplied : Json := .whole 0
  outputCharacters : Json := .whole 0
  deriving Repr

/-- Why there are no measures, or no rate. -/
inductive MetricsFault where
  | unknownField (name : String)
  /-- A field by the name that the measures themselves go by. -/
  | reservedField
  /-- A number too large for a floating-point number. -/
  | operandTooLarge
  | quotientTooLarge
  /-- A time that is no number, by its kind. -/
  | notATime (kind : String)
  /-- A count that is a sequence of values. -/
  | sequenceCount
  /-- Any other count that is no number, by its kind. -/
  | notACount (kind : String)
  /-- A dividend and a divisor that are not both numbers, by their kinds. -/
  | notDivisible (dividend divisor : String)
  deriving DecidableEq, Repr

namespace MetricsFault

/-- The fault in words. -/
def message : MetricsFault → String
  | .unknownField name =>
    "PerformanceMetrics.__init__() got an unexpected keyword argument '" ++ name ++ "'"
  | .reservedField => "PerformanceMetrics.__init__() got multiple values for argument 'self'"
  | .operandTooLarge => "int too large to convert to float"
  | .quotientTooLarge => "integer division result too large for a float"
  | .notATime kind => "'<=' not supported between instances of '" ++ kind ++ "' and 'int'"
  | .sequenceCount => "can't multiply sequence by non-int of type 'float'"
  | .notACount kind => "unsupported operand type(s) for *: '" ++ kind ++ "' and 'float'"
  | .notDivisible dividend divisor =>
    "unsupported operand type(s) for /: '" ++ dividend ++ "' and '" ++ divisor ++ "'"

/-- Whether a number was too large. -/
def isOverflow : MetricsFault → Bool
  | .operandTooLarge => true
  | .quotientTooLarge => true
  | _ => false

end MetricsFault

namespace Metrics

/-! ## As members of an object -/

/-- The measures as members of an object. -/
def toMembers (metrics : Metrics) : List (String × Json) :=
  [("processing_time_ms", metrics.processingTimeMs),
   ("memory_used_bytes", metrics.memoryUsedBytes),
   ("characters_processed", metrics.charactersProcessed),
   ("tokens_generated", metrics.tokensGenerated),
   ("nodes_created", metrics.nodesCreated),
   ("repairs_applied", metrics.repairsApplied),
   ("output_characters", metrics.outputCharacters)]

/-- The names of the fields. -/
def fields : List String :=
  (toMembers {}).map (·.1)

/-- The measures with these members; a field that is missing has its default. -/
def ofMembers (members : List (String × Json)) : Except MetricsFault Metrics :=
  match members.find? fun member => !fields.contains member.1 with
  | some member => .error (if member.1 = "self" then .reservedField else .unknownField member.1)
  | none =>
    let default : Metrics := {}
    let field (name : String) (missing : Json) : Json := (members.lookup name).getD missing
    .ok
      { processingTimeMs := field "processing_time_ms" default.processingTimeMs
        memoryUsedBytes := field "memory_used_bytes" default.memoryUsedBytes
        charactersProcessed := field "characters_processed" default.charactersProcessed
        tokensGenerated := field "tokens_generated" default.tokensGenerated
        nodesCreated := field "nodes_created" default.nodesCreated
        repairsApplied := field "repairs_applied" default.repairsApplied
        outputCharacters := field "output_characters" default.outputCharacters }

/-! ## Rates -/

/-- A whole number as the nearest floating-point number, if it is not too large for one. -/
def realOfWhole (n : Int) : Except MetricsFault Binary64 :=
  match Binary64.ofInt n with
  | .infinite _ => .error .operandTooLarge
  | x => .ok x

/-- An amount as the nearest floating-point number. -/
def toReal : Amount → Except MetricsFault Binary64
  | .whole n => realOfWhole n
  | .real x => .ok x
  | .truth b => realOfWhole (if b then 1 else 0)

/-- How many there are in a second, if they took some milliseconds; zero if they took no time. -/
def perSecond (count milliseconds : Json) : Except MetricsFault Binary64 :=
  match milliseconds.amount? with
  | none => .error (.notATime milliseconds.kindName)
  | some time =>
    if time.leInt 0 then .ok (.zero false)
    else
      match count, count.amount? with
      | _, some counted => do
        let scaled := (← toReal counted).mul (.ofInt 1000)
        return scaled.div (← toReal time)
      | .string _, none => .error .sequenceCount
      | .array _, none => .error .sequenceCount
      | _, none => .error (.notACount count.kindName)

/-- An amount as an integer, if it is one by its form. -/
def toWhole? : Amount → Option Int
  | .whole n => some n
  | .truth b => some (if b then 1 else 0)
  | .real _ => none

/-- The quotient of two amounts, of which the second is not zero. The quotient of whole numbers is
rounded once. -/
def ratio (dividend divisor : Amount) : Except MetricsFault Binary64 :=
  match toWhole? dividend, toWhole? divisor with
  | some a, some b =>
    match Binary64.ofRatio (decide (a < 0) != decide (b < 0)) a.natAbs b.natAbs with
    | .infinite _ => .error .quotientTooLarge
    | x => .ok x
  | _, _ => return (← toReal dividend).div (← toReal divisor)

/-- Whether an amount is zero. -/
def isZero : Amount → Bool
  | .whole n => n = 0
  | .real x => x.isZero
  | .truth b => !b

/-- The characters converted in a second. -/
def charactersPerSecond (metrics : Metrics) : Except MetricsFault Binary64 :=
  perSecond metrics.charactersProcessed metrics.processingTimeMs

/-- The tokens generated in a second. -/
def tokensPerSecond (metrics : Metrics) : Except MetricsFault Binary64 :=
  perSecond metrics.tokensGenerated metrics.processingTimeMs

/-- The bytes of memory used for a character; zero if there is no character. -/
def memoryPerCharacter (metrics : Metrics) : Except MetricsFault Binary64 :=
  let memory := metrics.memoryUsedBytes
  let characters := metrics.charactersProcessed
  match characters.amount?, memory.amount? with
  | some divisor, some dividend =>
    if isZero divisor then .ok (.zero false) else ratio dividend divisor
  | some divisor, none =>
    if isZero divisor then .ok (.zero false)
    else .error (.notDivisible memory.kindName characters.kindName)
  | none, _ => .error (.notDivisible memory.kindName characters.kindName)

end Metrics

end JsxFragment
