import Reckoner.Evaluation

namespace Reckoner

/-!
# Evaluation on record

The evaluation of this module does what `Evaluator.evaluate` does and keeps a record of
it: which tokens are taken from the stream, by what and where, for which tokens a meaning
of the grammar is carried out, and whether one of the two bounds on the recursion is felt.
A token is recorded before it is taken, so the record also shows an attempt to take one
from an exhausted stream.

The record influences nothing. Without it the recorded evaluation is the evaluation
itself, step by step (`Recorded.Erases.evaluate`).
-/

/-- What takes tokens from the stream. -/
inductive Consumer where
  /-- The evaluation of an operand takes its first token. -/
  | operand
  /-- The loop behind an operand takes operators. -/
  | loop
  /-- A meaning takes a symbol that belongs to it. -/
  | symbol
  deriving Repr, DecidableEq

/-- A token that is taken: by what, where the cursor is, and what is found there. -/
structure Consumption where
  consumer : Consumer
  cursor : Nat
  found : Option Token
  deriving Repr, DecidableEq

/-- What is put on record. -/
inductive Event where
  | consumed (consumption : Consumption)
  /-- An opening or a continuation is carried out for a token. -/
  | invoked (token : Token)
  /-- An operand is to be evaluated, but all levels of nesting are used up. -/
  | outOfLevels
  /-- Tokens are left, but all rounds of the loop are used up. -/
  | outOfRounds
  deriving Repr, DecidableEq

/-- How far an evaluation has come, and what has happened on the way. -/
structure Record where
  progress : Progress
  events : List Event

/-- A step of an evaluation on record. -/
abbrev Recorded (α : Type) :=
  EStateM Exit Record α

namespace Record

/-- The record of an evaluation that begins. -/
def start
    (progress : Progress) :
    Record :=
  ⟨progress, []⟩

/-- The record of a result. -/
def ofResult
    {α : Type} :
    EStateM.Result Exit Record α →
    Record
  | .ok _ record => record
  | .error _ record => record

/-- A result without its record. -/
def erase
    {α : Type} :
    EStateM.Result Exit Record α →
    EStateM.Result Exit Progress α
  | .ok value record => .ok value record.progress
  | .error exit record => .error exit record.progress

end Record

namespace Recorded

variable {α β : Type}

/-- A step of which nothing is put on record. -/
def ofStep
    (step : Step α) :
    Recorded α :=
  fun record =>
    match step.run record.progress with
    | .ok value progress => .ok value { record with progress := progress }
    | .error exit progress => .error exit { record with progress := progress }

/-- Put an event on record. -/
def log
    (event : Event) :
    Recorded Unit :=
  modify fun record => { record with events := record.events ++ [event] }

/-- Take the next token, on record. -/
def consume
    (consumer : Consumer) :
    Recorded Token := do
  let stream := (← get).progress.stream
  log (.consumed ⟨consumer, stream.passed, stream.peek?⟩)
  ofStep Step.consume

/-- Take the next token if it is the given symbol, and tell whether it was. -/
def accept
    (symbol : String) :
    Recorded Bool := do
  if (← get).progress.stream.nextIs symbol then
    let _ ← consume .symbol
    return true
  else
    return false

/-- Evaluate an expression that binds tighter than a threshold, on record. -/
abbrev Evaluator :=
  Precedence → Recorded (Option Number)

/-- The argument of a call, on record. -/
def argument
    (evaluateInside : Recorded.Evaluator) :
    Recorded (Option Number) := do
  if (← get).progress.stream.nextIs ")" then
    return none
  else
    evaluateInside .belowAssignment

/-- What a name starts, on record. -/
def name
    (context : EvaluationContext)
    (evaluateInside : Recorded.Evaluator)
    (token : Token) :
    Recorded Number := do
  if ← accept "=" then
    let value ← ofStep (Step.operandOf token (← evaluateInside .belowAssignment))
    ofStep (Step.assign token.lexeme value)
  else if ← accept "(" then
    let argument ← argument evaluateInside
    if ← accept ")" then
      ofStep
        (Step.ofAttempt
          (context.environment.functions.value token.lexeme argument
            (some token.position)))
    else
      ofStep (Step.failHere (.unclosedCall token.lexeme))
  else
    let found :=
      (← get).progress.find? context.environment.values token.lexeme
    ofStep
      (Step.ofAttempt (boundValue found token.lexeme (some token.position)))

/-- An operand whose first token has been taken, on record. -/
def openWith
    (context : EvaluationContext)
    (evaluateInside : Recorded.Evaluator)
    (token : Token) :
    Opening →
    Recorded Number
  | .literal read => ofStep (Step.ofAttemptAt token (read token.lexeme))
  | .operator operation precedence => do
      let operand ← ofStep (Step.operandOf token (← evaluateInside precedence))
      ofStep (Step.ofAttemptAt token (operation operand))
  | .group => do
      let value ←
        ofStep (Step.operandOf token (← evaluateInside .belowAssignment))
      if ← accept ")" then
        return value
      else
        ofStep (Step.failHere .unclosedGroup)
  | .name => name context evaluateInside token

/-- An operator after its left operand, on record. -/
def continueWith
    (evaluateInside : Recorded.Evaluator)
    (left : Number)
    (token : Token) :
    Continuation →
    Recorded Number
  | .binary operation precedence associativity => do
      let right ←
        ofStep
          (Step.operandOf token
            (← evaluateInside
              (Evaluator.rightThreshold precedence associativity)))
      ofStep (Step.ofAttemptAt token (operation left right))
  | .trailing operation _ => ofStep (Step.ofAttemptAt token (operation left))

/-- The loop behind an operand, on record. -/
def extend
    (grammar : Grammar)
    (evaluateInside : Recorded.Evaluator)
    (threshold : Precedence) :
    Nat →
    Number →
    Recorded Number
  | 0, value => do
      if (← get).progress.stream.isExhausted then
        return value
      else
        log .outOfRounds
        return value
  | rounds + 1, value => do
      match ← ofStep Step.peek? with
      | none => return value
      | some token =>
          match grammar.continuation? token with
          | none => return value
          | some continuation =>
              if continuation.precedence ≤ threshold then
                return value
              else
                let _ ← consume .loop
                log (.invoked token)
                let extended ←
                  continueWith evaluateInside value token continuation
                extend grammar evaluateInside threshold rounds extended

/-- An expression within a number of levels of nesting, on record. -/
def evaluate
    (context : EvaluationContext) :
    Nat →
    Recorded.Evaluator
  | 0, _ => do
      log .outOfLevels
      throw (.fault .nesting)
  | levels + 1, threshold => do
      match ← ofStep Step.peek? with
      | none => return none
      | some token =>
          match context.grammar.opening? token with
          | none =>
              ofStep
                (Step.fail (.unexpectedStart token.lexeme) token.position)
          | some opening =>
              let _ ← consume .operand
              log (.invoked token)
              let value ←
                openWith context (evaluate context levels) token opening
              let rounds := (← get).progress.stream.rest.length
              let extended ←
                extend context.grammar (evaluate context levels) threshold
                  rounds value
              return some extended

/-- A recorded step is a step if its record is left out. -/
def Erases
    (recorded : Recorded α)
    (step : Step α) :
    Prop :=
  ∀ record, Record.erase (recorded.run record) = step.run record.progress

namespace Erases

/-- A value that is ready. -/
theorem ofPure
    (value : α) :
    Erases (pure value) (pure value) :=
  fun _ => rfl

/-- An exit. -/
theorem ofThrow
    (exit : Exit) :
    Erases (throw exit : Recorded α) (throw exit) :=
  fun _ => rfl

/-- Steps one after another. -/
theorem bind
    {first : Recorded α}
    {step : Step α}
    {next : α → Recorded β}
    {nextStep : α → Step β}
    (erases : Erases first step)
    (nextErases : ∀ value, Erases (next value) (nextStep value)) :
    Erases (first >>= next) (step >>= nextStep) := by
  intro record
  have erased := erases record
  rw [EStateM.run_bind, EStateM.run_bind, ← erased]
  cases first.run record with
  | ok value moved => exact nextErases value moved
  | error exit moved => rfl

/-- A step that depends on the progress. -/
theorem get_bind
    {next : Record → Recorded β}
    {nextStep : Progress → Step β}
    (nextErases :
      ∀ record, Erases (next record) (nextStep record.progress)) :
    Erases (get >>= next) (get >>= nextStep) :=
  fun record => nextErases record record

/-- A step that looks at the record only to decide what to put on it. -/
theorem looking
    {next : Record → Recorded β}
    {step : Step β}
    (nextErases : ∀ record, Erases (next record) step) :
    Erases (get >>= next) step :=
  fun record => nextErases record record

/-- A step of which nothing is put on record. -/
theorem ofStep
    (step : Step α) :
    Erases (Recorded.ofStep step) step := by
  intro record
  change Record.erase (Recorded.ofStep step record) = _
  unfold Recorded.ofStep
  cases step.run record.progress with
  | ok value moved => rfl
  | error exit moved => rfl

/-- An event that is put on record. -/
theorem log_bind
    {event : Event}
    {next : Unit → Recorded β}
    {step : Step β}
    (erases : Erases (next ()) step) :
    Erases (log event >>= next) step :=
  fun _ => erases _

/-- A token that is taken. -/
theorem consume
    (consumer : Consumer) :
    Erases (Recorded.consume consumer) Step.consume :=
  fun _ => (ofStep Step.consume) _

/-- A symbol that is taken if it is next. -/
theorem accept
    (symbol : String) :
    Erases (Recorded.accept symbol) (Step.accept symbol) := by
  refine get_bind fun record => ?_
  split
  case isTrue => exact (consume .symbol).bind fun _ => ofPure true
  case isFalse => exact ofPure false

variable {context : EvaluationContext}
variable {recordedInside : Recorded.Evaluator}
variable {evaluateInside : Reckoner.Evaluator}

/-- A symbol that has to come. -/
theorem closing
    {symbol : String}
    {passed failing : Recorded α}
    {passedStep failingStep : Step α}
    (passes : Erases passed passedStep)
    (fails : Erases failing failingStep) :
    Erases
      (do if ← Recorded.accept symbol then passed else failing)
      (do if ← Step.accept symbol then passedStep else failingStep) := by
  refine (accept symbol).bind fun closes => ?_
  cases closes with
  | true => exact passes
  | false => exact fails

/-- An operand that a token needs. -/
theorem operand
    {threshold : Precedence}
    (inside : ∀ threshold, Erases (recordedInside threshold) (evaluateInside threshold))
    (token : Token)
    {next : Number → Recorded Number}
    {nextStep : Number → Step Number}
    (nextErases : ∀ value, Erases (next value) (nextStep value)) :
    Erases
      (do
        let value ←
          Recorded.ofStep (Step.operandOf token (← recordedInside threshold))
        next value)
      (do
        let value ← Step.operandOf token (← evaluateInside threshold)
        nextStep value) :=
  (inside threshold).bind fun _ => (ofStep _).bind nextErases

/-- The argument of a call. -/
theorem argument
    (inside : ∀ threshold, Erases (recordedInside threshold) (evaluateInside threshold)) :
    Erases (Recorded.argument recordedInside)
      (Evaluator.argument evaluateInside) := by
  refine get_bind fun _ => ?_
  split
  case isTrue => exact ofPure none
  case isFalse => exact inside .belowAssignment

/-- What a name starts. -/
theorem name
    (inside : ∀ threshold, Erases (recordedInside threshold) (evaluateInside threshold))
    (token : Token) :
    Erases (Recorded.name context recordedInside token)
      (Evaluator.name context evaluateInside token) := by
  refine closing (operand inside token fun value => ofStep _) ?_
  refine closing ?_ (get_bind fun _ => ofStep _)
  exact (argument inside).bind fun _ => closing (ofStep _) (ofStep _)

/-- Operands. -/
theorem openWith
    (inside : ∀ threshold, Erases (recordedInside threshold) (evaluateInside threshold))
    (token : Token)
    (opening : Opening) :
    Erases (Recorded.openWith context recordedInside token opening)
      (Evaluator.openWith context evaluateInside token opening) := by
  cases opening with
  | literal read => exact ofStep _
  | operator operation precedence =>
      exact operand inside token fun _ => ofStep _
  | group =>
      exact operand inside token fun value => closing (ofPure value) (ofStep _)
  | name => exact name inside token

/-- Operators behind a left operand. -/
theorem continueWith
    (inside : ∀ threshold, Erases (recordedInside threshold) (evaluateInside threshold))
    (left : Number)
    (token : Token)
    (continuation : Continuation) :
    Erases (Recorded.continueWith recordedInside left token continuation)
      (Evaluator.continueWith evaluateInside left token continuation) := by
  cases continuation with
  | binary operation precedence associativity =>
      exact operand inside token fun _ => ofStep _
  | trailing operation precedence => exact ofStep _

/-- The loop behind an operand. -/
theorem extend
    (grammar : Grammar)
    (inside : ∀ threshold, Erases (recordedInside threshold) (evaluateInside threshold))
    (threshold : Precedence)
    (rounds : Nat)
    (value : Number) :
    Erases (Recorded.extend grammar recordedInside threshold rounds value)
      (Evaluator.extend grammar evaluateInside threshold rounds value) := by
  induction rounds generalizing value with
  | zero =>
      refine looking fun _ => ?_
      split
      case isTrue => exact ofPure value
      case isFalse => exact log_bind (ofPure value)
  | succ rounds inductionHypothesis =>
      refine (ofStep Step.peek?).bind fun next => ?_
      cases next with
      | none => exact ofPure value
      | some token =>
          dsimp only
          cases grammar.continuation? token with
          | none => exact ofPure value
          | some continuation =>
              dsimp only
              split
              case isTrue => exact ofPure value
              case isFalse =>
                refine (consume .loop).bind fun _ => log_bind ?_
                exact
                  (continueWith inside value token continuation).bind
                    inductionHypothesis

/-- Expressions, within any number of levels. -/
theorem evaluate
    (context : EvaluationContext)
    (levels : Nat)
    (threshold : Precedence) :
    Erases (Recorded.evaluate context levels threshold)
      (Evaluator.evaluate context levels threshold) := by
  induction levels generalizing threshold with
  | zero => exact log_bind (ofThrow _)
  | succ levels inductionHypothesis =>
      refine (ofStep Step.peek?).bind fun next => ?_
      cases next with
      | none => exact ofPure none
      | some token =>
          dsimp only
          cases context.grammar.opening? token with
          | none => exact ofStep _
          | some opening =>
              refine (consume .operand).bind fun _ => log_bind ?_
              refine
                (openWith inductionHypothesis token opening).bind
                  fun value => ?_
              refine get_bind fun record => ?_
              exact
                (extend context.grammar inductionHypothesis threshold _
                  value).bind fun extended => ofPure (some extended)

end Erases

end Recorded

end Reckoner
