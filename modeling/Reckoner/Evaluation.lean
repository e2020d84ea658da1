import Reckoner.Grammar.Basic
import Reckoner.Token.Stream

namespace Reckoner

/-!
# Evaluating a stream of tokens

An expression is evaluated while it is read, from left to right and without a
syntax tree. `evaluate` reads one operand by the opening of its first token and
then goes on, in `extend`, as long as the next token has a continuation that binds
tighter than the threshold.

A right operand is read at the precedence of its operator, so an equal operator
behind it is left for the same round of `extend`; that groups to the left. For an
operator that groups to the right the threshold is one less, and the operand takes
the equal operator.

Assignments are collected in the order they are made and hide the variables of the
environment. Whoever asked for the evaluation decides whether to keep them; this is
so however the evaluation ends.

Each operand inside another uses up one level of nesting, and within one level each
round of `extend` passes at least one token, so evaluation ends.
-/

/-- What an evaluation works with throughout. -/
structure EvaluationContext where
  grammar : Grammar
  environment : Environment

/-- How far an evaluation has come: its tokens and its assignments, newest first. -/
structure Progress where
  stream : TokenStream
  assigned : List (String × Number)

/-- A step of an evaluation. It leaves its progress behind also if it exits. -/
abbrev Step (α : Type) :=
  EStateM Exit Progress α

namespace Progress

/-- The progress before the first of the tokens. -/
def start
    (tokens : List Token) :
    Progress :=
  ⟨.ofTokens tokens, []⟩

/-- The variables after the assignments made so far. -/
def values
    (progress : Progress)
    (before : Variables) :
    Variables :=
  before.insertAll progress.assigned.reverse

/-- The number bound to a name after the assignments made so far. -/
def find?
    (progress : Progress)
    (before : Variables)
    (name : String) :
    Option Number :=
  match Table.lookup name progress.assigned with
  | some value => some value
  | none => before.get? name

end Progress

namespace Step

/-- The next token, if there is one. -/
def peek? : Step (Option Token) := do
  return (← get).stream.peek?

/-- Pass the next token. -/
def consume : Step Token := do
  let progress ← get
  match progress.stream.consume with
  | .error fault => throw (.fault fault)
  | .ok (token, stream) =>
      set { progress with stream := stream }
      return token

/-- Pass the next token if it is the given symbol, and tell whether it was. -/
def accept
    (symbol : String) :
    Step Bool := do
  if (← get).stream.nextIs symbol then
    let _ ← consume
    return true
  else
    return false

/-- Fail at an offset in the source. -/
def fail
    {α : Type}
    (cause : Cause)
    (position : Nat) :
    Step α :=
  throw (.placed cause position)

/-- Fail at the next token, or at the end of the input. -/
def failHere
    {α : Type}
    (cause : Cause) :
    Step α := do
  fail cause (← get).stream.position

/-- The result of an attempt. -/
def ofAttempt
    {α : Type} :
    Attempt α →
    Step α
  | .ok value => pure value
  | .error exit => throw exit

/-- The result of an attempt, whose failure belongs to a token. -/
def ofAttemptAt
    {α : Type}
    (token : Token) :
    Attempt α →
    Step α
  | .ok value => pure value
  | .error exit => throw (exit.attributedTo token.position)

/-- The operand that a token needs; there is none if the input has ended. -/
def operandOf
    (token : Token) :
    Option Number →
    Step Number
  | some value => pure value
  | none => fail (.missingOperand token.lexeme) token.position

/-- Bind a name for the rest of the evaluation. -/
def assign
    (name : String)
    (value : Number) :
    Step Number := do
  modify fun progress =>
    { progress with assigned := (name, value) :: progress.assigned }
  return value

end Step

/-- Evaluate an expression that binds tighter than a threshold, if input is left. -/
abbrev Evaluator :=
  Precedence → Step (Option Number)

namespace Evaluator

/-- The argument of a call after its parenthesis, which may be left out. -/
def argument
    (evaluateInside : Evaluator) :
    Step (Option Number) := do
  if (← get).stream.nextIs ")" then
    return none
  else
    evaluateInside .belowAssignment

/-- Evaluate what a name starts: an assignment, a call or a reference. -/
def name
    (context : EvaluationContext)
    (evaluateInside : Evaluator)
    (token : Token) :
    Step Number := do
  if ← Step.accept "=" then
    let value ← Step.operandOf token (← evaluateInside .belowAssignment)
    Step.assign token.lexeme value
  else if ← Step.accept "(" then
    let argument ← argument evaluateInside
    if ← Step.accept ")" then
      Step.ofAttempt
        (context.environment.functions.value token.lexeme argument
          (some token.position))
    else
      Step.failHere (.unclosedCall token.lexeme)
  else
    let found := (← get).find? context.environment.values token.lexeme
    Step.ofAttempt (boundValue found token.lexeme (some token.position))

/-- Evaluate an operand whose first token has been passed. -/
def openWith
    (context : EvaluationContext)
    (evaluateInside : Evaluator)
    (token : Token) :
    Opening →
    Step Number
  | .literal read => Step.ofAttemptAt token (read token.lexeme)
  | .operator operation precedence => do
      let operand ← Step.operandOf token (← evaluateInside precedence)
      Step.ofAttemptAt token (operation operand)
  | .group => do
      let value ← Step.operandOf token (← evaluateInside .belowAssignment)
      if ← Step.accept ")" then
        return value
      else
        Step.failHere .unclosedGroup
  | .name => name context evaluateInside token

/-- The threshold for the right operand of an operator. -/
def rightThreshold
    (precedence : Precedence) :
    Associativity →
    Precedence
  | .left => precedence
  | .right => precedence - 1

/-- Evaluate an operator after its left operand; its token has been passed. -/
def continueWith
    (evaluateInside : Evaluator)
    (left : Number)
    (token : Token) :
    Continuation →
    Step Number
  | .binary operation precedence associativity => do
      let right ←
        Step.operandOf token
          (← evaluateInside (rightThreshold precedence associativity))
      Step.ofAttemptAt token (operation left right)
  | .trailing operation _ => Step.ofAttemptAt token (operation left)

/--
Continue a value by the operators that bind tighter than a threshold.

The first argument bounds the number of operators; every one passes a token, so
the number of tokens still to come is enough.
-/
def extend
    (grammar : Grammar)
    (evaluateInside : Evaluator)
    (threshold : Precedence) :
    Nat →
    Number →
    Step Number
  | 0, value => pure value
  | rounds + 1, value => do
      match ← Step.peek? with
      | none => return value
      | some token =>
          match grammar.continuation? token with
          | none => return value
          | some continuation =>
              if continuation.precedence ≤ threshold then
                return value
              else
                let _ ← Step.consume
                let extended ←
                  continueWith evaluateInside value token continuation
                extend grammar evaluateInside threshold rounds extended

/-- Evaluate an expression within a number of levels of nesting. -/
def evaluate
    (context : EvaluationContext) :
    Nat →
    Evaluator
  | 0, _ => throw (.fault .nesting)
  | levels + 1, threshold => do
      match ← Step.peek? with
      | none => return none
      | some token =>
          match context.grammar.opening? token with
          | none => Step.fail (.unexpectedStart token.lexeme) token.position
          | some opening =>
              let _ ← Step.consume
              let value ←
                openWith context (evaluate context levels) token opening
              let rounds := (← get).stream.rest.length
              let extended ←
                extend context.grammar (evaluate context levels) threshold
                  rounds value
              return some extended

end Evaluator

/-- The levels of nesting an expression may have. -/
def nestingLimit : Nat :=
  490

end Reckoner
