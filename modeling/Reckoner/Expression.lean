import Reckoner.Evaluation
import Reckoner.Token.Scan

namespace Reckoner

/-!
# Evaluating a source text

A source is evaluated as one complete expression. A failure leaves the environment
as it was; a value keeps the assignments. A fault that leaves the evaluation keeps
the assignments made before it.
-/

/-- A text to be evaluated, with the numbers that are drawn for the calls in it. -/
structure Input where
  text : String
  draws : Draws

/-- How the evaluation of a source ends. The value is missing if nothing is written. -/
inductive Outcome where
  | value (value : Option Number)
  | failed (failure : Failure)
  | faulted (fault : Fault)
  deriving Repr

/-- The outcome of an evaluation and the traces it leaves. -/
structure Report where
  outcome : Outcome
  /-- The tokens of the source, unless a number is malformed. -/
  tokens : Option (List Token)
  /-- The assignments in the order they were made, also if they are not kept. -/
  assigned : List (String × Number)
  /-- The environment afterwards. -/
  environment : Environment

namespace Expression

/-- Evaluate a complete expression: no token may be left over. -/
def complete
    (context : EvaluationContext)
    (levels : Nat) :
    Step (Option Number) := do
  let value ← Evaluator.evaluate context levels .belowAssignment
  match ← Step.peek? with
  | none => return value
  | some token => Step.fail (.unexpectedToken token.lexeme) token.position

/-- The outcome of an exit: nesting too deep counts as a failure of the source. -/
def outcomeOfExit : Exit → Outcome
  | .failure failure => .failed failure
  | .fault .nesting => .failed ⟨.nestingTooDeep, none⟩
  | .fault fault => .faulted fault

/-- The environment after an outcome: a failure keeps no assignment. -/
def environmentAfter
    (environment : Environment)
    (assigned : List (String × Number)) :
    Outcome →
    Environment
  | .failed _ => environment
  | .value _ => environment.setAll assigned
  | .faulted _ => environment.setAll assigned

/-- The report of an evaluation of tokens. -/
def reportOfTokens
    (grammar : Grammar)
    (environment : Environment)
    (levels : Nat)
    (tokens : List Token) :
    Report :=
  let (outcome, progress) :=
    match (complete ⟨grammar, environment⟩ levels).run (Progress.start tokens) with
    | .ok value progress => (Outcome.value value, progress)
    | .error exit progress => (outcomeOfExit exit, progress)
  let assigned := progress.assigned.reverse
  {
    outcome := outcome
    tokens := some tokens
    assigned := assigned
    environment := environmentAfter environment assigned outcome
  }

/-- Evaluate a source within a number of levels of nesting. -/
def evaluateWithin
    (levels : Nat)
    (grammar : Grammar)
    (environment : Environment)
    (source : String) :
    Report :=
  match tokenize source with
  | .error failure => ⟨.failed failure, none, [], environment⟩
  | .ok tokens => reportOfTokens grammar environment levels tokens

/-- Evaluate a source as a complete expression. -/
def evaluate
    (grammar : Grammar)
    (environment : Environment)
    (source : String) :
    Report :=
  evaluateWithin nestingLimit grammar environment source

/-- The report of a source is that of its tokens. -/
theorem evaluateWithin_of_tokenized
    {source : String}
    {tokens : List Token}
    (tokenized : tokenize source = .ok tokens)
    (levels : Nat)
    (grammar : Grammar)
    (environment : Environment) :
    evaluateWithin levels grammar environment source =
      reportOfTokens grammar environment levels tokens := by
  rw [evaluateWithin, tokenized]

/-- A source without tokens fails, and nothing else comes of it. -/
theorem evaluateWithin_of_untokenized
    {source : String}
    {failure : Failure}
    (untokenized : tokenize source = .error failure)
    (levels : Nat)
    (grammar : Grammar)
    (environment : Environment) :
    evaluateWithin levels grammar environment source =
      ⟨.failed failure, none, [], environment⟩ := by
  rw [evaluateWithin, untokenized]

/-- A report holds the tokens of the source, if it has any. -/
theorem tokens_evaluateWithin
    (levels : Nat)
    (grammar : Grammar)
    (environment : Environment)
    (source : String) :
    (evaluateWithin levels grammar environment source).tokens =
      (tokenize source).toOption := by
  unfold evaluateWithin
  cases tokenize source with
  | ok tokens => rfl
  | error failure => rfl

/-- What an evaluation leaves behind depends on its outcome and its assignments. -/
theorem environment_evaluateWithin
    (levels : Nat)
    (grammar : Grammar)
    (environment : Environment)
    (source : String) :
    let report := evaluateWithin levels grammar environment source
    report.environment =
      environmentAfter environment report.assigned report.outcome := by
  unfold evaluateWithin
  cases tokenize source with
  | ok tokens => rfl
  | error failure => rfl

/-- A value keeps the assignments that have been made. -/
theorem environment_of_outcome_eq_value
    {levels : Nat}
    {grammar : Grammar}
    {environment : Environment}
    {source : String}
    {value : Option Number}
    (outcome :
      (evaluateWithin levels grammar environment source).outcome =
        .value value) :
    (evaluateWithin levels grammar environment source).environment =
      environment.setAll
        (evaluateWithin levels grammar environment source).assigned := by
  have after := environment_evaluateWithin levels grammar environment source
  rw [after, outcome]
  rfl

/-- A failure takes all assignments back. -/
theorem environment_of_failed
    {levels : Nat}
    {grammar : Grammar}
    {environment : Environment}
    {source : String}
    {failure : Failure}
    (failed :
      (evaluateWithin levels grammar environment source).outcome =
        .failed failure) :
    (evaluateWithin levels grammar environment source).environment =
      environment := by
  have after := environment_evaluateWithin levels grammar environment source
  rw [after, failed]
  rfl

/-- A fault keeps the assignments that have been made. -/
theorem environment_of_faulted
    {levels : Nat}
    {grammar : Grammar}
    {environment : Environment}
    {source : String}
    {fault : Fault}
    (faulted :
      (evaluateWithin levels grammar environment source).outcome =
        .faulted fault) :
    (evaluateWithin levels grammar environment source).environment =
      environment.setAll
        (evaluateWithin levels grammar environment source).assigned := by
  have after := environment_evaluateWithin levels grammar environment source
  rw [after, faulted]
  rfl

/-- An evaluation leaves the functions alone, however it ends. -/
theorem functions_evaluateWithin
    (levels : Nat)
    (grammar : Grammar)
    (environment : Environment)
    (source : String) :
    (evaluateWithin levels grammar environment source).environment.functions =
      environment.functions := by
  have after :=
    environment_evaluateWithin levels grammar environment source
  rw [after]
  cases (evaluateWithin levels grammar environment source).outcome <;> rfl

end Expression

end Reckoner
