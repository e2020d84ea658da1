import Reckoner.CommandLine.Session

namespace Reckoner.CommandLine

/-!
# Evaluating one expression

The command makes assignments in a new session, evaluates the expression and writes
its value. The first failure is reported, and nothing after it is evaluated.
-/

/-- Evaluate the expression after all assignments. -/
def evaluateExpression
    (session : Session)
    (expression : Input) :
    Transcript :=
  let report := session.report expression
  let result : Transcript :=
    match report.outcome with
    | .failed failure => .reportedError failure.text
    | .faulted fault => ⟨[], .fault fault⟩
    | .value value =>
        match displayed value with
        | .ok text => .success [.out (text ++ "\n")]
        | .error fault => ⟨[], .fault fault⟩
  result.after (session.reportPieces expression.text report)

/-- Make assignments one after another, then evaluate the expression. -/
def evaluateAfter
    (expression : Input)
    (session : Session) :
    List Input →
    Transcript
  | [] => evaluateExpression session expression
  | assignment :: rest =>
      let report := session.report assignment
      let result : Transcript :=
        match report.outcome with
        | .failed failure =>
            .reportedError ("--set " ++ assignment.text ++ ": " ++ failure.text)
        | .faulted fault => ⟨[], .fault fault⟩
        | .value _ =>
            evaluateAfter expression (session.continued report) rest
      result.after (session.reportPieces assignment.text report)

/-- Evaluate an expression in a new session. -/
def evaluate
    (settings : Settings)
    (assignments : List Input)
    (expression : Input) :
    Transcript :=
  (evaluateAfter expression (Session.start settings) assignments).after
    (Session.startPieces settings)

end Reckoner.CommandLine
