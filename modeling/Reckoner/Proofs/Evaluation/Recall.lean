import Reckoner.Proofs.Evaluation.Frame
import Reckoner.Proofs.Syntax.Parsing
import Reckoner.Proofs.Syntax.Sentence
import Reckoner.Proofs.Token.Identifier

namespace Reckoner

/-!
# Recalling variables by their names

A source that is one identifier has the number of the variable of that name. In a
session all variables can be recalled like this: the names that come in through
assignments are the names of identifiers, and such a name is read as itself. This is
the invariant of a session, whatever its sources and however they end.
-/

/-- A name has the value it is bound to, or it is undefined. -/
theorem Tree.result_reference
    (environment : Environment)
    (name : Token) :
    (Tree.reference name).result environment =
      match environment.values.get? name.lexeme with
      | some number => (.value (some number), environment)
      | none =>
          (.failed ⟨.undefinedVariable name.lexeme, some name.position⟩,
            environment) := by
  unfold result
  cases found : environment.values.get? name.lexeme with
  | some number =>
      simp [evaluate, found, boundValue, Meaning.ofAttempt]
  | none =>
      simp [evaluate, found, boundValue, Meaning.ofAttempt,
        Expression.outcomeOfExit]

namespace Expression

/-- A source that is one identifier has the value of the name at every level. -/
theorem result_evaluateWithin_identifier
    (levels : Nat)
    (environment : Environment)
    {source lexeme : String}
    {position : Nat}
    (tokenized : tokenize source = .ok [⟨.identifier, lexeme, position⟩]) :
    (evaluateWithin (levels + 1) Grammar.frozenStandard environment
      source).result =
      match environment.values.get? lexeme with
      | some number => (.value (some number), environment)
      | none =>
          (.failed ⟨.undefinedVariable lexeme, some position⟩,
            environment) := by
  have isOver :
      (Tree.reference ⟨.identifier, lexeme, position⟩).Over
        Grammar.frozenStandard := rfl
  have result :=
    Tree.result_evaluateWithin Grammar.regular_frozenStandard isOver trivial
      environment (Nat.succ_le_succ (Nat.zero_le levels)) tokenized
  exact result.trans (Tree.result_reference environment _)

/-- A source that is one identifier has the value of the name. -/
theorem result_evaluate_identifier
    (environment : Environment)
    {source lexeme : String}
    {position : Nat}
    (tokenized : tokenize source = .ok [⟨.identifier, lexeme, position⟩]) :
    (evaluate Grammar.frozenStandard environment source).result =
      match environment.values.get? lexeme with
      | some number => (.value (some number), environment)
      | none =>
          (.failed ⟨.undefinedVariable lexeme, some position⟩,
            environment) :=
  result_evaluateWithin_identifier 489 environment tokenized

end Expression

/-- A name that is read as one identifier, which is the name itself. -/
def ReadsAsItself
    (name : String) :
    Prop :=
  tokenize name = .ok [⟨.identifier, name, 0⟩]

namespace Expression

/-- What is bound to a name that is read as itself is the value of that name. -/
theorem outcome_evaluateWithin_of_readsAsItself
    (levels : Nat)
    {environment : Environment}
    {name : String}
    (readsAsItself : ReadsAsItself name)
    {number : Number}
    (bound : environment.values.get? name = some number) :
    let report :=
      evaluateWithin (levels + 1) Grammar.frozenStandard environment name
    report.outcome = .value (some number) ∧
      report.environment = environment := by
  intro report
  have result :=
    result_evaluateWithin_identifier levels environment readsAsItself
  rw [bound] at result
  exact Report.eq_of_result result

/-- Every name that a source assigns is read as itself. -/
theorem readsAsItself_of_mem_assignedNames
    {source name : String}
    (member : name ∈ assignedNames source) :
    ReadsAsItself name := by
  cases tokenized : tokenize source with
  | error failure =>
      rw [assignedNames, tokenized] at member
      cases member
  | ok tokens =>
      rw [assignedNames_of_tokenize tokenized,
        Token.mem_assignedNames_iff] at member
      obtain ⟨token, sign, later, isSuffix, isName, rfl, _⟩ := member
      exact
        tokenize_lexeme tokenized (isSuffix.subset List.mem_cons_self) isName

end Expression

/-- All variables have names that are read as themselves. -/
def Variables.Recallable
    (values : Variables) :
    Prop :=
  ∀ name,
    (values.get? name).isSome = true →
    ReadsAsItself name

namespace Variables.Recallable

/-- The constants of every calculator have such names. -/
theorem builtin :
    Variables.builtin.Recallable := by
  intro name isBound
  have isKey : name ∈ Variables.builtin.keys := Table.isSome_get?_iff.1 isBound
  have listed : Variables.builtin.keys = ["pi", "e"] := rfl
  rw [listed] at isKey
  simp only [List.mem_cons, List.not_mem_nil, or_false] at isKey
  rcases isKey with rfl | rfl
  · rfl
  · rfl

/-- One source keeps all variables recallable, whatever its outcome. -/
theorem evaluateWithin
    {environment : Environment}
    (recallable : environment.values.Recallable)
    (levels : Nat)
    (source : String) :
    (Expression.evaluateWithin levels Grammar.frozenStandard environment
      source).environment.values.Recallable := by
  intro name isBound
  -- A name that the source does not assign was bound before.
  by_cases assigned : name ∈ Expression.assignedNames source
  · exact Expression.readsAsItself_of_mem_assignedNames assigned
  · have kept :=
      (Expression.changesOnly_evaluateWithin levels environment source).kept
        name assigned
    rw [kept] at isBound
    exact recallable name isBound

/-- A session keeps all variables recallable. -/
theorem valuesAfter
    {values : Variables}
    (recallable : values.Recallable)
    (levels : Nat)
    (calls : List (Functions × String)) :
    (Expression.valuesAfter levels Grammar.frozenStandard values
      calls).Recallable := by
  induction calls generalizing values with
  | nil => exact recallable
  | cons call later inductionHypothesis =>
      rcases call with ⟨functions, source⟩
      have start : (⟨values, functions⟩ : Environment).values.Recallable := recallable
      exact inductionHypothesis (start.evaluateWithin levels source)

end Variables.Recallable

/-- A name before an equals sign gets the value that is read up to where it stops. -/
theorem Evaluator.exists_of_run_name_of_sign
    {context : EvaluationContext}
    {levels : Nat}
    {token : Token}
    {progress after : Progress}
    (sign : progress.stream.nextIs "=" = true)
    {value : Number}
    (ran :
      (name context (evaluate context levels) token).run progress =
        .ok value after) :
    ∃ earlier,
      after.assigned = (token.lexeme, value) :: earlier ∧
        context.grammar.StopsAt .belowAssignment after.stream.rest := by
  rw [run_name_of_sign _ _ _ sign] at ran
  obtain ⟨optional, moved, insideRan, ran⟩ := Step.exists_of_run_bind ran
  obtain ⟨number, same, operandRan, ran⟩ := Step.exists_of_run_bind ran
  obtain ⟨rfl, rfl⟩ := Step.of_run_operandOf operandRan
  have stops := ((readsTrees_evaluate context levels).value insideRan).2
  cases ran
  exact ⟨same.assigned, rfl, stops⟩

namespace Expression

/-- A value of tokens that begin with a name and a sign is assigned to the name last. -/
theorem exists_of_run_evaluate_assignment
    {context : EvaluationContext}
    {levels : Nat}
    {name sign : Token}
    {later : List Token}
    (opens : context.grammar.opening? name = some .name)
    (isSign : sign.isSymbol "=" = true)
    {progress after : Progress}
    (shape : progress.stream.rest = name :: sign :: later)
    {optional : Option Number}
    (ran :
      (Evaluator.evaluate context levels .belowAssignment).run progress =
        .ok optional after) :
    ∃ number earlier,
      optional = some number ∧
        after.assigned = (name.lexeme, number) :: earlier := by
  cases levels with
  | zero => cases ran
  | succ levels =>
      cases optional with
      | none =>
          have exhausted := (Evaluator.exhausted_of_run_evaluate ran).1
          rw [shape] at exhausted
          cases exhausted
      | some number =>
          obtain ⟨token, rest, opening, operand, moved, sameShape, known,
            opened, extended⟩ := Evaluator.exists_of_run_evaluate_succ ran
          rw [shape] at sameShape
          cases sameShape
          rw [opens] at known
          cases known
          have isBehind : (progress.skip 1).stream.rest = sign :: later := by
            simp [shape]
          have signNext : (progress.skip 1).stream.nextIs "=" = true := by
            rw [TokenStream.nextIs_cons isBehind]
            exact isSign
          obtain ⟨earlier, assigned, stops⟩ :=
            Evaluator.exists_of_run_name_of_sign signNext opened
          -- The expression behind the sign took all it could, so nothing extends it.
          rw [Evaluator.run_extendAll_of_stopsAt stops] at extended
          cases extended
          exact ⟨number, earlier, rfl, assigned⟩

/-- The value of an assignment is what its name is bound to afterwards. -/
theorem get?_of_assignment
    {levels : Nat}
    {environment : Environment}
    {source : String}
    {name sign : Token}
    {later : List Token}
    (tokenized : tokenize source = .ok (name :: sign :: later))
    (isName : name.kind = .identifier)
    (isSign : sign.isSymbol "=" = true)
    {optional : Option Number}
    (outcome :
      (evaluateWithin levels Grammar.frozenStandard environment
        source).outcome = .value optional) :
    ∃ number,
      optional = some number ∧
        (evaluateWithin levels Grammar.frozenStandard environment
          source).environment.values.get? name.lexeme = some number := by
  have kept := environment_of_outcome_eq_value outcome
  rw [evaluateWithin_of_tokenized tokenized] at outcome
  obtain ⟨after, ran⟩ := exists_of_outcome_eq_value outcome
  obtain ⟨number, earlier, rfl, assigned⟩ :=
    exists_of_run_evaluate_assignment (Grammar.opening?_of_isIdentifier isName)
      isSign rfl (of_run_complete ran).1
  have last :
      (evaluateWithin levels Grammar.frozenStandard environment
        source).assigned = earlier.reverse ++ [(name.lexeme, number)] := by
    rw [evaluateWithin_of_tokenized tokenized]
    simp only [assigned_reportOfTokens, Step.progressAfter, ran, assigned,
      List.reverse_cons]
  refine ⟨number, rfl, ?_⟩
  rw [kept, last]
  simp [Environment.setAll, Table.get?_insertAll, Table.lookup]

/--
In every session that starts with the constants alone, a variable has a name that is
read as one identifier, the name itself, and as a source this name has the number of
the variable as its value and changes nothing. This holds also right after a source
that assigns its value to a name: the name then has the value of the source.
-/
theorem recalls_valuesAfter
    (levels : Nat)
    (calls : List (Functions × String)) :
    let values :=
      valuesAfter levels Grammar.frozenStandard Variables.builtin calls
    (∀ name number,
      values.get? name = some number →
      tokenize name = .ok [⟨.identifier, name, 0⟩] ∧
        ∀ functions more,
          let report :=
            evaluateWithin (more + 1) Grammar.frozenStandard
              ⟨values, functions⟩ name
          report.outcome = .value (some number) ∧
            report.environment = ⟨values, functions⟩) ∧
      ∀ functions source name sign later optional,
        let report :=
          evaluateWithin levels Grammar.frozenStandard ⟨values, functions⟩
            source
        tokenize source = .ok (name :: sign :: later) →
        name.kind = .identifier →
        sign.isSymbol "=" = true →
        report.outcome = .value optional →
        ∃ number,
          optional = some number ∧
            ∀ more,
              let recalled :=
                evaluateWithin (more + 1) Grammar.frozenStandard
                  report.environment name.lexeme
              recalled.outcome = .value (some number) ∧
                recalled.environment = report.environment := by
  intro values
  have recallable : values.Recallable :=
    Variables.Recallable.builtin.valuesAfter levels calls
  constructor
  · intro name number bound
    have readsAsItself : ReadsAsItself name := by
      apply recallable
      rw [bound]
      rfl
    exact
      ⟨readsAsItself, fun functions more =>
        outcome_evaluateWithin_of_readsAsItself more readsAsItself bound⟩
  · intro functions source name sign later optional report tokenized isName
      isSign outcome
    obtain ⟨number, isNumber, bound⟩ :=
      get?_of_assignment tokenized isName isSign outcome
    have readsAsItself : ReadsAsItself name.lexeme :=
      tokenize_lexeme tokenized List.mem_cons_self isName
    exact
      ⟨number, isNumber, fun more =>
        outcome_evaluateWithin_of_readsAsItself more readsAsItself bound⟩

/-- After `_y=(x=3)*2` and a failing `(x=4)+z`, the name `_y` reads back as 6. -/
theorem recalls_valuesAfter_interruptedSum :
    let values :=
      valuesAfter 4 Grammar.frozenStandard Variables.builtin [
        ((Functions.builtin fun _ => 0.5), "_y=(x=3)*2"),
        ((Functions.builtin fun _ => 0.25), "(x=4)+z")
      ]
    let environment : Environment := ⟨values, Functions.builtin fun _ => 0.5⟩
    let report :=
      evaluateWithin 4 Grammar.frozenStandard environment "x=2^3"
    values.get? "_y" = some (.int 6) ∧
      (evaluate Grammar.frozenStandard environment "_y").outcome =
        .value (some (.int 6)) ∧
      report.outcome = .value (some (.int 8)) ∧
      (evaluate Grammar.frozenStandard report.environment "x").outcome =
        .value (some (.int 8)) := by
  intro values environment report
  have first :
      tokenize "_y=(x=3)*2" = .ok [
        ⟨.identifier, "_y", 0⟩, ⟨.symbol, "=", 2⟩, ⟨.symbol, "(", 3⟩,
        ⟨.identifier, "x", 4⟩, ⟨.symbol, "=", 5⟩, ⟨.number, "3", 6⟩,
        ⟨.symbol, ")", 7⟩, ⟨.symbol, "*", 8⟩, ⟨.number, "2", 9⟩
      ] := rfl
  have second :
      tokenize "(x=4)+z" = .ok [
        ⟨.symbol, "(", 0⟩, ⟨.identifier, "x", 1⟩, ⟨.symbol, "=", 2⟩,
        ⟨.number, "4", 3⟩, ⟨.symbol, ")", 4⟩, ⟨.symbol, "+", 5⟩,
        ⟨.identifier, "z", 6⟩
      ] := rfl
  have tokenized :
      tokenize "x=2^3" = .ok [
        ⟨.identifier, "x", 0⟩, ⟨.symbol, "=", 1⟩, ⟨.number, "2", 2⟩,
        ⟨.symbol, "^", 3⟩, ⟨.number, "3", 4⟩
      ] := rfl
  have bound : values.get? "_y" = some (.int 6) := by
    simp only [values, valuesAfter, evaluateWithin, first, second]
    rfl
  have outcome : report.outcome = .value (some (.int 8)) := by
    simp only [report, evaluateWithin_of_tokenized tokenized]
    rfl
  obtain ⟨stored, assigned⟩ :=
    recalls_valuesAfter 4 [
      ((Functions.builtin fun _ => 0.5), "_y=(x=3)*2"),
      ((Functions.builtin fun _ => 0.25), "(x=4)+z")
    ]
  obtain ⟨_, recalled⟩ := stored "_y" (.int 6) bound
  obtain ⟨number, isNumber, again⟩ :=
    assigned (Functions.builtin fun _ => 0.5) "x=2^3" _ _ _ _ tokenized rfl rfl outcome
  cases isNumber
  exact
    ⟨bound, (recalled (Functions.builtin fun _ => 0.5) 489).1, outcome, (again 489).1⟩

end Expression

end Reckoner
