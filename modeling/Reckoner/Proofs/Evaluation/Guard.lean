import Reckoner.Proofs.Evaluation.Invariant

namespace Reckoner

/-!
# Evaluations under a guard

A guard watches the numbers of an evaluation. The guarded evaluation takes the same turns as
the other one for as long as all numbers satisfy a predicate, and where a literal, an
operation or a call gives a number that does not, it stops at that token. So it ends in the
same way, or it ends with a stop at one of its tokens, and whatever it has assigned
satisfies the predicate in either case.

The two evaluations share their progress until the stop. This makes the relation between
them one on steps alone, which composes as the steps do.
-/

/-- Two attempts are the same, with a value that is let through, or the first one stops. -/
inductive Attempt.Guards
    (passes : Number → Prop)
    (stops : Exit → Prop) :
    Attempt Number →
    Attempt Number →
    Prop where
  | ok
      {number : Number}
      (satisfied : passes number) :
      Guards passes stops (.ok number) (.ok number)
  | error
      (exit : Exit) :
      Guards passes stops (.error exit) (.error exit)
  | stopped
      {exit : Exit}
      (isStop : stops exit)
      (other : Attempt Number) :
      Guards passes stops (.error exit) other

/-- The tokens to come are among the given ones, and assigned numbers satisfy a predicate. -/
structure Progress.Watched
    (tokens : List Token)
    (passes : Number → Prop)
    (progress : Progress) :
    Prop where
  among : progress.stream.rest ⊆ tokens
  assigns : ∀ entry ∈ progress.assigned, passes entry.2

namespace Progress.Watched

variable {tokens : List Token}
variable {passes : Number → Prop}
variable {progress : Progress}

/-- At the start all tokens are to come and nothing has been assigned. -/
theorem start
    (tokens : List Token) :
    (Progress.start tokens).Watched tokens passes :=
  ⟨List.Subset.refl tokens, fun _ impossible => nomatch impossible⟩

/-- Passing a token leaves fewer to come. -/
theorem skip
    (watched : progress.Watched tokens passes)
    (count : Nat) :
    (progress.skip count).Watched tokens passes :=
  ⟨List.Subset.trans (List.drop_subset count _) watched.among,
    watched.assigns⟩

/-- A number that satisfies the predicate may be assigned. -/
theorem assign
    (watched : progress.Watched tokens passes)
    (name : String)
    {number : Number}
    (satisfied : passes number) :
    (progress.assign name number).Watched tokens passes := by
  refine ⟨watched.among, fun entry member => ?_⟩
  rcases List.mem_cons.1 member with rfl | isEarlier
  · exact satisfied
  · exact watched.assigns entry isEarlier

end Progress.Watched

namespace Step

variable {α β : Type}
variable {invariant : Progress → Prop}
variable {passes : Number → Prop}
variable {stops : Exit → Prop}

/-- What two steps leave is the same, unless the first one has stopped. -/
inductive Guarded
    (invariant : Progress → Prop)
    (stops : Exit → Prop)
    (value : α → Prop) :
    EStateM.Result Exit Progress α →
    EStateM.Result Exit Progress α →
    Prop where
  | ok
      {result : α}
      {progress : Progress}
      (satisfied : value result)
      (holds : invariant progress) :
      Guarded invariant stops value (.ok result progress) (.ok result progress)
  | error
      {exit : Exit}
      {progress : Progress}
      (holds : invariant progress) :
      Guarded invariant stops value
        (.error exit progress) (.error exit progress)
  | stopped
      {exit : Exit}
      {progress : Progress}
      {other : EStateM.Result Exit Progress α}
      (isStop : stops exit)
      (holds : invariant progress) :
      Guarded invariant stops value (.error exit progress) other

/-- A step does the same as another one wherever it begins, unless it stops. -/
def Guards
    (invariant : Progress → Prop)
    (stops : Exit → Prop)
    (value : α → Prop)
    (guarded step : Step α) :
    Prop :=
  ∀ progress : Progress,
    invariant progress →
    Guarded invariant stops value (guarded.run progress) (step.run progress)

/-- A step that keeps the invariant needs no guard. -/
theorem Ensures.guards
    {value : α → Prop}
    {step : Step α}
    (ensures : Ensures invariant value (fun _ => True) step)
    (stops : Exit → Prop) :
    Guards invariant stops value step step := by
  intro progress holds
  have leaves := ensures progress holds
  cases ran : step.run progress with
  | ok result moved =>
      rw [ran] at leaves
      exact .ok leaves.1 leaves.2
  | error exit moved =>
      rw [ran] at leaves
      exact .error leaves.2

namespace Guards

/-- A value that is ready is the same on both sides. -/
theorem ofPure
    {value : α → Prop}
    {result : α}
    (satisfied : value result) :
    Guards invariant stops value (pure result) (pure result) :=
  fun _ holds => .ok satisfied holds

/-- An exit ends both steps. -/
theorem ofThrow
    {value : α → Prop}
    (exit : Exit) :
    Guards invariant stops value (throw exit) (throw exit) :=
  fun _ holds => .error holds

/-- Steps one after another. -/
theorem bind
    {value : α → Prop}
    {result : β → Prop}
    {guarded step : Step α}
    {guardedNext next : α → Step β}
    (guards : Guards invariant stops value guarded step)
    (nextGuards :
      ∀ given,
        value given →
        Guards invariant stops result (guardedNext given) (next given)) :
    Guards invariant stops result
      (guarded >>= guardedNext) (step >>= next) := by
  intro progress holds
  have left := guards progress holds
  rw [EStateM.run_bind, EStateM.run_bind]
  generalize guarded.run progress = first at left
  generalize step.run progress = second at left
  cases left with
  | ok satisfied movedHolds => exact nextGuards _ satisfied _ movedHolds
  | error movedHolds => exact .error movedHolds
  | stopped isStop movedHolds => exact .stopped isStop movedHolds

/-- What is done at a progress may depend on it. -/
theorem get_bind
    {value : α → Prop}
    {guardedNext next : Progress → Step α}
    (nextGuards :
      ∀ progress : Progress,
        invariant progress →
        Guarded invariant stops value ((guardedNext progress).run progress)
          ((next progress).run progress)) :
    Guards invariant stops value (get >>= guardedNext) (get >>= next) := by
  intro progress holds
  simpa using nextGuards progress holds

/-- An operand that is missing is missing on both sides. -/
theorem operandOf
    (token : Token)
    {optional : Option Number}
    (satisfied : OptionSatisfies passes optional) :
    Guards invariant stops passes (Step.operandOf token optional)
      (Step.operandOf token optional) := by
  cases optional with
  | none => exact ofThrow _
  | some number => exact ofPure (satisfied number rfl)

/-- Attempts under a guard. -/
theorem ofAttempt
    {guarded attempt : Attempt Number}
    (guards : guarded.Guards passes stops attempt) :
    Guards invariant stops passes (Step.ofAttempt guarded)
      (Step.ofAttempt attempt) := by
  cases guards with
  | ok satisfied => exact ofPure satisfied
  | error exit => exact ofThrow exit
  | stopped isStop _ => exact fun _ holds => .stopped isStop holds

/-- Attempts under a guard whose exits get the position of a token. -/
theorem ofAttemptAt
    {token : Token}
    {guarded attempt : Attempt Number}
    (guards :
      guarded.Guards passes
        (fun exit => stops (exit.attributedTo token.position)) attempt) :
    Guards invariant stops passes (Step.ofAttemptAt token guarded)
      (Step.ofAttemptAt token attempt) := by
  cases guards with
  | ok satisfied => exact ofPure satisfied
  | error exit => exact ofThrow _
  | stopped isStop _ => exact fun _ holds => .stopped isStop holds

variable {tokens : List Token}

/-- The next token is the same on both sides, and one of those to come. -/
theorem peek? :
    Guards (Progress.Watched tokens passes) stops
      (fun next => ∀ token, next = some token → token ∈ tokens)
      Step.peek? Step.peek? := by
  refine fun progress watched => .ok (fun token next => ?_) watched
  obtain ⟨later, shape⟩ := TokenStream.peek?_eq_some_iff.1 next
  exact watched.among (shape ▸ List.mem_cons_self)

/-- Whether a symbol is next is the same on both sides. -/
theorem accept
    (symbol : String) :
    Guards (Progress.Watched tokens passes) stops (fun _ => True)
      (Step.accept symbol) (Step.accept symbol) :=
  (Ensures.accept (fun _ watched _ => watched.skip 1) symbol).guards stops

/-- A token is passed on both sides. -/
theorem consume :
    Guards (Progress.Watched tokens passes) stops (fun _ => True)
      Step.consume Step.consume := by
  intro progress watched
  cases next : progress.stream.peek? with
  | none =>
      have exhausted := TokenStream.peek?_eq_none_iff.1 next
      simp only [Step.consume, EStateM.run_bind, EStateM.run_get,
        TokenStream.consume, exhausted]
      exact .error watched
  | some token =>
      rw [run_consume next]
      exact .ok trivial (watched.skip 1)

/-- A number that is let through may be assigned. -/
theorem assign
    (name : String)
    {number : Number}
    (satisfied : passes number) :
    Guards (Progress.Watched tokens passes) stops passes
      (Step.assign name number) (Step.assign name number) :=
  fun _ watched => .ok satisfied (watched.assign name satisfied)

/-- A symbol that has to come is passed on both sides, or both steps fail. -/
theorem closing
    (symbol : String)
    {value : α → Prop}
    {guarded passed : Step α}
    (guards :
      Guards (Progress.Watched tokens passes) stops value guarded passed)
    (cause : Cause) :
    Guards (Progress.Watched tokens passes) stops value
      (do
        if ← Step.accept symbol then
          guarded
        else
          Step.failHere cause)
      (do
        if ← Step.accept symbol then
          passed
        else
          Step.failHere cause) := by
  refine (accept symbol).bind fun closes _ => ?_
  cases closes with
  | true => exact guards
  | false => exact fun _ watched => .error watched

end Guards

end Step

/-- An opening of a token does the same as another one, unless it stops. -/
inductive Opening.Guards
    (passes : Number → Prop)
    (stops : Exit → Prop)
    (token : Token) :
    Opening →
    Opening →
    Prop where
  | literal
      {guarded read : String → Attempt Number}
      (guards :
        (guarded token.lexeme).Guards passes
          (fun exit => stops (exit.attributedTo token.position))
          (read token.lexeme)) :
      Guards passes stops token (.literal guarded) (.literal read)
  | operator
      {guarded operation : UnaryOperation}
      (precedence : Precedence)
      (guards :
        ∀ operand,
          passes operand →
          (guarded operand).Guards passes
            (fun exit => stops (exit.attributedTo token.position))
            (operation operand)) :
      Guards passes stops token
        (.operator guarded precedence) (.operator operation precedence)
  | group : Guards passes stops token .group .group
  | name : Guards passes stops token .name .name

/-- A continuation of a token does the same as another one, unless it stops. -/
inductive Continuation.Guards
    (passes : Number → Prop)
    (stops : Exit → Prop)
    (token : Token) :
    Continuation →
    Continuation →
    Prop where
  | binary
      {guarded operation : BinaryOperation}
      (precedence : Precedence)
      (associativity : Associativity)
      (guards :
        ∀ left right,
          passes left →
          passes right →
          (guarded left right).Guards passes
            (fun exit => stops (exit.attributedTo token.position))
            (operation left right)) :
      Guards passes stops token
        (.binary guarded precedence associativity)
        (.binary operation precedence associativity)
  | trailing
      {guarded operation : UnaryOperation}
      (precedence : Precedence)
      (guards :
        ∀ operand,
          passes operand →
          (guarded operand).Guards passes
            (fun exit => stops (exit.attributedTo token.position))
            (operation operand)) :
      Guards passes stops token
        (.trailing guarded precedence) (.trailing operation precedence)

/-- A guard does not change how tightly an operator binds. -/
theorem Continuation.Guards.precedence_eq
    {passes : Number → Prop}
    {stops : Exit → Prop}
    {token : Token}
    {guarded continuation : Continuation}
    (guards : Continuation.Guards passes stops token guarded continuation) :
    guarded.precedence = continuation.precedence := by
  cases guards with
  | binary _ _ _ => rfl
  | trailing _ _ => rfl

/-- What a guard needs to know of two contexts: all that can give a number at a token. -/
structure EvaluationContext.Guards
    (tokens : List Token)
    (passes : Number → Prop)
    (stops : Exit → Prop)
    (guarded context : EvaluationContext) :
    Prop where
  values : guarded.environment.values = context.environment.values
  bound :
    ∀ name number,
      context.environment.values.get? name = some number →
      passes number
  openings :
    ∀ token ∈ tokens,
      Option.Rel (Opening.Guards passes stops token)
        (guarded.grammar.opening? token) (context.grammar.opening? token)
  continuations :
    ∀ token ∈ tokens,
      Option.Rel (Continuation.Guards passes stops token)
        (guarded.grammar.continuation? token)
        (context.grammar.continuation? token)
  call :
    ∀ token ∈ tokens,
      ∀ argument,
        OptionSatisfies passes argument →
        (guarded.environment.functions.value token.lexeme argument
          (some token.position)).Guards passes stops
          (context.environment.functions.value token.lexeme argument
            (some token.position))

namespace EvaluationContext.Guards

variable {tokens : List Token}
variable {passes : Number → Prop}
variable {stops : Exit → Prop}
variable {guarded context : EvaluationContext}
variable {guardedInside inside : Evaluator}

/-- The evaluation inside of an operand is guarded at every threshold. -/
def Inside
    (tokens : List Token)
    (passes : Number → Prop)
    (stops : Exit → Prop)
    (guardedInside inside : Evaluator) :
    Prop :=
  ∀ threshold,
    Step.Guards (Progress.Watched tokens passes) stops
      (OptionSatisfies passes) (guardedInside threshold) (inside threshold)

/-- The argument of a call, which may be left out on both sides. -/
theorem argument
    (insideGuards : Inside tokens passes stops guardedInside inside) :
    Step.Guards (Progress.Watched tokens passes) stops
      (OptionSatisfies passes) (Evaluator.argument guardedInside)
      (Evaluator.argument inside) := by
  refine .get_bind fun progress watched => ?_
  split
  · exact .ok .ofNone watched
  · exact insideGuards .belowAssignment progress watched

/-- A name that is bound to a number that was let through. -/
theorem reference
    (guards : Guards tokens passes stops guarded context)
    (token : Token) :
    Step.Guards (Progress.Watched tokens passes) stops passes
      (do
        let found := (← get).find? guarded.environment.values token.lexeme
        Step.ofAttempt (boundValue found token.lexeme (some token.position)))
      (do
        let found := (← get).find? context.environment.values token.lexeme
        Step.ofAttempt
          (boundValue found token.lexeme (some token.position))) := by
  rw [guards.values]
  refine .get_bind fun progress watched => ?_
  cases found :
      progress.find? context.environment.values token.lexeme with
  | none => exact .error watched
  | some number =>
      refine .ok ?_ watched
      rw [Progress.find?_eq_get?] at found
      rcases Table.mem_of_get?_insertAll found with member | isBefore
      · exact watched.assigns _ (List.mem_reverse.1 member)
      · exact guards.bound _ number isBefore

/-- Names: assignments, calls and references. -/
theorem name
    (guards : Guards tokens passes stops guarded context)
    (insideGuards : Inside tokens passes stops guardedInside inside)
    {token : Token}
    (isToken : token ∈ tokens) :
    Step.Guards (Progress.Watched tokens passes) stops passes
      (Evaluator.name guarded guardedInside token)
      (Evaluator.name context inside token) := by
  refine (Step.Guards.accept "=").bind fun sign _ => ?_
  cases sign with
  | true =>
      refine (insideGuards .belowAssignment).bind fun optional satisfied => ?_
      refine (Step.Guards.operandOf token satisfied).bind fun number given => ?_
      exact .assign token.lexeme given
  | false =>
      refine (Step.Guards.accept "(").bind fun opened _ => ?_
      cases opened with
      | true =>
          refine (argument insideGuards).bind fun optional satisfied => ?_
          exact
            .closing ")"
              (.ofAttempt (guards.call token isToken optional satisfied)) _
      | false => exact guards.reference token

/-- Operands, whatever their first token opens. -/
theorem openWith
    (guards : Guards tokens passes stops guarded context)
    (insideGuards : Inside tokens passes stops guardedInside inside)
    {token : Token}
    (isToken : token ∈ tokens)
    {guardedOpening opening : Opening}
    (openings : Opening.Guards passes stops token guardedOpening opening) :
    Step.Guards (Progress.Watched tokens passes) stops passes
      (Evaluator.openWith guarded guardedInside token guardedOpening)
      (Evaluator.openWith context inside token opening) := by
  cases openings with
  | literal reads => exact .ofAttemptAt reads
  | operator precedence operates =>
      refine (insideGuards precedence).bind fun optional satisfied => ?_
      refine (Step.Guards.operandOf token satisfied).bind fun operand given => ?_
      exact .ofAttemptAt (operates operand given)
  | group =>
      refine (insideGuards .belowAssignment).bind fun optional satisfied => ?_
      refine (Step.Guards.operandOf token satisfied).bind fun number given => ?_
      exact .closing ")" (.ofPure given) _
  | name => exact guards.name insideGuards isToken

/-- Operators after their left operands. -/
theorem continueWith
    (insideGuards : Inside tokens passes stops guardedInside inside)
    {left : Number}
    (leftGiven : passes left)
    {token : Token}
    {guardedContinuation continuation : Continuation}
    (continuations :
      Continuation.Guards passes stops token guardedContinuation
        continuation) :
    Step.Guards (Progress.Watched tokens passes) stops passes
      (Evaluator.continueWith guardedInside left token guardedContinuation)
      (Evaluator.continueWith inside left token continuation) := by
  cases continuations with
  | binary precedence associativity operates =>
      refine (insideGuards _).bind fun optional satisfied => ?_
      refine (Step.Guards.operandOf token satisfied).bind fun right given => ?_
      exact .ofAttemptAt (operates left right leftGiven given)
  | trailing precedence operates => exact .ofAttemptAt (operates left leftGiven)

/-- The operators that continue a value, by induction on the rounds. -/
theorem extend
    (guards : Guards tokens passes stops guarded context)
    (insideGuards : Inside tokens passes stops guardedInside inside)
    (threshold : Precedence)
    (rounds : Nat)
    {left : Number}
    (leftGiven : passes left) :
    Step.Guards (Progress.Watched tokens passes) stops passes
      (Evaluator.extend guarded.grammar guardedInside threshold rounds left)
      (Evaluator.extend context.grammar inside threshold rounds left) := by
  induction rounds generalizing left with
  | zero => exact .ofPure leftGiven
  | succ rounds inductionHypothesis =>
      refine Step.Guards.peek?.bind fun next isNext => ?_
      cases next with
      | none => exact .ofPure leftGiven
      | some token =>
          have related := guards.continuations token (isNext token rfl)
          dsimp only
          generalize guarded.grammar.continuation? token = first at related
          generalize context.grammar.continuation? token = second at related
          cases related with
          | none => exact .ofPure leftGiven
          | some continuations =>
              dsimp only
              rw [continuations.precedence_eq]
              split
              case isTrue => exact .ofPure leftGiven
              case isFalse =>
                refine Step.Guards.consume.bind fun _ _ => ?_
                refine
                  (continueWith insideGuards leftGiven continuations).bind
                    fun extended given => ?_
                exact inductionHypothesis given

/-- The evaluation is guarded at every level, by induction on the levels. -/
theorem evaluate
    (guards : Guards tokens passes stops guarded context)
    (levels : Nat) :
    Inside tokens passes stops (Evaluator.evaluate guarded levels)
      (Evaluator.evaluate context levels) := by
  induction levels with
  | zero => exact fun _ => .ofThrow _
  | succ levels inductionHypothesis =>
      intro threshold
      refine Step.Guards.peek?.bind fun next isNext => ?_
      cases next with
      | none => exact .ofPure .ofNone
      | some token =>
          have isToken := isNext token rfl
          have related := guards.openings token isToken
          dsimp only
          generalize guarded.grammar.opening? token = first at related
          generalize context.grammar.opening? token = second at related
          cases related with
          | none => exact .ofThrow _
          | some openings =>
              refine Step.Guards.consume.bind fun _ _ => ?_
              refine
                (guards.openWith inductionHypothesis isToken openings).bind
                  fun value given => ?_
              refine .get_bind fun progress watched => ?_
              exact
                (guards.extend inductionHypothesis threshold _ given).bind
                  (fun extended satisfied => .ofPure (.ofSome satisfied))
                  progress watched

/-- A complete expression is guarded. -/
theorem complete
    (guards : Guards tokens passes stops guarded context)
    (levels : Nat) :
    Step.Guards (Progress.Watched tokens passes) stops
      (OptionSatisfies passes) (Expression.complete guarded levels)
      (Expression.complete context levels) := by
  refine (guards.evaluate levels .belowAssignment).bind fun value given => ?_
  refine Step.Guards.peek?.bind fun next _ => ?_
  cases next with
  | none => exact .ofPure given
  | some token => exact .ofThrow _

end EvaluationContext.Guards

/-- A report is the same as another one, with numbers that are let through, or it stops. -/
inductive Report.Guards
    (passes : Number → Prop)
    (stops : Exit → Prop)
    (guarded report : Report) :
    Prop where
  | same
      (outcome : guarded.outcome = report.outcome)
      (assigned : guarded.assigned = report.assigned)
      (value :
        ∀ number,
          report.outcome = .value (some number) →
          passes number)
      (assigns : ∀ entry ∈ report.assigned, passes entry.2) :
      Guards passes stops guarded report
  | stopped
      {exit : Exit}
      (isStop : stops exit)
      (outcome : guarded.outcome = Expression.outcomeOfExit exit)
      (assigns : ∀ entry ∈ guarded.assigned, passes entry.2) :
      Guards passes stops guarded report

/-- Of the same tokens the guarded evaluation makes a guarded report. -/
theorem EvaluationContext.Guards.reportOfTokens
    {tokens : List Token}
    {passes : Number → Prop}
    {stops : Exit → Prop}
    {guarded context : EvaluationContext}
    (guards : Guards tokens passes stops guarded context)
    (levels : Nat) :
    (Expression.reportOfTokens guarded.grammar guarded.environment levels
      tokens).Guards passes stops
      (Expression.reportOfTokens context.grammar context.environment levels
        tokens) := by
  have left :=
    guards.complete levels (Progress.start tokens)
      (Progress.Watched.start tokens)
  unfold Expression.reportOfTokens
  generalize
    (Expression.complete guarded levels).run (Progress.start tokens) = first
    at left
  generalize
    (Expression.complete context levels).run (Progress.start tokens) = second
    at left
  have inOrder
      {progress : Progress}
      (watched : progress.Watched tokens passes) :
      ∀ entry ∈ progress.assigned.reverse, passes entry.2 :=
    fun entry member => watched.assigns entry (List.mem_reverse.1 member)
  cases left with
  | ok satisfied watched =>
      refine .same rfl rfl (fun number outcome => ?_) (inOrder watched)
      cases outcome
      exact satisfied number rfl
  | @error exit progress watched =>
      refine .same rfl rfl (fun number outcome => ?_) (inOrder watched)
      rcases exit with failure | fault
      · cases outcome
      · cases fault <;> cases outcome
  | stopped isStop watched => exact .stopped isStop rfl (inOrder watched)

end Reckoner
