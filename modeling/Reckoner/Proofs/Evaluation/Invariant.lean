import Reckoner.Proofs.Evaluation.Step

namespace Reckoner

/-!
# Invariants of an evaluation

An invariant of the progress holds throughout an evaluation if it survives passing a
token and making an assignment. What the values and the exits of an evaluation can be
follows from what the operations of the grammar, the functions and the variables can
give. `Evaluator.Closed` collects these obligations, and `Closed.evaluate` discharges
the recursion once for all invariants.
-/

/-- The value of an attempt satisfies one predicate and its exit another. -/
inductive Attempt.Satisfies
    {α : Type}
    (value : α → Prop)
    (exits : Exit → Prop) :
    Attempt α →
    Prop where
  | ok
      {result : α}
      (satisfied : value result) :
      Satisfies value exits (.ok result)
  | error
      {exit : Exit}
      (allowed : exits exit) :
      Satisfies value exits (.error exit)

namespace Attempt.Satisfies

variable {α β : Type}
variable {value : α → Prop}
variable {result : β → Prop}
variable {exits : Exit → Prop}

/-- Attempts one after another. -/
theorem bind
    {attempt : Attempt α}
    {next : α → Attempt β}
    (satisfies : attempt.Satisfies value exits)
    (nextSatisfies :
      ∀ given,
        value given →
        (next given).Satisfies result exits) :
    Attempt.Satisfies result exits (Except.bind attempt next) := by
  cases satisfies with
  | ok satisfied => exact nextSatisfies _ satisfied
  | error allowed => exact .error allowed

/-- A mapped attempt satisfies what its value is known to map to. -/
theorem map
    {attempt : Attempt α}
    {apply : α → β}
    (satisfies : attempt.Satisfies value exits)
    (maps : ∀ given, value given → result (apply given)) :
    Attempt.Satisfies result exits (Except.map apply attempt) := by
  cases satisfies with
  | ok satisfied => exact .ok (maps _ satisfied)
  | error allowed => exact .error allowed

/-- What implies the predicates satisfies them too. -/
theorem mono
    {attempt : Attempt α}
    {weaker : α → Prop}
    {more : Exit → Prop}
    (satisfies : attempt.Satisfies value exits)
    (values : ∀ given, value given → weaker given)
    (allows : ∀ exit, exits exit → more exit) :
    attempt.Satisfies weaker more := by
  cases satisfies with
  | ok satisfied => exact .ok (values _ satisfied)
  | error allowed => exact .error (allows _ allowed)

end Attempt.Satisfies

namespace Step

variable {α β : Type}
variable {invariant : Progress → Prop}
variable {exits : Exit → Prop}

/-- What a step leaves behind: a value or an exit, and the invariant with either. -/
def Leaves
    (invariant : Progress → Prop)
    (value : α → Prop)
    (exits : Exit → Prop) :
    EStateM.Result Exit Progress α →
    Prop
  | .ok result progress => value result ∧ invariant progress
  | .error exit progress => exits exit ∧ invariant progress

/-- A step keeps an invariant, and its values and exits satisfy their predicates. -/
def Ensures
    (invariant : Progress → Prop)
    (value : α → Prop)
    (exits : Exit → Prop)
    (step : Step α) :
    Prop :=
  ∀ progress,
    invariant progress →
    Leaves invariant value exits (step.run progress)

/-- What follows a step begins where the step leaves off. -/
theorem Leaves.bind
    {value : α → Prop}
    {result : β → Prop}
    {first : Step α}
    {next : α → Step β}
    {progress : Progress}
    (leaves : Leaves invariant value exits (first.run progress))
    (nextEnsures :
      ∀ given,
        value given →
        Ensures invariant result exits (next given)) :
    Leaves invariant result exits ((first >>= next).run progress) := by
  rw [EStateM.run_bind]
  cases ran : first.run progress with
  | ok given moved =>
      rw [ran] at leaves
      exact nextEnsures given leaves.1 moved leaves.2
  | error exit moved =>
      rw [ran] at leaves
      exact leaves

namespace Ensures

/-- A value that is ready leaves the progress alone. -/
theorem ofPure
    {value : α → Prop}
    {result : α}
    (satisfied : value result) :
    Ensures invariant value exits (pure result) :=
  fun _ holds => ⟨satisfied, holds⟩

/-- An exit that is allowed leaves the progress alone. -/
theorem ofThrow
    {value : α → Prop}
    {exit : Exit}
    (allowed : exits exit) :
    Ensures invariant value exits (throw exit) :=
  fun _ holds => ⟨allowed, holds⟩

/-- Steps one after another. -/
theorem bind
    {value : α → Prop}
    {result : β → Prop}
    {first : Step α}
    {next : α → Step β}
    (firstEnsures : Ensures invariant value exits first)
    (nextEnsures :
      ∀ given,
        value given →
        Ensures invariant result exits (next given)) :
    Ensures invariant result exits (first >>= next) :=
  fun progress holds => (firstEnsures progress holds).bind nextEnsures

/-- What implies the predicates of a step is ensured too. -/
theorem mono
    {value : α → Prop}
    {weaker : α → Prop}
    {more : Exit → Prop}
    {step : Step α}
    (ensures : Ensures invariant value exits step)
    (values : ∀ given, value given → weaker given)
    (allows : ∀ exit, exits exit → more exit) :
    Ensures invariant weaker more step := by
  intro progress holds
  have leaves := ensures progress holds
  cases ran : step.run progress with
  | ok given moved =>
      rw [ran] at leaves
      exact ⟨values given leaves.1, leaves.2⟩
  | error exit moved =>
      rw [ran] at leaves
      exact ⟨allows exit leaves.1, leaves.2⟩

/-- A mapped value satisfies what its preimages are known to map to. -/
theorem map
    {value : α → Prop}
    {result : β → Prop}
    {step : Step α}
    {apply : α → β}
    (ensures : Ensures invariant value exits step)
    (maps : ∀ given, value given → result (apply given)) :
    Ensures invariant result exits (apply <$> step) := by
  rw [← bind_pure_comp]
  exact ensures.bind fun given satisfied => ofPure (maps given satisfied)

/-- The result of an attempt is an exit or a value of the step. -/
theorem ofAttempt
    {value : α → Prop}
    {attempt : Attempt α}
    (satisfies : attempt.Satisfies value exits) :
    Ensures invariant value exits (Step.ofAttempt attempt) := by
  cases satisfies with
  | ok satisfied => exact ofPure satisfied
  | error allowed => exact ofThrow allowed

/-- The exit of an attempt may get the position of a token. -/
theorem ofAttemptAt
    {value : α → Prop}
    {attempt : Attempt α}
    {token : Token}
    (satisfies :
      attempt.Satisfies value
        fun exit => exits (exit.attributedTo token.position)) :
    Ensures invariant value exits (Step.ofAttemptAt token attempt) := by
  cases satisfies with
  | ok satisfied => exact ofPure satisfied
  | error allowed => exact ofThrow allowed

/-- A symbol is passed if the invariant survives passing a token. -/
theorem accept
    (skips :
      ∀ progress,
        invariant progress →
        progress.stream.rest ≠ [] →
        invariant (progress.skip 1))
    (symbol : String) :
    Ensures invariant (fun _ => True) exits (Step.accept symbol) := by
  intro progress holds
  cases next : progress.stream.nextIs symbol with
  | true =>
      rw [run_accept_of_next next]
      obtain ⟨token, rest, shape, _⟩ := TokenStream.exists_of_nextIs next
      exact ⟨trivial, skips progress holds (by simp [shape])⟩
  | false =>
      rw [run_accept_of_not_next next]
      exact ⟨trivial, holds⟩

end Ensures

end Step

/-- The number of an optional value satisfies a predicate, if there is one. -/
def OptionSatisfies
    (value : Number → Prop)
    (optional : Option Number) :
    Prop :=
  ∀ number, optional = some number → value number

namespace OptionSatisfies

variable {value : Number → Prop}

/-- There is nothing to satisfy without a number. -/
theorem ofNone :
    OptionSatisfies value none := by
  intro number impossible
  cases impossible

/-- A number that is there satisfies the predicate. -/
theorem ofSome
    {number : Number}
    (satisfied : value number) :
    OptionSatisfies value (some number) := by
  intro other same
  cases same
  exact satisfied

end OptionSatisfies

namespace Evaluator

/--
The obligations of an invariant in a context: it survives every step, and every
source of values and exits stays within the two predicates. A token is passed before
it is used, so what is then asked may refer to what was found when it was next.
-/
structure Closed
    (context : EvaluationContext)
    (found : Token → List Token → Prop)
    (invariant : Progress → Prop)
    (value : Number → Prop)
    (exits : Exit → Prop) : Prop where
  finds :
    ∀ progress token later,
      invariant progress →
      progress.stream.rest = token :: later →
      found token later
  skips :
    ∀ progress,
      invariant progress →
      progress.stream.rest ≠ [] →
      invariant (progress.skip 1)
  assigns :
    ∀ progress token sign later number,
      invariant progress →
      value number →
      found token (sign :: later) →
      context.grammar.opening? token = some .name →
      sign.isSymbol "=" = true →
      invariant (progress.assign token.lexeme number)
  nesting :
    exits (.fault .nesting)
  unexpectedStart :
    ∀ token later,
      found token later →
      exits (.placed (.unexpectedStart token.lexeme) token.position)
  missingOperand :
    ∀ token later,
      found token later →
      exits (.placed (.missingOperand token.lexeme) token.position)
  unclosedGroup :
    ∀ progress,
      invariant progress →
      exits (.placed .unclosedGroup progress.stream.position)
  unclosedCall :
    ∀ progress token later,
      invariant progress →
      found token later →
      exits (.placed (.unclosedCall token.lexeme) progress.stream.position)
  reference :
    ∀ progress token,
      invariant progress →
      found token progress.stream.rest →
      (boundValue (progress.find? context.environment.values token.lexeme)
        token.lexeme (some token.position)).Satisfies value exits
  call :
    ∀ token later argument,
      found token later →
      OptionSatisfies value argument →
      (context.environment.functions.value token.lexeme argument
        (some token.position)).Satisfies value exits
  literal :
    ∀ token later read,
      found token later →
      context.grammar.opening? token = some (.literal read) →
      (read token.lexeme).Satisfies value
        fun exit => exits (exit.attributedTo token.position)
  operator :
    ∀ token later operation precedence operand,
      found token later →
      context.grammar.opening? token =
        some (.operator operation precedence) →
      value operand →
      (operation operand).Satisfies value
        fun exit => exits (exit.attributedTo token.position)
  binary :
    ∀ token later operation precedence associativity left right,
      found token later →
      context.grammar.continuation? token =
        some (.binary operation precedence associativity) →
      value left →
      value right →
      (operation left right).Satisfies value
        fun exit => exits (exit.attributedTo token.position)
  trailing :
    ∀ token later operation precedence operand,
      found token later →
      context.grammar.continuation? token =
        some (.trailing operation precedence) →
      value operand →
      (operation operand).Satisfies value
        fun exit => exits (exit.attributedTo token.position)

namespace Closed

variable {context : EvaluationContext}
variable {found : Token → List Token → Prop}
variable {invariant : Progress → Prop}
variable {value : Number → Prop}
variable {exits : Exit → Prop}
variable {evaluateInside : Evaluator}

/-- Nothing that an attempt gives is excluded. -/
private theorem satisfies_true
    (attempt : Attempt Number) :
    attempt.Satisfies (fun _ => True) (fun _ => True) := by
  cases attempt with
  | ok value => exact .ok trivial
  | error exit => exact .error trivial

/--
If any value and any exit will do, an invariant has to survive every token that is
passed and every assignment to a name that was found in front of an equals sign.
-/
theorem ofFound
    (finds :
      ∀ progress token later,
        invariant progress →
        progress.stream.rest = token :: later →
        found token later)
    (skips :
      ∀ progress,
        invariant progress →
        progress.stream.rest ≠ [] →
        invariant (progress.skip 1))
    (assigns :
      ∀ progress token sign later number,
        invariant progress →
        found token (sign :: later) →
        context.grammar.opening? token = some .name →
        sign.isSymbol "=" = true →
        invariant (progress.assign token.lexeme number)) :
    Closed context found invariant (fun _ => True) (fun _ => True) where
  finds := finds
  skips := skips
  assigns progress token sign later number holds _ :=
    assigns progress token sign later number holds
  nesting := trivial
  unexpectedStart _ _ _ := trivial
  missingOperand _ _ _ := trivial
  unclosedGroup _ _ := trivial
  unclosedCall _ _ _ _ _ := trivial
  reference _ _ _ _ := satisfies_true _
  call _ _ _ _ _ := satisfies_true _
  literal _ _ _ _ _ := satisfies_true _
  operator _ _ _ _ _ _ _ _ := satisfies_true _
  binary _ _ _ _ _ _ _ _ _ _ _ := satisfies_true _
  trailing _ _ _ _ _ _ _ _ := satisfies_true _

/-- An invariant that survives every move needs to know nothing of the tokens. -/
theorem ofInvariant
    (skips :
      ∀ progress,
        invariant progress →
        progress.stream.rest ≠ [] →
        invariant (progress.skip 1))
    (assigns :
      ∀ progress name number,
        invariant progress →
        invariant (progress.assign name number)) :
    Closed context (fun _ _ => True) invariant
      (fun _ => True) (fun _ => True) :=
  .ofFound (fun _ _ _ _ _ => trivial) skips
    fun progress token _ _ number holds _ _ _ =>
      assigns progress token.lexeme number holds

/-- An operand that a token needs is there or missing. -/
theorem operandOf
    (closed : Closed context found invariant value exits)
    {token : Token}
    {later : List Token}
    (isFound : found token later)
    {optional : Option Number}
    (satisfied : OptionSatisfies value optional) :
    Step.Ensures invariant value exits (Step.operandOf token optional) := by
  cases optional with
  | none => exact .ofThrow (closed.missingOperand _ _ isFound)
  | some number => exact .ofPure (satisfied number rfl)

/-- A step that depends on the progress at which it begins. -/
private theorem ensures_get_bind
    {α : Type}
    {result : α → Prop}
    {next : Progress → Step α}
    (nextLeaves :
      ∀ progress,
        invariant progress →
        Step.Leaves invariant result exits
          ((next progress).run progress)) :
    Step.Ensures invariant result exits (get >>= next) := by
  intro progress holds
  simpa using nextLeaves progress holds

/-- A symbol that has to come is passed, or the step fails where it is. -/
theorem closing
    (closed : Closed context found invariant value exits)
    {symbol : String}
    {passed : Step Number}
    (passedEnsures : Step.Ensures invariant value exits passed)
    {cause : Cause}
    (unclosed :
      ∀ progress,
        invariant progress →
        exits (.placed cause progress.stream.position)) :
    Step.Ensures invariant value exits
      (do
        if ← Step.accept symbol then
          passed
        else
          Step.failHere cause) := by
  refine (Step.Ensures.accept closed.skips symbol).bind fun closes _ => ?_
  cases closes with
  | true => exact passedEnsures
  | false => exact fun progress holds => ⟨unclosed progress holds, holds⟩

/-- The argument of a call keeps the invariant, also if it is left out. -/
theorem argument
    (inside :
      ∀ threshold,
        Step.Ensures invariant (OptionSatisfies value) exits
          (evaluateInside threshold)) :
    Step.Ensures invariant (OptionSatisfies value) exits
      (Evaluator.argument evaluateInside) := by
  refine ensures_get_bind fun progress holds => ?_
  split
  · exact ⟨.ofNone, holds⟩
  · exact inside .belowAssignment progress holds

/-- Names keep the invariant: assignments, calls and references. -/
theorem name
    (closed : Closed context found invariant value exits)
    (inside :
      ∀ threshold,
        Step.Ensures invariant (OptionSatisfies value) exits
          (evaluateInside threshold))
    {token : Token}
    (opens : context.grammar.opening? token = some .name)
    {progress : Progress}
    (isFound : found token progress.stream.rest)
    (holds : invariant progress) :
    Step.Leaves invariant value exits
      ((Evaluator.name context evaluateInside token).run progress) := by
  cases sign : progress.stream.nextIs "=" with
  | true =>
      obtain ⟨signToken, later, shape, isSign⟩ :=
        TokenStream.exists_of_nextIs sign
      rw [run_name_of_sign _ _ _ sign]
      rw [shape] at isFound
      have behindSign := closed.skips progress holds (by simp [shape])
      refine (inside .belowAssignment _ behindSign).bind ?_
      intro optional satisfied
      refine (closed.operandOf isFound satisfied).bind ?_
      intro number given moved movedHolds
      exact
        ⟨given,
          closed.assigns moved token signToken later number movedHolds given
            isFound opens isSign⟩
  | false =>
      cases opened : progress.stream.nextIs "(" with
      | true =>
          obtain ⟨_, _, shape, _⟩ := TokenStream.exists_of_nextIs opened
          rw [run_name_of_opened _ _ _ opened sign]
          have behindOpened := closed.skips progress holds (by simp [shape])
          refine (argument inside _ behindOpened).bind ?_
          intro optional satisfied
          exact
            closed.closing
              (.ofAttempt (closed.call token _ optional isFound satisfied))
              fun moved movedHolds =>
                closed.unclosedCall moved token _ movedHolds isFound
      | false =>
          rw [run_name_of_neither _ _ _ sign opened,
            ← Progress.find?_eq_get?]
          exact
            Step.Ensures.ofAttempt
              (closed.reference progress token holds isFound) progress holds

/-- Operands keep the invariant, whatever their first token opens. -/
theorem openWith
    (closed : Closed context found invariant value exits)
    (inside :
      ∀ threshold,
        Step.Ensures invariant (OptionSatisfies value) exits
          (evaluateInside threshold))
    {token : Token}
    {opening : Opening}
    (known : context.grammar.opening? token = some opening)
    {progress : Progress}
    (isFound : found token progress.stream.rest)
    (holds : invariant progress) :
    Step.Leaves invariant value exits
      ((Evaluator.openWith context evaluateInside token opening).run
        progress) := by
  cases opening with
  | literal read =>
      exact
        Step.Ensures.ofAttemptAt (closed.literal token _ read isFound known)
          progress holds
  | operator operation precedence =>
      refine (inside precedence progress holds).bind ?_
      intro optional satisfied
      refine (closed.operandOf isFound satisfied).bind ?_
      intro operand given
      exact .ofAttemptAt
        (closed.operator token _ operation precedence operand isFound known
          given)
  | group =>
      refine (inside .belowAssignment progress holds).bind ?_
      intro optional satisfied
      refine (closed.operandOf isFound satisfied).bind ?_
      intro operand given
      exact closed.closing (.ofPure given) closed.unclosedGroup
  | name =>
      exact closed.name inside known isFound holds

/-- Operators after an operand keep the invariant. -/
theorem continueWith
    (closed : Closed context found invariant value exits)
    (inside :
      ∀ threshold,
        Step.Ensures invariant (OptionSatisfies value) exits
          (evaluateInside threshold))
    {token : Token}
    (later : List Token)
    (isFound : found token later)
    {continuation : Continuation}
    (known : context.grammar.continuation? token = some continuation)
    (left : Number)
    (leftGiven : value left) :
    Step.Ensures invariant value exits
      (Evaluator.continueWith evaluateInside left token continuation) := by
  cases continuation with
  | binary operation precedence associativity =>
      refine (inside _).bind fun optional satisfied => ?_
      refine (closed.operandOf isFound satisfied).bind fun right given => ?_
      exact .ofAttemptAt
        (closed.binary token later operation precedence associativity left
          right isFound known leftGiven given)
  | trailing operation precedence =>
      exact .ofAttemptAt
        (closed.trailing token later operation precedence left isFound known
          leftGiven)

/-- Any number of operators keeps the invariant. -/
theorem extend
    (closed : Closed context found invariant value exits)
    (inside :
      ∀ threshold,
        Step.Ensures invariant (OptionSatisfies value) exits
          (evaluateInside threshold))
    (threshold : Precedence)
    (rounds : Nat)
    (left : Number)
    (leftGiven : value left) :
    Step.Ensures invariant value exits
      (Evaluator.extend context.grammar evaluateInside threshold rounds
        left) := by
  induction rounds generalizing left with
  | zero =>
      exact .ofPure leftGiven
  | succ rounds inductionHypothesis =>
      intro progress holds
      cases next : progress.stream.peek? with
      | none =>
          rw [run_extend_of_exhausted _ _ _ _ _ next]
          exact ⟨leftGiven, holds⟩
      | some token =>
          rcases loose_or_tight context.grammar token threshold with
              stops | ⟨continuation, known, tight⟩
          · rw [run_extend_of_loose _ _ _ _ _ next stops]
            exact ⟨leftGiven, holds⟩
          · rw [run_extend_succ_of_tight _ _ _ _ _ next known tight]
            obtain ⟨rest, shape⟩ := TokenStream.peek?_eq_some_iff.1 next
            have isFound := closed.finds progress token rest holds shape
            have continued :=
              (closed.continueWith inside rest isFound known left
                leftGiven).bind
                fun extended given => inductionHypothesis extended given
            exact continued _ (closed.skips progress holds (by simp [shape]))

/-- All operators there are keep the invariant. -/
theorem extendAll
    (closed : Closed context found invariant value exits)
    (inside :
      ∀ threshold,
        Step.Ensures invariant (OptionSatisfies value) exits
          (evaluateInside threshold))
    (threshold : Precedence)
    (left : Number)
    (leftGiven : value left) :
    Step.Ensures invariant value exits
      (Evaluator.extendAll context.grammar evaluateInside threshold left) :=
  ensures_get_bind fun progress holds =>
    closed.extend inside threshold _ left leftGiven progress holds

/-- An evaluation keeps the invariant at every level of nesting. -/
theorem evaluate
    (closed : Closed context found invariant value exits)
    (levels : Nat)
    (threshold : Precedence) :
    Step.Ensures invariant (OptionSatisfies value) exits
      (Evaluator.evaluate context levels threshold) := by
  induction levels generalizing threshold with
  | zero =>
      exact .ofThrow closed.nesting
  | succ levels inductionHypothesis =>
      intro progress holds
      cases next : progress.stream.peek? with
      | none =>
          rw [run_evaluate_of_exhausted _ _ _ next]
          exact ⟨.ofNone, holds⟩
      | some token =>
          obtain ⟨later, shape⟩ := TokenStream.peek?_eq_some_iff.1 next
          have isFound := closed.finds progress token later holds shape
          cases known : context.grammar.opening? token with
          | none =>
              rw [run_evaluate_of_unexpected _ _ _ next known]
              exact ⟨closed.unexpectedStart _ _ isFound, holds⟩
          | some opening =>
              rw [run_evaluate_of_opening _ _ _ next known]
              have isFoundBehind : found token (progress.skip 1).stream.rest := by
                simpa [shape] using isFound
              have behindToken := closed.skips progress holds (by simp [shape])
              have opened :=
                closed.openWith inductionHypothesis known isFoundBehind
                  behindToken
              refine opened.bind fun left given => ?_
              exact
                (closed.extendAll inductionHypothesis threshold left
                  given).map fun _ => OptionSatisfies.ofSome

/-- A complete expression keeps the invariant, and may leave a token over. -/
theorem complete
    (closed : Closed context found invariant value exits)
    (unexpectedToken :
      ∀ token later,
        found token later →
        exits (.placed (.unexpectedToken token.lexeme) token.position))
    (levels : Nat) :
    Step.Ensures invariant (OptionSatisfies value) exits
      (Expression.complete context levels) := by
  refine (closed.evaluate levels .belowAssignment).bind fun optional given => ?_
  intro progress holds
  rw [EStateM.run_bind, Step.run_peek?]
  cases next : progress.stream.peek? with
  | none => exact ⟨given, holds⟩
  | some token =>
      obtain ⟨later, shape⟩ := TokenStream.peek?_eq_some_iff.1 next
      have isFound := closed.finds progress token later holds shape
      exact ⟨unexpectedToken token later isFound, holds⟩

end Closed

end Evaluator

end Reckoner
