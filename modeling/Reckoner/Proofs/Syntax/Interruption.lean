import Reckoner.Proofs.Syntax.Completion

namespace Reckoner

/-!
# Where an evaluation is interrupted

Wherever an evaluation exits, the tokens that it has passed begin an expression. The
proof goes along with `ReadsTrees`: the operands that are finished have trees, and
only the one in which the exit lies is completed.
-/

namespace Evaluator

/-- Every exit of an evaluator interrupts an expression that can be completed. -/
def Interrupted
    (grammar : Grammar)
    (evaluateInside : Evaluator) :
    Prop :=
  ∀ {threshold progress exit after},
    (evaluateInside threshold).run progress = .error exit after →
    exit.Interrupts grammar threshold progress.stream.rest after.stream

namespace Interrupted

variable {context : EvaluationContext}
variable {levels : Nat}
variable {evaluateInside : Evaluator}
variable {read : String → Attempt Number}
variable {progress after : Progress}
variable {exit : Exit}

/--
An operand is interrupted inside, or it is missing, or it is finished and what is done
with it exits at once.
-/
theorem operand
    {grammar : Grammar}
    (fills : grammar.opening? .placeholder = some (.literal read))
    (interrupted : Interrupted grammar evaluateInside)
    (reads : ReadsTrees grammar levels evaluateInside)
    {β : Type}
    {threshold : Precedence}
    {token : Token}
    {next : Number → Step β}
    (exitsAtOnce :
      ∀ {number moved last raised},
        (next number).run moved = .error raised last →
        last = moved ∧ raised.Located last.stream)
    (ran :
      (do
        let optional ← evaluateInside threshold
        let operand ← Step.operandOf token optional
        next operand).run progress = .error exit after) :
    exit.Interrupts grammar threshold progress.stream.rest after.stream := by
  rcases exit_of_run_bind ran with
    inside | ⟨optional, moved, insideRan, behind⟩
  · exact interrupted inside
  · cases optional with
    | none =>
        obtain ⟨exhausted, rfl⟩ := reads.nothing insideRan
        cases behind
        exact {
          completed := ⟨_, .ofNothing fills threshold _⟩
          located := exhausted
        }
    | some number =>
        obtain ⟨⟨tree, spans⟩, _⟩ := reads.value insideRan
        rw [Step.operandOf_some, pure_bind] at behind
        obtain ⟨rfl, located⟩ := exitsAtOnce behind
        exact {
          completed := ⟨tree, .ofSpans spans⟩
          located := located
        }

/-- An assignment exits inside its right side. -/
private theorem assignment
    (fills : context.grammar.opening? .placeholder = some (.literal read))
    (interrupted : Interrupted context.grammar evaluateInside)
    (reads : ReadsTrees context.grammar levels evaluateInside)
    (threshold : Precedence)
    {token : Token}
    (opens : context.grammar.opening? token = some .name)
    (sign : progress.stream.nextIs "=" = true)
    (ran :
      (Evaluator.name context evaluateInside token).run progress =
        .error exit after) :
    exit.Interrupts context.grammar threshold
      (token :: progress.stream.rest) after.stream := by
  rw [run_name_of_sign _ _ _ sign] at ran
  obtain ⟨signToken, behind, shape, isSign⟩ :=
    TokenStream.exists_of_nextIs sign
  have isBehind : (progress.skip 1).stream.rest = behind := by simp [shape]
  have value :=
    interrupted.operand fills reads (fun impossible => by cases impossible)
      ran
  rw [isBehind] at value
  rw [shape]
  exact value.around fun completes => completes.assignment opens isSign

/-- A call exits inside its argument, where it should close, or when it is made. -/
private theorem call
    (interrupted : Interrupted context.grammar evaluateInside)
    (reads : ReadsTrees context.grammar levels evaluateInside)
    (threshold : Precedence)
    {token : Token}
    (opens : context.grammar.opening? token = some .name)
    (sign : progress.stream.nextIs "=" = false)
    (opened : progress.stream.nextIs "(" = true)
    (ran :
      (Evaluator.name context evaluateInside token).run progress =
        .error exit after) :
    exit.Interrupts context.grammar threshold
      (token :: progress.stream.rest) after.stream := by
  rw [run_name_of_opened _ _ _ opened sign] at ran
  obtain ⟨openedToken, behind, shape, isOpened⟩ :=
    TokenStream.exists_of_nextIs opened
  have isBehind : (progress.skip 1).stream.rest = behind := by simp [shape]
  rw [shape]
  rcases exit_of_run_bind ran with
    argumentRan | ⟨optional, moved, argumentRan, ran⟩
  · cases closes : (progress.skip 1).stream.nextIs ")" with
    | true =>
        rw [run_argument_of_closed _ closes] at argumentRan
        cases argumentRan
    | false =>
        rw [run_argument_of_not_closed _ closes] at argumentRan
        have argument := interrupted argumentRan
        rw [isBehind] at argument
        exact argument.around fun completes => completes.call opens isOpened
  · have argument := reads.argument argumentRan
    rw [isBehind] at argument
    rcases Step.exit_of_run_closing rfl ran with
      ⟨rfl, located⟩ | ⟨closed, last, closedShape, isClosed, ran⟩
    · refine ⟨?_, located⟩
      rcases argument with rfl | ⟨tree, spans⟩
      · rw [isBehind]
        exact ⟨_, .emptyCall opens isOpened⟩
      · exact ⟨_, (Tree.Completes.ofSpans spans).call opens isOpened⟩
    · obtain ⟨rfl, located⟩ :=
        Step.located_of_run_ofAttempt
          (context.environment.functions.semantic_value _ _ _) ran
      refine ⟨?_, located⟩
      have isLast : (moved.skip 1).stream.rest = last := by
        simp [closedShape]
      rw [isLast]
      rcases argument with rfl | ⟨tree, spans⟩
      · rw [isBehind] at closedShape
        refine ⟨.emptyCall token openedToken closed, .ofRead ?_ ?_ ?_ ?_⟩
        · exact ⟨opens, isOpened, isClosed⟩
        · trivial
        · trivial
        · simp [closedShape, Tree.tokens]
      · refine ⟨.call token openedToken tree closed, .ofRead ?_ ?_ ?_ ?_⟩
        · exact ⟨opens, isOpened, spans.isOver, isClosed⟩
        · exact spans.shaped
        · trivial
        · simp [spans.cut, closedShape, Tree.tokens]

/-- A name exits as an assignment, as a call, or because it is not bound. -/
theorem name
    (fills : context.grammar.opening? .placeholder = some (.literal read))
    (interrupted : Interrupted context.grammar evaluateInside)
    (reads : ReadsTrees context.grammar levels evaluateInside)
    (threshold : Precedence)
    {token : Token}
    (opens : context.grammar.opening? token = some .name)
    (ran :
      (Evaluator.name context evaluateInside token).run progress =
        .error exit after) :
    exit.Interrupts context.grammar threshold
      (token :: progress.stream.rest) after.stream := by
  cases sign : progress.stream.nextIs "=" with
  | true =>
      exact interrupted.assignment fills reads threshold opens sign ran
  | false =>
      cases opened : progress.stream.nextIs "(" with
      | true => exact interrupted.call reads threshold opens sign opened ran
      | false =>
          rw [run_name_of_neither _ _ _ sign opened] at ran
          obtain ⟨rfl, located⟩ :=
            Step.located_of_run_ofAttempt (semantic_boundValue _ _ _) ran
          refine ⟨⟨.reference token, ?_⟩, located⟩
          exact .ofRead opens trivial trivial rfl

/-- Whatever a token opens, an exit inside it can be completed. -/
theorem openWith
    (fills : context.grammar.opening? .placeholder = some (.literal read))
    (semantic : context.grammar.Semantic)
    (interrupted : Interrupted context.grammar evaluateInside)
    (reads : ReadsTrees context.grammar levels evaluateInside)
    (threshold : Precedence)
    {token : Token}
    {opening : Opening}
    (known : context.grammar.opening? token = some opening)
    (ran :
      (Evaluator.openWith context evaluateInside token opening).run
        progress = .error exit after) :
    exit.Interrupts context.grammar threshold
      (token :: progress.stream.rest) after.stream := by
  cases opening with
  | literal read =>
      obtain ⟨rfl, located⟩ :=
        Step.located_of_run_ofAttemptAt (semantic.literal known) ran
      refine ⟨⟨.literal token read, ?_⟩, located⟩
      exact .ofRead known trivial trivial rfl
  | operator operation precedence =>
      have operand :=
        interrupted.operand fills reads
          (fun applied =>
            Step.located_of_run_ofAttemptAt (semantic.operator _ known)
              applied)
          ran
      exact operand.around fun completes => completes.before known
  | group =>
      have inside :=
        interrupted.operand fills reads
          (fun closing => by
            rcases Step.exit_of_run_closing rfl closing with
              missed | ⟨_, _, _, _, impossible⟩
            · exact missed
            · cases impossible)
          ran
      exact inside.around fun completes => completes.group known
  | name =>
      exact interrupted.name fills reads threshold known ran

/-- An operator behind a tree exits inside its right operand, or when it is applied. -/
theorem continueWith
    (fills : context.grammar.opening? .placeholder = some (.literal read))
    (semantic : context.grammar.Semantic)
    (interrupted : Interrupted context.grammar evaluateInside)
    (reads : ReadsTrees context.grammar levels evaluateInside)
    {threshold : Precedence}
    {token : Token}
    {continuation : Continuation}
    (known : context.grammar.continuation? token = some continuation)
    (tight : threshold < continuation.precedence)
    {start : List Token}
    {tree : Tree}
    (spans :
      Tree.SpansFrom context.grammar (levels + 1) threshold start
        (token :: progress.stream.rest) tree)
    {left : Number}
    (ran :
      (Evaluator.continueWith evaluateInside left token continuation).run
        progress = .error exit after) :
    exit.Interrupts context.grammar threshold start after.stream := by
  cases continuation with
  | binary operation precedence associativity =>
      have right :=
        interrupted.operand fills reads
          (fun applied =>
            Step.located_of_run_ofAttemptAt (semantic.binary _ _ known)
              applied)
          ran
      exact right.around fun completes => .between spans known tight completes
  | trailing operation precedence =>
      obtain ⟨rfl, located⟩ :=
        Step.located_of_run_ofAttemptAt (semantic.trailing _ known) ran
      have yields := spans.yields token _ _ rfl known
      refine ⟨⟨.after tree token operation precedence, ?_⟩, located⟩
      exact
        .ofRead ⟨spans.isOver, known⟩ ⟨spans.shaped, yields⟩
          ⟨tight, spans.above⟩ (by simp [spans.cut, Tree.tokens])

/-- Operators behind a tree are applied until one of them exits. -/
theorem extend
    (fills : context.grammar.opening? .placeholder = some (.literal read))
    (semantic : context.grammar.Semantic)
    (interrupted : Interrupted context.grammar evaluateInside)
    (reads : ReadsTrees context.grammar levels evaluateInside)
    {threshold : Precedence}
    {rounds : Nat}
    {start : List Token}
    {tree : Tree}
    (spans :
      Tree.SpansFrom context.grammar (levels + 1) threshold start
        progress.stream.rest tree)
    {left : Number}
    (ran :
      (Evaluator.extend context.grammar evaluateInside threshold rounds
        left).run progress = .error exit after) :
    exit.Interrupts context.grammar threshold start after.stream := by
  induction rounds generalizing tree progress left with
  | zero => cases ran
  | succ rounds inductionHypothesis =>
      cases next : progress.stream.peek? with
      | none =>
          rw [run_extend_of_exhausted _ _ _ _ _ next] at ran
          cases ran
      | some token =>
          obtain ⟨rest, shape⟩ := TokenStream.peek?_eq_some_iff.1 next
          rcases loose_or_tight context.grammar token threshold with
            loose | ⟨continuation, known, tight⟩
          · rw [run_extend_of_loose _ _ _ _ _ next loose] at ran
            cases ran
          · rw [run_extend_succ_of_tight _ _ _ _ _ next known tight] at ran
            have behind : (progress.skip 1).stream.rest = rest := by
              simp [shape]
            rw [shape, ← behind] at spans
            rcases exit_of_run_bind ran with
              continued | ⟨extended, moved, continued, ran⟩
            · exact
                interrupted.continueWith fills semantic reads known tight
                  spans continued
            · obtain ⟨⟨grown, grownSpans⟩, _⟩ :=
                reads.continueWith known tight spans continued
              exact inductionHypothesis grownSpans ran

end Interrupted

/-- Evaluation is interrupted like this at every level of nesting. -/
theorem interrupted_evaluate
    {context : EvaluationContext}
    {read : String → Attempt Number}
    (fills : context.grammar.opening? .placeholder = some (.literal read))
    (semantic : context.grammar.Semantic)
    (levels : Nat) :
    Interrupted context.grammar (evaluate context levels) := by
  induction levels with
  | zero =>
      intro threshold progress exit after ran
      cases ran
      exact ⟨⟨_, .ofNothing fills threshold _⟩, trivial⟩
  | succ levels inductionHypothesis =>
      intro threshold progress exit after ran
      have reads := readsTrees_evaluate context levels
      cases next : progress.stream.peek? with
      | none =>
          rw [run_evaluate_of_exhausted _ _ _ next] at ran
          cases ran
      | some token =>
          obtain ⟨rest, shape⟩ := TokenStream.peek?_eq_some_iff.1 next
          have start :
              token :: (progress.skip 1).stream.rest =
                progress.stream.rest := by
            simp [shape]
          cases known : context.grammar.opening? token with
          | none =>
              rw [run_evaluate_of_unexpected _ _ _ next known] at ran
              cases ran
              have position : progress.stream.position = token.position :=
                TokenStream.position_cons shape
              refine ⟨⟨_, .ofNothing fills threshold _⟩, ?_, ?_⟩
              · simp [shape]
              · rw [position]
          | some opening =>
              rw [run_evaluate_of_opening _ _ _ next known] at ran
              rw [← start]
              rcases exit_of_run_bind ran with
                opened | ⟨operand, moved, opened, ran⟩
              · exact
                  inductionHypothesis.openWith fills semantic reads threshold
                    known opened
              · obtain ⟨tree, spans⟩ := reads.openWith threshold known opened
                rw [Step.run_map] at ran
                cases extended :
                    (extendAll context.grammar (evaluate context levels)
                      threshold operand).run moved with
                | ok value last =>
                    rw [extended] at ran
                    cases ran
                | error raised last =>
                    rw [extended] at ran
                    cases ran
                    exact
                      inductionHypothesis.extend fills semantic reads spans
                        extended

end Evaluator

/-- A complete expression is interrupted by an exit, or by a token that is left over. -/
theorem Expression.interrupts_of_run_complete
    {context : EvaluationContext}
    {read : String → Attempt Number}
    (fills : context.grammar.opening? .placeholder = some (.literal read))
    (semantic : context.grammar.Semantic)
    {levels : Nat}
    {progress after : Progress}
    {exit : Exit}
    (ran : (complete context levels).run progress = .error exit after) :
    exit.Interrupts context.grammar .belowAssignment progress.stream.rest
      after.stream := by
  rcases exit_of_run_bind ran with
    evaluated | ⟨optional, moved, evaluated, ran⟩
  · exact Evaluator.interrupted_evaluate fills semantic levels evaluated
  · have reads := Evaluator.readsTrees_evaluate context levels
    rw [EStateM.run_bind, Step.run_peek?] at ran
    cases next : moved.stream.peek? with
    | none =>
        simp only [next] at ran
        cases ran
    | some token =>
        simp only [next] at ran
        cases ran
        obtain ⟨later, shape⟩ := TokenStream.peek?_eq_some_iff.1 next
        have position : after.stream.position = token.position :=
          TokenStream.position_cons shape
        refine ⟨?_, by simp [shape], by rw [position]⟩
        cases optional with
        | none =>
            obtain ⟨exhausted, unmoved⟩ := reads.nothing evaluated
            rw [unmoved, exhausted] at shape
            cases shape
        | some number =>
            obtain ⟨⟨tree, spans⟩, _⟩ := reads.value evaluated
            exact ⟨tree, .ofSpans spans⟩

end Reckoner
