import Reckoner.Proofs.Syntax.Reading

namespace Reckoner

/-!
# Trees behind evaluations

An evaluation that gives a value has read the tokens of a shaped tree, and has read
all of them that it could: the next token binds no tighter than the threshold. The
tree is built along with the value. In the loop of `extend` the tree read so far
takes the place of the value, and the invariant is that it yields to whatever
operator comes next.

Nothing is said about the value here: it is the value of the tree because reading
the tree back gives it.
-/

namespace Step

/-- A composed step with a value has one in both of its parts. -/
theorem exists_of_run_bind
    {α β : Type}
    {step : Step α}
    {next : α → Step β}
    {progress after : Progress}
    {value : β}
    (ran : (step >>= next).run progress = .ok value after) :
    ∃ middle moved,
      step.run progress = .ok middle moved ∧
        (next middle).run moved = .ok value after := by
  rw [EStateM.run_bind] at ran
  cases first : step.run progress with
  | ok middle moved =>
      rw [first] at ran
      exact ⟨middle, moved, rfl, ran⟩
  | error exit moved =>
      rw [first] at ran
      cases ran

/-- An operand is there if its token got one. -/
theorem of_run_operandOf
    {token : Token}
    {optional : Option Number}
    {progress after : Progress}
    {value : Number}
    (ran : (operandOf token optional).run progress = .ok value after) :
    optional = some value ∧ after = progress := by
  cases optional with
  | none => cases ran
  | some number =>
      cases ran
      exact ⟨rfl, rfl⟩

/-- An attempt with a value does not move. -/
theorem of_run_ofAttempt
    {attempt : Attempt Number}
    {progress after : Progress}
    {value : Number}
    (ran : (ofAttempt attempt).run progress = .ok value after) :
    after = progress := by
  cases attempt with
  | ok number =>
      cases ran
      rfl
  | error exit => cases ran

/-- An operation with a value does not move. -/
theorem of_run_ofAttemptAt
    {token : Token}
    {attempt : Attempt Number}
    {progress after : Progress}
    {value : Number}
    (ran : (ofAttemptAt token attempt).run progress = .ok value after) :
    after = progress := by
  cases attempt with
  | ok number =>
      cases ran
      rfl
  | error exit => cases ran

/-- A symbol that was asked for is there if the evaluation did not stop. -/
theorem exists_of_run_accept
    {β : Type}
    {symbol : String}
    {passed missed : Step β}
    {progress after : Progress}
    {value : β}
    (misses : ∀ moved result, missed.run progress ≠ .ok result moved)
    (ran :
      (do
        if ← accept symbol then
          passed
        else
          missed).run progress = .ok value after) :
    ∃ token rest,
      progress.stream.rest = token :: rest ∧
        token.isSymbol symbol = true ∧
        passed.run (progress.skip 1) = .ok value after := by
  cases next : progress.stream.nextIs symbol with
  | true =>
      obtain ⟨token, rest, shape, isSymbol⟩ :=
        TokenStream.exists_of_nextIs next
      rw [EStateM.run_bind, run_accept_of_next next] at ran
      exact ⟨token, rest, shape, isSymbol, ran⟩
  | false =>
      rw [EStateM.run_bind, run_accept_of_not_next next] at ran
      exact (misses after value ran).elim

end Step

/-- A tree that is read between two places of a token list. -/
structure Tree.SpansFrom
    (grammar : Grammar)
    (levels : Nat)
    (threshold : Precedence)
    (start rest : List Token)
    (tree : Tree) : Prop where
  isOver : tree.Over grammar
  shaped : tree.Shaped
  above : tree.Above threshold
  within : tree.levels ≤ levels
  cut : start = tree.tokens ++ rest
  yields :
    ∀ token later continuation,
      rest = token :: later →
      grammar.continuation? token = some continuation →
      tree.Yields continuation.precedence

namespace Evaluator

/-- Every value of an evaluator has a tree, and there is none only without tokens. -/
structure ReadsTrees
    (grammar : Grammar)
    (levels : Nat)
    (evaluateInside : Evaluator) : Prop where
  value :
    ∀ {threshold progress number after},
      (evaluateInside threshold).run progress = .ok (some number) after →
      (∃ tree,
        Tree.SpansFrom grammar levels threshold progress.stream.rest
          after.stream.rest tree) ∧
        grammar.StopsAt threshold after.stream.rest
  nothing :
    ∀ {threshold progress after},
      (evaluateInside threshold).run progress = .ok none after →
      progress.stream.rest = [] ∧ after = progress

namespace ReadsTrees

variable {context : EvaluationContext}
variable {levels : Nat}
variable {evaluateInside : Evaluator}

/-- An operand that was found has a tree. -/
theorem operand
    {grammar : Grammar}
    (reads : ReadsTrees grammar levels evaluateInside)
    {β : Type}
    {threshold : Precedence}
    {token : Token}
    {next : Number → Step β}
    {progress after : Progress}
    {value : β}
    (ran :
      (do
        let optional ← evaluateInside threshold
        let operand ← Step.operandOf token optional
        next operand).run progress = .ok value after) :
    ∃ tree moved number,
      Tree.SpansFrom grammar levels threshold progress.stream.rest
          moved.stream.rest tree ∧
        grammar.StopsAt threshold moved.stream.rest ∧
        (next number).run moved = .ok value after := by
  obtain ⟨optional, moved, insideRan, ran⟩ := Step.exists_of_run_bind ran
  obtain ⟨number, same, operandRan, ran⟩ := Step.exists_of_run_bind ran
  obtain ⟨rfl, rfl⟩ := Step.of_run_operandOf operandRan
  obtain ⟨⟨tree, spans⟩, stops⟩ := reads.value insideRan
  exact ⟨tree, _, number, spans, stops, ran⟩

/-- A name before an equals sign is read as an assignment. -/
private theorem assignment
    (reads : ReadsTrees context.grammar levels evaluateInside)
    (threshold : Precedence)
    {token : Token}
    (opens : context.grammar.opening? token = some .name)
    {progress after : Progress}
    (sign : progress.stream.nextIs "=" = true)
    {value : Number}
    (ran :
      (Evaluator.name context evaluateInside token).run progress =
        .ok value after) :
    ∃ tree,
      Tree.SpansFrom context.grammar (levels + 1) threshold
        (token :: progress.stream.rest) after.stream.rest tree := by
  rw [run_name_of_sign _ _ _ sign] at ran
  obtain ⟨signToken, behind, signShape, isSign⟩ :=
    TokenStream.exists_of_nextIs sign
  obtain ⟨tree, moved, number, spans, stops, ran⟩ := reads.operand ran
  cases ran
  have cut : behind = tree.tokens ++ moved.stream.rest := by
    simpa [signShape] using spans.cut
  exact ⟨.assignment token signToken tree, {
    isOver := ⟨opens, isSign, spans.isOver⟩
    shaped := spans.shaped
    above := trivial
    within := Nat.succ_le_succ spans.within
    cut := by simp [signShape, cut, Tree.tokens]
    yields := fun next later continuation same known =>
      ⟨stops next later continuation same known,
        spans.yields next later continuation same known⟩
  }⟩

/-- The argument of a call is left out, or it has a tree. -/
theorem argument
    {grammar : Grammar}
    (reads : ReadsTrees grammar levels evaluateInside)
    {progress after : Progress}
    {optional : Option Number}
    (ran :
      (Evaluator.argument evaluateInside).run progress =
        .ok optional after) :
    after = progress ∨
      ∃ tree,
        Tree.SpansFrom grammar levels .belowAssignment progress.stream.rest
          after.stream.rest tree := by
  cases closes : progress.stream.nextIs ")" with
  | true =>
      rw [run_argument_of_closed _ closes] at ran
      cases ran
      exact Or.inl rfl
  | false =>
      rw [run_argument_of_not_closed _ closes] at ran
      cases optional with
      | none => exact Or.inl (reads.nothing ran).2
      | some number => exact Or.inr (reads.value ran).1

/-- A name before a parenthesis is read as a call. -/
private theorem call
    (reads : ReadsTrees context.grammar levels evaluateInside)
    (threshold : Precedence)
    {token : Token}
    (opens : context.grammar.opening? token = some .name)
    {progress after : Progress}
    (sign : progress.stream.nextIs "=" = false)
    (opened : progress.stream.nextIs "(" = true)
    {value : Number}
    (ran :
      (Evaluator.name context evaluateInside token).run progress =
        .ok value after) :
    ∃ tree,
      Tree.SpansFrom context.grammar (levels + 1) threshold
        (token :: progress.stream.rest) after.stream.rest tree := by
  rw [run_name_of_opened _ _ _ opened sign] at ran
  obtain ⟨openedToken, behind, openedShape, isOpened⟩ :=
    TokenStream.exists_of_nextIs opened
  obtain ⟨optional, moved, argumentRan, ran⟩ := Step.exists_of_run_bind ran
  obtain ⟨closedToken, last, closedShape, isClosed, ran⟩ :=
    Step.exists_of_run_accept
      (fun _ _ impossible => by cases impossible) ran
  have unmoved := Step.of_run_ofAttempt ran
  subst unmoved
  rcases reads.argument argumentRan with rfl | ⟨tree, spans⟩
  · have cut : behind = closedToken :: last := by
      simpa [openedShape] using closedShape
    exact ⟨.emptyCall token openedToken closedToken, {
      isOver := ⟨opens, isOpened, isClosed⟩
      shaped := trivial
      above := trivial
      within := Nat.succ_le_succ (Nat.zero_le _)
      cut := by simp [openedShape, cut, Tree.tokens]
      yields := fun _ _ _ _ _ => trivial
    }⟩
  · have cut : behind = tree.tokens ++ closedToken :: last := by
      simpa [openedShape, closedShape] using spans.cut
    exact ⟨.call token openedToken tree closedToken, {
      isOver := ⟨opens, isOpened, spans.isOver, isClosed⟩
      shaped := spans.shaped
      above := trivial
      within := Nat.succ_le_succ spans.within
      cut := by simp [openedShape, closedShape, cut, Tree.tokens]
      yields := fun _ _ _ _ _ => trivial
    }⟩

/-- A name is read with the tokens that decide what it is. -/
theorem name
    (reads : ReadsTrees context.grammar levels evaluateInside)
    (threshold : Precedence)
    {token : Token}
    (opens : context.grammar.opening? token = some .name)
    {progress after : Progress}
    {value : Number}
    (ran :
      (Evaluator.name context evaluateInside token).run progress =
        .ok value after) :
    ∃ tree,
      Tree.SpansFrom context.grammar (levels + 1) threshold
        (token :: progress.stream.rest) after.stream.rest tree := by
  cases sign : progress.stream.nextIs "=" with
  | true => exact reads.assignment threshold opens sign ran
  | false =>
      cases opened : progress.stream.nextIs "(" with
      | true => exact reads.call threshold opens sign opened ran
      | false =>
          rw [run_name_of_neither _ _ _ sign opened] at ran
          have unmoved := Step.of_run_ofAttempt ran
          subst unmoved
          exact ⟨.reference token, {
            isOver := opens
            shaped := trivial
            above := trivial
            within := Nat.succ_le_succ (Nat.zero_le _)
            cut := rfl
            yields := fun _ _ _ _ _ => trivial
          }⟩

/-- Whatever a token opens, an operand with a value has a tree. -/
theorem openWith
    (reads : ReadsTrees context.grammar levels evaluateInside)
    (threshold : Precedence)
    {token : Token}
    {opening : Opening}
    (known : context.grammar.opening? token = some opening)
    {progress after : Progress}
    {value : Number}
    (ran :
      (Evaluator.openWith context evaluateInside token opening).run
        progress = .ok value after) :
    ∃ tree,
      Tree.SpansFrom context.grammar (levels + 1) threshold
        (token :: progress.stream.rest) after.stream.rest tree := by
  cases opening with
  | literal read =>
      have unmoved := Step.of_run_ofAttemptAt ran
      subst unmoved
      exact ⟨.literal token read, {
        isOver := known
        shaped := trivial
        above := trivial
        within := Nat.succ_le_succ (Nat.zero_le _)
        cut := rfl
        yields := fun _ _ _ _ _ => trivial
      }⟩
  | operator operation precedence =>
      obtain ⟨tree, moved, number, spans, stops, ran⟩ := reads.operand ran
      have unmoved := Step.of_run_ofAttemptAt ran
      subst unmoved
      exact ⟨.before token operation precedence tree, {
        isOver := ⟨known, spans.isOver⟩
        shaped := ⟨spans.shaped, spans.above⟩
        above := trivial
        within := Nat.succ_le_succ spans.within
        cut := by simp [spans.cut, Tree.tokens]
        yields := fun next later continuation same follows =>
          ⟨stops next later continuation same follows,
            spans.yields next later continuation same follows⟩
      }⟩
  | group =>
      obtain ⟨tree, moved, number, spans, _, ran⟩ := reads.operand ran
      obtain ⟨closedToken, last, closedShape, isClosed, ran⟩ :=
        Step.exists_of_run_accept
          (fun _ _ impossible => by cases impossible) ran
      cases ran
      exact ⟨.group token tree closedToken, {
        isOver := ⟨known, spans.isOver, isClosed⟩
        shaped := spans.shaped
        above := trivial
        within := Nat.succ_le_succ spans.within
        cut := by simp [spans.cut, closedShape, Tree.tokens]
        yields := fun _ _ _ _ _ => trivial
      }⟩
  | name =>
      exact reads.name threshold known ran

/-- An operator that is tight enough grows the tree in front of it. -/
theorem continueWith
    (reads : ReadsTrees context.grammar levels evaluateInside)
    {threshold : Precedence}
    {token : Token}
    {continuation : Continuation}
    (known : context.grammar.continuation? token = some continuation)
    (tight : threshold < continuation.precedence)
    {start : List Token}
    {tree : Tree}
    {progress after : Progress}
    (spans :
      Tree.SpansFrom context.grammar (levels + 1) threshold start
        (token :: progress.stream.rest) tree)
    {left value : Number}
    (ran :
      (Evaluator.continueWith evaluateInside left token continuation).run
        progress = .ok value after) :
    (∃ grown,
      Tree.SpansFrom context.grammar (levels + 1) threshold start
        after.stream.rest grown) ∧
      after.stream.rest.length ≤ progress.stream.rest.length := by
  have yields := spans.yields token _ continuation rfl known
  cases continuation with
  | trailing operation precedence =>
      have unmoved := Step.of_run_ofAttemptAt ran
      subst unmoved
      refine ⟨⟨.after tree token operation precedence, {
        isOver := ⟨spans.isOver, known⟩
        shaped := ⟨spans.shaped, yields⟩
        above := ⟨tight, spans.above⟩
        within := spans.within
        cut := by simp [spans.cut, Tree.tokens]
        yields := fun _ _ _ _ _ => trivial
      }⟩, Nat.le_refl _⟩
  | binary operation precedence associativity =>
      obtain ⟨right, moved, number, rightSpans, stops, ran⟩ :=
        reads.operand ran
      have unmoved := Step.of_run_ofAttemptAt ran
      subst unmoved
      refine ⟨⟨.between tree token operation precedence associativity right, {
        isOver := ⟨spans.isOver, known, rightSpans.isOver⟩
        shaped := ⟨spans.shaped, rightSpans.shaped, yields, rightSpans.above⟩
        above := ⟨tight, spans.above⟩
        within :=
          Nat.max_le.2 ⟨spans.within, Nat.succ_le_succ rightSpans.within⟩
        cut := by simp [spans.cut, rightSpans.cut, Tree.tokens]
        yields := fun next later continuation same follows =>
          ⟨stops next later continuation same follows,
            rightSpans.yields next later continuation same follows⟩
      }⟩, ?_⟩
      rw [rightSpans.cut, List.length_append]
      exact Nat.le_add_left _ _

/-- Enough rounds grow a tree by all operators that are tight enough. -/
theorem extend
    (reads : ReadsTrees context.grammar levels evaluateInside)
    {threshold : Precedence}
    {rounds : Nat}
    {start : List Token}
    {tree : Tree}
    {progress after : Progress}
    (enough : progress.stream.rest.length ≤ rounds)
    (spans :
      Tree.SpansFrom context.grammar (levels + 1) threshold start
        progress.stream.rest tree)
    {left value : Number}
    (ran :
      (Evaluator.extend context.grammar evaluateInside threshold rounds
        left).run progress = .ok value after) :
    (∃ grown,
      Tree.SpansFrom context.grammar (levels + 1) threshold start
        after.stream.rest grown) ∧
      context.grammar.StopsAt threshold after.stream.rest := by
  induction rounds generalizing tree progress left with
  | zero =>
      have exhausted : progress.stream.rest = [] :=
        List.eq_nil_of_length_eq_zero (Nat.le_zero.1 enough)
      cases ran
      refine ⟨⟨tree, spans⟩, fun token later continuation same => ?_⟩
      rw [exhausted] at same
      cases same
  | succ rounds inductionHypothesis =>
      cases next : progress.stream.peek? with
      | none =>
          rw [run_extend_of_exhausted _ _ _ _ _ next] at ran
          cases ran
          refine ⟨⟨tree, spans⟩, fun token later continuation same => ?_⟩
          rw [TokenStream.peek?_eq_none_iff.1 next] at same
          cases same
      | some token =>
          obtain ⟨rest, shape⟩ := TokenStream.peek?_eq_some_iff.1 next
          rcases loose_or_tight context.grammar token threshold with
            loose | ⟨continuation, known, tight⟩
          · rw [run_extend_of_loose _ _ _ _ _ next loose] at ran
            cases ran
            refine ⟨⟨tree, spans⟩, fun other later continuation same => ?_⟩
            rw [shape] at same
            cases same
            exact loose continuation
          · rw [run_extend_succ_of_tight _ _ _ _ _ next known tight] at ran
            obtain ⟨extended, moved, continued, ran⟩ :=
              Step.exists_of_run_bind ran
            have behind : (progress.skip 1).stream.rest = rest := by
              simp [shape]
            rw [shape, ← behind] at spans
            obtain ⟨⟨grown, grownSpans⟩, fewer⟩ :=
              reads.continueWith known tight spans continued
            have left : rest.length ≤ rounds := by
              rw [shape] at enough
              exact Nat.le_of_succ_le_succ enough
            rw [behind] at fewer
            exact
              inductionHypothesis (Nat.le_trans fewer left) grownSpans ran

end ReadsTrees

/-- A value of an evaluation comes from an operand and what extends it. -/
theorem exists_of_run_evaluate_succ
    {context : EvaluationContext}
    {levels : Nat}
    {threshold : Precedence}
    {progress after : Progress}
    {value : Number}
    (ran :
      (evaluate context (levels + 1) threshold).run progress =
        .ok (some value) after) :
    ∃ token rest opening operand moved,
      progress.stream.rest = token :: rest ∧
        context.grammar.opening? token = some opening ∧
        (openWith context (evaluate context levels) token opening).run
            (progress.skip 1) = .ok operand moved ∧
        (extendAll context.grammar (evaluate context levels) threshold
          operand).run moved = .ok value after := by
  cases next : progress.stream.peek? with
  | none =>
      rw [run_evaluate_of_exhausted _ _ _ next] at ran
      cases ran
  | some token =>
      cases known : context.grammar.opening? token with
      | none =>
          rw [run_evaluate_of_unexpected _ _ _ next known] at ran
          cases ran
      | some opening =>
          obtain ⟨rest, shape⟩ := TokenStream.peek?_eq_some_iff.1 next
          rw [run_evaluate_of_opening _ _ _ next known] at ran
          obtain ⟨operand, moved, opened, ran⟩ :=
            Step.exists_of_run_bind ran
          rw [Step.run_map] at ran
          cases extended :
              (extendAll context.grammar (evaluate context levels) threshold
                operand).run moved with
          | error exit last =>
              rw [extended] at ran
              cases ran
          | ok number last =>
              rw [extended] at ran
              cases ran
              exact ⟨token, rest, opening, operand, moved, shape, known,
                opened, extended⟩

/-- There is no value only where there are no tokens. -/
theorem exhausted_of_run_evaluate
    {context : EvaluationContext}
    {levels : Nat}
    {threshold : Precedence}
    {progress after : Progress}
    (ran :
      (evaluate context levels threshold).run progress =
        .ok none after) :
    progress.stream.rest = [] ∧ after = progress := by
  cases levels with
  | zero => cases ran
  | succ levels =>
      cases next : progress.stream.peek? with
      | none =>
          rw [run_evaluate_of_exhausted _ _ _ next] at ran
          cases ran
          exact ⟨TokenStream.peek?_eq_none_iff.1 next, rfl⟩
      | some token =>
          cases known : context.grammar.opening? token with
          | none =>
              rw [run_evaluate_of_unexpected _ _ _ next known] at ran
              cases ran
          | some opening =>
              rw [run_evaluate_of_opening _ _ _ next known] at ran
              obtain ⟨operand, moved, _, ran⟩ := Step.exists_of_run_bind ran
              rw [Step.run_map] at ran
              split at ran
              · cases ran
              · cases ran

/-- Evaluation reads trees at every level of nesting. -/
theorem readsTrees_evaluate
    (context : EvaluationContext)
    (levels : Nat) :
    ReadsTrees context.grammar levels (evaluate context levels) := by
  induction levels with
  | zero =>
      exact {
        value := fun ran => by cases ran
        nothing := fun ran => by cases ran
      }
  | succ levels inductionHypothesis =>
      refine {
        value := fun {threshold progress number after} ran => ?_
        nothing := exhausted_of_run_evaluate
      }
      obtain ⟨token, rest, opening, operand, moved, shape, known, opened,
        extended⟩ := exists_of_run_evaluate_succ ran
      obtain ⟨tree, spans⟩ :=
        inductionHypothesis.openWith threshold known opened
      have start : token :: (progress.skip 1).stream.rest = token :: rest := by
        simp [shape]
      rw [start, ← shape] at spans
      exact inductionHypothesis.extend (Nat.le_refl _) spans extended

end Evaluator

namespace Expression

/-- A report of a value comes from an evaluation with this value. -/
theorem exists_of_outcome_eq_value
    {grammar : Grammar}
    {environment : Environment}
    {levels : Nat}
    {tokens : List Token}
    {optional : Option Number}
    (outcome :
      (reportOfTokens grammar environment levels tokens).outcome =
        .value optional) :
    ∃ after,
      (complete ⟨grammar, environment⟩ levels).run
        (Progress.start tokens) = .ok optional after := by
  unfold reportOfTokens at outcome
  cases ran :
      (complete ⟨grammar, environment⟩ levels).run
        (Progress.start tokens) with
  | ok value after =>
      simp only [ran] at outcome
      cases outcome
      exact ⟨after, rfl⟩
  | error exit after =>
      simp only [ran] at outcome
      rcases exit with failure | fault
      · cases outcome
      · cases fault <;> cases outcome

/-- A complete expression with a result has been read to the end of the tokens. -/
theorem of_run_complete
    {context : EvaluationContext}
    {levels : Nat}
    {progress after : Progress}
    {optional : Option Number}
    (ran :
      (complete context levels).run progress = .ok optional after) :
    (Evaluator.evaluate context levels .belowAssignment).run progress =
        .ok optional after ∧
      after.stream.rest = [] := by
  obtain ⟨value, moved, evaluated, ran⟩ := Step.exists_of_run_bind ran
  rw [EStateM.run_bind, Step.run_peek?] at ran
  cases next : moved.stream.peek? with
  | none =>
      simp only [next] at ran
      cases ran
      exact ⟨evaluated, TokenStream.peek?_eq_none_iff.1 next⟩
  | some token =>
      simp only [next] at ran
      cases ran

/-- Tokens that have a value are those of a shaped tree. -/
theorem exists_tree_of_value
    {grammar : Grammar}
    {environment : Environment}
    {levels : Nat}
    {tokens : List Token}
    {value : Number}
    (outcome :
      (reportOfTokens grammar environment levels tokens).outcome =
        .value (some value)) :
    ∃ tree : Tree,
      tokens = tree.tokens ∧ tree.Over grammar ∧ tree.Shaped ∧
        tree.levels ≤ levels := by
  obtain ⟨after, ran⟩ := exists_of_outcome_eq_value outcome
  obtain ⟨evaluated, atEnd⟩ := of_run_complete ran
  obtain ⟨⟨tree, spans⟩, _⟩ :=
    (Evaluator.readsTrees_evaluate _ levels).value evaluated
  have cut : tokens = tree.tokens := by
    simpa [atEnd, Progress.start, TokenStream.ofTokens] using spans.cut
  exact ⟨tree, cut, spans.isOver, spans.shaped, spans.within⟩

/-- Only an empty list of tokens has no value without being a failure. -/
theorem outcome_eq_value_none_iff
    (grammar : Grammar)
    (environment : Environment)
    (levels : Nat)
    (tokens : List Token) :
    (reportOfTokens grammar environment (levels + 1) tokens).outcome =
        .value none ↔
      tokens = [] := by
  constructor
  · intro outcome
    obtain ⟨after, ran⟩ := exists_of_outcome_eq_value outcome
    exact
      (Evaluator.exhausted_of_run_evaluate (of_run_complete ran).1).1
  · rintro rfl
    rfl

end Expression

end Reckoner
