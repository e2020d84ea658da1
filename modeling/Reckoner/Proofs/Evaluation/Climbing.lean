import Reckoner.Proofs.Evaluation.Frame
import Reckoner.Proofs.Syntax.Parsing

namespace Reckoner

/-!
# Climbing from one threshold to a lower one

An expression above a threshold is a beginning of the expression above any lower
threshold. Evaluating the longer one does what evaluating the shorter one does, and
then goes on with the operators in between, from the value and the place where the
shorter one has ended. So an operand that is read at a high threshold and continued by
the operators of whoever asked for it loses nothing.

The proof is about the operators alone: both thresholds take the same ones until the
higher threshold stops. The first operand is read before a threshold is looked at.
-/

namespace Evaluator

variable {context : EvaluationContext}
variable {levels : Nat}
variable {lower upper threshold : Precedence}
variable {progress moved : Progress}

/-- The operators above a threshold are those above a higher one and what they leave. -/
theorem run_extendAll_bind
    {grammar : Grammar}
    {evaluateInside : Evaluator}
    (forward : MovesForward evaluateInside)
    (below : lower ≤ upper)
    (value : Number)
    (progress : Progress) :
    (extendAll grammar evaluateInside upper value >>=
        extendAll grammar evaluateInside lower).run progress =
      (extendAll grammar evaluateInside lower value).run progress := by
  -- Every operator passes a token, so the tokens to come are what decreases.
  induction size : progress.stream.rest.length using Nat.strongRecOn
    generalizing value progress with
  | ind size inductionHypothesis =>
      subst size
      rw [EStateM.run_bind]
      cases next : progress.stream.peek? with
      | none => rw [run_extendAll_of_exhausted _ _ upper _ next]
      | some token =>
          rcases loose_or_tight grammar token upper with
            loose | ⟨continuation, known, tight⟩
          · rw [run_extendAll_of_loose _ _ upper _ next loose]
          · have tightBelow : lower < continuation.precedence :=
              Int.lt_of_le_of_lt below tight
            rw [run_extendAll_of_tight forward upper _ next known tight,
              run_extendAll_of_tight forward lower _ next known tightBelow,
              EStateM.run_bind, EStateM.run_bind]
            cases ran :
                (Evaluator.continueWith evaluateInside value token
                  continuation).run (progress.skip 1) with
            | error exit moved => rfl
            | ok extended moved =>
                have fewer :
                    moved.stream.rest.length <
                      progress.stream.rest.length := by
                  obtain ⟨later, shape⟩ := TokenStream.peek?_eq_some_iff.1 next
                  have notMore := length_le_of_continueWith forward known ran
                  rw [shape, List.length_cons]
                  simpa [shape] using Nat.lt_succ_of_le notMore
                have onwards :=
                  inductionHypothesis _ fewer extended moved rfl
                rwa [EStateM.run_bind] at onwards

/-- Operators leave the stream where it was or further on. -/
theorem passed_le_of_extendAll
    (context : EvaluationContext)
    (levels : Nat)
    (threshold : Precedence)
    (value : Number)
    (progress : Progress) :
    progress.stream.passed ≤
      ((extendAll context.grammar (evaluate context levels) threshold
        value).progressAfter progress).stream.passed := by
  have closed := closed_reaches context progress.stream
  have ensures :=
    closed.extendAll (closed.evaluate levels) threshold value trivial
  exact (ensures.invariant_progressAfter (.refl progress.stream)).passed_le

/-- An operator that is tight enough is passed, even if it exits then. -/
theorem passed_lt_of_tight
    (levels : Nat)
    (value : Number)
    {token : Token}
    {continuation : Continuation}
    (next : progress.stream.peek? = some token)
    (known : context.grammar.continuation? token = some continuation)
    (tight : threshold < continuation.precedence) :
    progress.stream.passed <
      ((extendAll context.grammar (evaluate context levels) threshold
        value).progressAfter progress).stream.passed := by
  have forward := movesForward_evaluate context levels
  have behindToken :=
    Step.progressAfter_congr
      (run_extendAll_of_tight forward threshold value next known tight)
  have closed := closed_reaches context (progress.skip 1).stream
  have ensures :=
    (closed.continueWith (closed.evaluate levels) [] trivial known value
      trivial).bind fun extended given =>
        closed.extendAll (closed.evaluate levels) threshold extended given
  rw [behindToken]
  exact
    (ensures.invariant_progressAfter
      (.refl (progress.skip 1).stream)).passed_le

/-- Operators pass nothing exactly if there is none to take. -/
theorem passed_eq_iff_stopsAt
    (context : EvaluationContext)
    (levels : Nat)
    (threshold : Precedence)
    (value : Number)
    (progress : Progress) :
    ((extendAll context.grammar (evaluate context levels) threshold
        value).progressAfter progress).stream.passed =
        progress.stream.passed ↔
      context.grammar.StopsAt threshold progress.stream.rest := by
  constructor
  · intro unmoved token later continuation shape known
    by_contra tight
    have next : progress.stream.peek? = some token :=
      TokenStream.peek?_eq_some_iff.2 ⟨later, shape⟩
    have further :=
      passed_lt_of_tight levels value next known (Int.not_le.1 tight)
    exact absurd unmoved (Nat.ne_of_gt further)
  · intro stops
    rw [Step.progressAfter, run_extendAll_of_stopsAt stops]

/-- Operators give a value back exactly if there is none to take. -/
theorem run_extendAll_eq_ok_iff_stopsAt
    (context : EvaluationContext)
    (levels : Nat)
    (threshold : Precedence)
    (value : Number)
    (progress : Progress) :
    (extendAll context.grammar (evaluate context levels) threshold
        value).run progress = .ok value progress ↔
      context.grammar.StopsAt threshold progress.stream.rest := by
  constructor
  · intro ran
    rw [← passed_eq_iff_stopsAt context levels threshold value progress,
      Step.progressAfter, ran]
  · intro stops
    exact run_extendAll_of_stopsAt stops _ value

/-- Continue the value of an expression by the operators above a threshold. -/
def resume
    (grammar : Grammar)
    (evaluateInside : Evaluator)
    (threshold : Precedence) :
    Option Number →
    Step (Option Number)
  | none => pure none
  | some value => some <$> extendAll grammar evaluateInside threshold value

/-- Operators that are resumed at a lower threshold are those above the lower one. -/
theorem run_extendAll_resume
    (context : EvaluationContext)
    (levels : Nat)
    (below : lower ≤ upper)
    (value : Number)
    (progress : Progress) :
    ((some <$> extendAll context.grammar (evaluate context levels) upper
          value) >>=
        resume context.grammar (evaluate context levels) lower).run
          progress =
      (some <$> extendAll context.grammar (evaluate context levels) lower
        value).run progress := by
  have onwards :
      (extendAll context.grammar (evaluate context levels) upper value >>=
          extendAll context.grammar (evaluate context levels) lower).run
            progress =
        (extendAll context.grammar (evaluate context levels) lower
          value).run progress :=
    run_extendAll_bind (movesForward_evaluate context levels) below value
      progress
  rw [Step.run_map, ← onwards, EStateM.run_bind, EStateM.run_bind,
    Step.run_map]
  cases (extendAll context.grammar (evaluate context levels) upper
      value).run progress with
  | error exit moved => rfl
  | ok extended moved => exact Step.run_map _ _ _

/-- An expression that is resumed at a lower threshold is the one above the lower one. -/
theorem run_evaluate_resume
    (context : EvaluationContext)
    (levels : Nat)
    (below : lower ≤ upper)
    (progress : Progress) :
    (evaluate context levels upper >>=
        resume context.grammar (evaluate context (levels - 1)) lower).run
          progress =
      (evaluate context levels lower).run progress := by
  cases levels with
  | zero => rfl
  | succ levels =>
      rw [EStateM.run_bind, Nat.add_sub_cancel]
      cases next : progress.stream.peek? with
      | none =>
          rw [run_evaluate_of_exhausted _ _ _ next,
            run_evaluate_of_exhausted _ _ _ next]
          rfl
      | some token =>
          cases known : context.grammar.opening? token with
          | none =>
              rw [run_evaluate_of_unexpected _ _ _ next known,
                run_evaluate_of_unexpected _ _ _ next known]
          | some opening =>
              -- The operand is the same, whatever the threshold.
              rw [run_evaluate_of_opening _ _ _ next known,
                run_evaluate_of_opening _ _ _ next known,
                EStateM.run_bind, EStateM.run_bind]
              cases (openWith context (evaluate context levels) token
                  opening).run (progress.skip 1) with
              | error exit moved => rfl
              | ok operand moved =>
                  exact
                    run_extendAll_resume context levels below operand moved

/-- Behind a value, an expression above a lower threshold is what the operators do. -/
theorem run_evaluate_of_ok
    (below : lower ≤ upper)
    {value : Number}
    (ran :
      (evaluate context levels upper).run progress =
        .ok (some value) moved) :
    (evaluate context levels lower).run progress =
      (some <$> extendAll context.grammar (evaluate context (levels - 1))
        lower value).run moved := by
  rw [← run_evaluate_resume context levels below progress,
    EStateM.run_bind, ran]
  rfl

/--
Expressions climb: evaluating above a threshold is evaluating above a higher one and
going on with the operators above the lower one, at whatever place in the tokens and
with whatever assignments it starts. So an exit of the shorter expression is that of
the longer one, and without a value there are no tokens at all. A value of the shorter
one ends in front of a token that stops it. The longer one never ends in front of that
place, and it ends there, with the same value, exactly if the next token stops it too.
-/
theorem evaluate_climbs
    (context : EvaluationContext)
    (levels : Nat)
    (progress : Progress)
    {lower upper : Precedence}
    (below : lower ≤ upper) :
    let operators :=
      resume context.grammar (evaluate context (levels - 1)) lower
    let shorter := (evaluate context levels upper).run progress
    let longer := (evaluate context levels lower).run progress
    let after := (evaluate context levels lower).progressAfter progress
    longer = (evaluate context levels upper >>= operators).run progress ∧
      (∀ exit moved,
        shorter = .error exit moved →
        longer = .error exit moved) ∧
      (∀ moved,
        shorter = .ok none moved →
        longer = .ok none moved ∧ moved.stream.rest = []) ∧
      ∀ value moved,
        shorter = .ok (some value) moved →
        context.grammar.StopsAt upper moved.stream.rest ∧
          moved.stream.passed ≤ after.stream.passed ∧
          (after.stream.passed = moved.stream.passed ↔
            context.grammar.StopsAt lower moved.stream.rest) ∧
          (longer = .ok (some value) moved ↔
            context.grammar.StopsAt lower moved.stream.rest) := by
  intro operators shorter longer after
  have resumed :
      longer = (evaluate context levels upper >>= operators).run progress :=
    (run_evaluate_resume context levels below progress).symm
  refine ⟨resumed, fun exit moved ran => ?_, fun moved ran => ?_, ?_⟩
  · change (evaluate context levels upper).run progress = _ at ran
    rw [resumed, EStateM.run_bind, ran]
  · obtain ⟨noTokens, rfl⟩ := (readsTrees_evaluate context levels).nothing ran
    change (evaluate context levels upper).run moved = _ at ran
    refine ⟨?_, noTokens⟩
    rw [resumed, EStateM.run_bind, ran]
    rfl
  · intro value moved ran
    have behind :
        longer =
          (some <$> extendAll context.grammar
            (evaluate context (levels - 1)) lower value).run moved :=
      run_evaluate_of_ok below ran
    have stays :
        after =
          (extendAll context.grammar (evaluate context (levels - 1)) lower
            value).progressAfter moved :=
      (Step.progressAfter_congr behind).trans (Step.progressAfter_map _ _ _)
    refine ⟨((readsTrees_evaluate context levels).value ran).2, ?_, ?_, ?_⟩
    · rw [stays]
      exact passed_le_of_extendAll context _ lower value moved
    · rw [stays]
      exact passed_eq_iff_stopsAt context _ lower value moved
    · rw [behind, ← run_extendAll_eq_ok_iff_stopsAt context (levels - 1)
        lower value moved, Step.run_map]
      cases (extendAll context.grammar (evaluate context (levels - 1)) lower
          value).run moved with
      | error exit last => simp
      | ok extended last => simp

/-- In `2*3+4` the product is a whole operand above sums, and the sum goes on with it. -/
theorem evaluate_climbs_sumBehindProduct :
    let context : EvaluationContext :=
      ⟨Grammar.frozenStandard, Environment.empty⟩
    let tokens : List Token := [
      ⟨.number, "2", 0⟩, ⟨.symbol, "*", 1⟩, ⟨.number, "3", 2⟩,
      ⟨.symbol, "+", 3⟩, ⟨.number, "4", 4⟩
    ]
    let behindProduct : Progress := (Progress.start tokens).skip 3
    Precedence.belowAssignment ≤ Precedence.sum ∧
      (evaluate context 2 .sum).run (Progress.start tokens) =
        .ok (some (.int 6)) behindProduct ∧
      (evaluate context 2 .belowAssignment).run (Progress.start tokens) =
        (evaluate context 2 .sum >>=
          resume context.grammar (evaluate context 1) .belowAssignment).run
            (Progress.start tokens) ∧
      (evaluate context 2 .belowAssignment).run (Progress.start tokens) ≠
        .ok (some (.int 6)) behindProduct := by
  intro context tokens behindProduct
  have below : Precedence.belowAssignment ≤ Precedence.sum := by decide
  have ran :
      (evaluate context 2 .sum).run (Progress.start tokens) =
        .ok (some (.int 6)) behindProduct := rfl
  obtain ⟨resumed, _, _, behind⟩ :=
    evaluate_climbs context 2 (Progress.start tokens) below
  obtain ⟨_, _, _, ends⟩ := behind _ _ ran
  refine ⟨below, ran, resumed, fun same => ?_⟩
  have loose := ends.1 same ⟨.symbol, "+", 3⟩ _ _ rfl rfl
  exact absurd loose (by decide)

end Evaluator

end Reckoner
