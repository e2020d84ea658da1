import Reckoner.Proofs.Evaluation.Invariant

namespace Reckoner

/-!
# Evaluation moves forward

Whatever an evaluation does, and however it ends, it leaves the stream at the same
place or further on, never past its end. Every round of `extend` therefore begins
with fewer tokens than the one before, so the bound on the rounds is never felt and
`extendAll` can be read as a plain recursion.
-/

namespace TokenStream

/-- A stream comes to another one by passing some of its tokens. -/
def Reaches
    (before after : TokenStream) :
    Prop :=
  ∃ count, count ≤ before.rest.length ∧ after = before.skip count

namespace Reaches

/-- A stream is at itself. -/
theorem refl
    (stream : TokenStream) :
    stream.Reaches stream :=
  ⟨0, Nat.zero_le _, by simp⟩

/-- One more token can be passed if one is left. -/
theorem next
    {before after : TokenStream}
    (reaches : before.Reaches after)
    (remains : after.rest ≠ []) :
    before.Reaches (after.skip 1) := by
  obtain ⟨count, within, rfl⟩ := reaches
  have left : count < before.rest.length := by
    simpa using remains
  exact ⟨count + 1, left, by simp⟩

/-- No tokens are gained on the way. -/
theorem length_le
    {before after : TokenStream}
    (reaches : before.Reaches after) :
    after.rest.length ≤ before.rest.length := by
  obtain ⟨count, within, rfl⟩ := reaches
  simp

/-- Tokens are only ever added to those that have been passed. -/
theorem passed_le
    {before after : TokenStream}
    (reaches : before.Reaches after) :
    before.passed ≤ after.passed := by
  obtain ⟨count, _, rfl⟩ := reaches
  exact Nat.le_add_right before.passed count

end Reaches

end TokenStream

namespace Evaluator

/-- An evaluator that leaves the stream where it was or further on. -/
def MovesForward
    (evaluateInside : Evaluator) :
    Prop :=
  ∀ start threshold,
    Step.Ensures
      (fun progress => TokenStream.Reaches start progress.stream)
      (OptionSatisfies fun _ => True)
      (fun _ => True)
      (evaluateInside threshold)

/-- Being ahead of a given place is an invariant of every evaluation. -/
theorem closed_reaches
    (context : EvaluationContext)
    (start : TokenStream) :
    Closed context
      (fun _ _ => True)
      (fun progress => start.Reaches progress.stream)
      (fun _ => True)
      (fun _ => True) :=
  .ofInvariant
    (fun _ reaches remains => reaches.next remains)
    (fun _ _ _ reaches => reaches)

/-- Evaluation moves forward at every level of nesting. -/
theorem movesForward_evaluate
    (context : EvaluationContext)
    (levels : Nat) :
    MovesForward (evaluate context levels) :=
  fun start threshold =>
    (closed_reaches context start).evaluate levels threshold

variable {grammar : Grammar}
variable {evaluateInside : Evaluator}

/-- An operator that is read after its token leaves no more tokens than there were. -/
theorem length_le_of_continueWith
    (forward : MovesForward evaluateInside)
    {token : Token}
    {continuation : Continuation}
    (known : grammar.continuation? token = some continuation)
    {left value : Number}
    {progress moved : Progress}
    (ran :
      (continueWith evaluateInside left token continuation).run progress =
        .ok value moved) :
    moved.stream.rest.length ≤ progress.stream.rest.length := by
  have closed :=
    closed_reaches ⟨grammar, Environment.empty⟩ progress.stream
  have leaves :=
    closed.continueWith (forward progress.stream) [] trivial known left
      trivial progress (.refl _)
  rw [ran] at leaves
  exact leaves.2.length_le

/-- Two bounds that suffice for the tokens allow the same rounds. -/
theorem run_extend_eq
    (forward : MovesForward evaluateInside)
    (threshold : Precedence)
    {first second : Nat}
    (value : Number)
    {progress : Progress}
    (firstEnough : progress.stream.rest.length ≤ first)
    (secondEnough : progress.stream.rest.length ≤ second) :
    (extend grammar evaluateInside threshold first value).run progress =
      (extend grammar evaluateInside threshold second value).run
        progress := by
  induction first generalizing second value progress with
  | zero =>
      have exhausted : progress.stream.peek? = none :=
        TokenStream.peek?_eq_none_iff.2
          (List.eq_nil_of_length_eq_zero (Nat.le_zero.1 firstEnough))
      rw [run_extend_of_exhausted _ _ _ _ _ exhausted,
        run_extend_of_exhausted _ _ _ _ _ exhausted]
  | succ first inductionHypothesis =>
      cases next : progress.stream.peek? with
      | none =>
          rw [run_extend_of_exhausted _ _ _ _ _ next,
            run_extend_of_exhausted _ _ _ _ _ next]
      | some token =>
          rcases loose_or_tight grammar token threshold with
            loose | ⟨continuation, known, tight⟩
          · rw [run_extend_of_loose _ _ _ _ _ next loose,
              run_extend_of_loose _ _ _ _ _ next loose]
          · obtain ⟨rest, shape⟩ := TokenStream.peek?_eq_some_iff.1 next
            rw [shape, List.length_cons] at firstEnough secondEnough
            obtain ⟨second, rfl⟩ :
                ∃ fewer, second = fewer + 1 :=
              ⟨second - 1, by omega⟩
            rw [run_extend_succ_of_tight _ _ _ _ _ next known tight,
              run_extend_succ_of_tight _ _ _ _ _ next known tight,
              EStateM.run_bind, EStateM.run_bind]
            cases ran :
                (continueWith evaluateInside value token continuation).run
                  (progress.skip 1) with
            | error exit moved =>
                rfl
            | ok extended moved =>
                have fewer := length_le_of_continueWith forward known ran
                simp only [Progress.stream_skip, TokenStream.rest_skip,
                  shape, List.drop_succ_cons, List.drop_zero] at fewer
                exact
                  inductionHypothesis extended (by omega) (by omega)

/-- At the end of the tokens nothing continues a value. -/
theorem run_extendAll_of_exhausted
    (grammar : Grammar)
    (evaluateInside : Evaluator)
    (threshold : Precedence)
    (value : Number)
    {progress : Progress}
    (exhausted : progress.stream.peek? = none) :
    (extendAll grammar evaluateInside threshold value).run progress =
      .ok value progress := by
  simp [extendAll, run_extend_of_exhausted _ _ _ _ _ exhausted]

/-- A token that does not continue a value, or binds too loosely, stops it. -/
theorem run_extendAll_of_loose
    (grammar : Grammar)
    (evaluateInside : Evaluator)
    (threshold : Precedence)
    (value : Number)
    {progress : Progress}
    {token : Token}
    (next : progress.stream.peek? = some token)
    (loose :
      ∀ continuation,
        grammar.continuation? token = some continuation →
        continuation.precedence ≤ threshold) :
    (extendAll grammar evaluateInside threshold value).run progress =
      .ok value progress := by
  simp [extendAll, run_extend_of_loose _ _ _ _ _ next loose]

/-- An operator that binds tighter takes the value, and its result goes on. -/
theorem run_extendAll_of_tight
    (forward : MovesForward evaluateInside)
    (threshold : Precedence)
    (value : Number)
    {progress : Progress}
    {token : Token}
    {continuation : Continuation}
    (next : progress.stream.peek? = some token)
    (known : grammar.continuation? token = some continuation)
    (tight : threshold < continuation.precedence) :
    (extendAll grammar evaluateInside threshold value).run progress =
      (continueWith evaluateInside value token continuation >>=
        extendAll grammar evaluateInside threshold).run
          (progress.skip 1) := by
  obtain ⟨rest, shape⟩ := TokenStream.peek?_eq_some_iff.1 next
  have opened :
      (extendAll grammar evaluateInside threshold value).run progress =
        (extend grammar evaluateInside threshold (rest.length + 1)
          value).run progress := by
    simp [extendAll, shape]
  rw [opened, run_extend_succ_of_tight _ _ _ _ _ next known tight,
    EStateM.run_bind, EStateM.run_bind]
  cases ran :
      (continueWith evaluateInside value token continuation).run
        (progress.skip 1) with
  | error exit moved =>
      rfl
  | ok extended moved =>
      have fewer := length_le_of_continueWith forward known ran
      simp only [Progress.stream_skip, TokenStream.rest_skip, shape,
        List.drop_succ_cons, List.drop_zero] at fewer
      have sameRounds :
          (extend grammar evaluateInside threshold rest.length
            extended).run moved =
          (extend grammar evaluateInside threshold
            moved.stream.rest.length extended).run moved :=
        run_extend_eq forward threshold extended fewer (Nat.le_refl _)
      simpa [extendAll] using sameRounds

end Evaluator

end Reckoner
