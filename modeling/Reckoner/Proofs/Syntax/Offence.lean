import Reckoner.Proofs.Evaluation.Lookahead
import Reckoner.Proofs.Syntax.Interruption
import Reckoner.Proofs.Syntax.Sentence
import Reckoner.Proofs.Token.Position

namespace Reckoner

/-!
# The first offending token

An error of syntax is reported as early as it can be: the tokens in front of the one
that it is about begin a sentence, and with that token they do not. If an operand or a
parenthesis is missing at the end, the tokens begin a sentence and are none yet.

That the tokens in front begin a sentence is seen by completing the expression that
is interrupted. That no sentence goes on with the offending token is seen the other
way round. The evaluation would exit there whatever the tokens behind were, but a
sentence has no errors of syntax.
-/

/-- Tokens that some sentence begins with. -/
def IsViable
    (tokens : List Token) :
    Prop :=
  ∃ more, IsSentence (tokens ++ more)

variable {environment : Environment}
variable {levels : Nat}
variable {tokens : List Token}
variable {failure : Failure}
variable {after : Progress}

/-- An evaluation of tokens that ends with an error of syntax. -/
structure Offends
    (environment : Environment)
    (levels : Nat)
    (tokens : List Token)
    (failure : Failure)
    (after : Progress) : Prop where
  ran :
    (Expression.complete ⟨Grammar.frozenStandard, environment⟩ levels).run
      (Progress.start tokens) = .error (.failure failure) after
  isSyntactic : failure.kind.IsSyntactic

/-- A failure that is not of the nesting is one that the evaluation ends with. -/
theorem Expression.exists_run_of_failed
    {grammar : Grammar}
    (failed :
      (reportOfTokens grammar environment levels tokens).outcome =
        .failed failure)
    (notTooDeep : failure.kind ≠ .nestingTooDeep) :
    ∃ after,
      (complete ⟨grammar, environment⟩ levels).run (Progress.start tokens) =
        .error (.failure failure) after := by
  unfold reportOfTokens at failed
  cases ran :
      (complete ⟨grammar, environment⟩ levels).run
        (Progress.start tokens) with
  | ok value after =>
      simp only [ran] at failed
      cases failed
  | error exit after =>
      simp only [ran] at failed
      rcases exit with reported | fault
      · cases failed
        exact ⟨after, rfl⟩
      · cases fault with
        | nesting =>
            cases failed
            exact absurd rfl notTooDeep
        | _ => cases failed

/-- A reported error of syntax comes from an evaluation that ends with it. -/
theorem exists_offends_of_outcome
    (failed :
      (Expression.reportOfTokens Grammar.frozenStandard environment levels
        tokens).outcome = .failed failure)
    (isSyntactic : failure.kind.IsSyntactic) :
    ∃ after, Offends environment levels tokens failure after := by
  have notTooDeep : failure.kind ≠ .nestingTooDeep := by
    intro isTooDeep
    rw [isTooDeep] at isSyntactic
    exact isSyntactic
  obtain ⟨after, ran⟩ := Expression.exists_run_of_failed failed notTooDeep
  exact ⟨after, ran, isSyntactic⟩

namespace Offends

/-- Tokens that end in an error of syntax are no sentence. -/
theorem not_isSentence
    (offends : Offends environment levels tokens failure after) :
    ¬ IsSentence tokens := by
  intro sentence
  obtain ⟨enough, correct⟩ := sentence.not_isSyntactic
  have ran :=
    Expression.run_complete_of_le offends.ran
      (fun impossible => by cases impossible)
      (Nat.le_max_left levels enough)
  refine
    correct environment _ failure (Nat.le_max_right levels enough) ?_
      offends.isSyntactic
  simp only [Expression.reportOfTokens, ran]
  rfl

/-- No sentence goes on with the token in front of which the error is raised. -/
theorem not_isViable
    (offends : Offends environment levels tokens failure after)
    {passed later : List Token}
    {token : Token}
    (shape : after.stream.rest = token :: later)
    (cut : tokens = passed ++ after.stream.rest) :
    ¬ IsViable (passed ++ [token]) := by
  rintro ⟨more, sentence⟩
  have start : tokens = passed ++ [token] ++ later := by
    simp [cut, shape]
  obtain ⟨ran, isSyntactic⟩ := offends
  rw [start] at ran
  obtain ⟨moved, otherRan⟩ :=
    Expression.exists_run_complete_of_tail ran (by simp [shape]) more
  have other : Offends environment levels _ failure moved :=
    ⟨otherRan, isSyntactic⟩
  exact other.not_isSentence sentence

/-- An error of syntax is raised where something could be completed. -/
theorem interrupts
    (offends : Offends environment levels tokens failure after) :
    (Exit.failure failure).Interrupts Grammar.frozenStandard
      .belowAssignment tokens after.stream :=
  Expression.interrupts_of_run_complete
    (Grammar.opening?_of_isNumber rfl) Grammar.semantic_frozenStandard
    offends.ran

/-- The end of the input stays where it is. -/
theorem endPosition_eq
    (offends : Offends environment levels tokens failure after) :
    after.stream.endPosition = Token.endOfAll tokens := by
  have closed :
      Evaluator.Closed ⟨Grammar.frozenStandard, environment⟩
        (fun _ _ => True)
        (fun progress =>
          progress.stream.endPosition = Token.endOfAll tokens)
        (fun _ => True) (fun _ => True) :=
    .ofInvariant (fun _ same _ => same) (fun _ _ _ same => same)
  have leaves :=
    closed.complete (fun _ _ _ => trivial) levels (Progress.start tokens) rfl
  rw [offends.ran] at leaves
  exact leaves.2

/-- The tokens in front of an error of syntax begin a sentence. -/
theorem exists_cut
    {source : String}
    (offends : Offends environment levels tokens failure after)
    (tokenized : tokenize source = .ok tokens) :
    ∃ passed, tokens = passed ++ after.stream.rest ∧ IsViable passed := by
  obtain ⟨tree, completes⟩ := offends.interrupts.completed
  obtain ⟨passed, more, cut, shape, fillers⟩ := completes.cut
  have treeNamed : ∀ token ∈ tree.tokens, token.NamesNoKind := by
    intro token member
    rw [shape] at member
    rcases List.mem_append.1 member with inFront | isFiller
    · exact namesNoKind_of_tokenize tokenized (by simp [cut, inFront])
    · rcases fillers token isFiller with rfl | rfl
      · exact fun impossible => by cases impossible
      · exact fun _ => by decide
  refine ⟨passed, cut, more, tree, ?_, shape⟩
  exact
    (Tree.derivable treeNamed completes.isOver completes.shaped).enclosed
      completes.isOver

/-- An error that is raised in front of a token stands at the offset of the token. -/
theorem exists_mem_of_position_eq
    {source : String}
    (offends : Offends environment levels tokens failure after)
    (tokenized : tokenize source = .ok tokens)
    (remains : after.stream.rest ≠ [])
    (position : failure.position = some after.stream.position) :
    ∃ token ∈ tokens, failure.position = some token.position := by
  obtain ⟨passed, cut, _⟩ := offends.exists_cut tokenized
  obtain ⟨token, later, shape⟩ := List.exists_cons_of_ne_nil remains
  refine ⟨token, by simp [cut, shape], ?_⟩
  rw [position, TokenStream.position_cons shape]

/-- Where an error of syntax has the offset of a token, that token is next. -/
theorem viable_until_index
    {source : String}
    (offends : Offends environment levels tokens failure after)
    (tokenized : tokenize source = .ok tokens)
    {index : Nat}
    {token : Token}
    (found : tokens[index]? = some token)
    (position : after.stream.position = token.position) :
    IsViable (tokens.take index) ∧ ¬ IsViable (tokens.take (index + 1)) := by
  obtain ⟨passed, cut, viable⟩ := offends.exists_cut tokenized
  cases shape : after.stream.rest with
  | nil =>
      have atEnd : token.position = Token.endOfAll tokens :=
        position.symm.trans
          ((TokenStream.position_nil shape).trans offends.endPosition_eq)
      have before : token.position < Token.endOfAll tokens :=
        Token.position_lt_endOfAll tokenized (List.mem_of_getElem? found)
      exact absurd atEnd (Nat.ne_of_lt before)
  | cons next later =>
      have split : tokens = passed ++ [next] ++ later := by
        simp [cut, shape]
      have nextFound : tokens[passed.length]? = some next := by
        simp [split]
      have sameIndex : index = passed.length :=
        Token.index_eq_of_position_eq tokenized found nextFound
          (position.symm.trans (TokenStream.position_cons shape))
      have inFront : tokens.take index = passed := by
        rw [cut, sameIndex]
        exact List.take_left
      have upToNext : tokens.take (index + 1) = passed ++ [next] := by
        rw [split, sameIndex]
        exact List.take_left' (by simp)
      rw [inFront, upToNext]
      exact ⟨viable, offends.not_isViable shape cut⟩

/-- Where an error of syntax has the offset of the end, no token is left. -/
theorem exhausted_of_position_eq
    {source : String}
    (offends : Offends environment levels tokens failure after)
    (tokenized : tokenize source = .ok tokens)
    (position : after.stream.position = Token.endOfAll tokens) :
    after.stream.rest = [] := by
  obtain ⟨passed, cut, _⟩ := offends.exists_cut tokenized
  cases shape : after.stream.rest with
  | nil => rfl
  | cons next later =>
      rw [TokenStream.position_cons shape] at position
      have before : next.position < Token.endOfAll tokens :=
        Token.position_lt_endOfAll tokenized (by simp [cut, shape])
      exact absurd position (Nat.ne_of_lt before)

/-- Tokens that end where something is missing begin a longer sentence. -/
theorem unfinished_of_exhausted
    {source : String}
    (offends : Offends environment levels tokens failure after)
    (tokenized : tokenize source = .ok tokens)
    (exhausted : after.stream.rest = []) :
    (∃ more, more ≠ [] ∧ IsSentence (tokens ++ more)) ∧
      ¬ IsSentence tokens := by
  obtain ⟨passed, cut, more, sentence⟩ := offends.exists_cut tokenized
  rw [exhausted, List.append_nil] at cut
  subst cut
  refine ⟨⟨more, ?_, sentence⟩, offends.not_isSentence⟩
  rintro rfl
  rw [List.append_nil] at sentence
  exact offends.not_isSentence sentence

end Offends

/--
Errors of syntax are reported at the first offending token. If a failure says that a
token cannot be there, or that a parenthesis should have been closed in front of it,
the tokens before it begin a sentence, and with it they do not. If an operand is
missing, or a parenthesis is not closed at the end of the input, the tokens are a
proper beginning of a sentence.
-/
theorem reported_at_first_offence
    (environment : Environment)
    (levels : Nat)
    {source : String}
    {tokens : List Token}
    (tokenized : tokenize source = .ok tokens)
    {failure : Failure}
    (failed :
      (Expression.evaluateWithin levels Grammar.frozenStandard environment
        source).outcome = .failed failure) :
    (failure.kind = .invalidExpressionStart ∨
          failure.kind = .unexpectedToken →
        ∃ token ∈ tokens, failure.position = some token.position) ∧
      (failure.kind = .unbalancedParentheses →
        (∃ token ∈ tokens, failure.position = some token.position) ∨
          failure.position = some (Token.endOfAll tokens)) ∧
      (∀ (index : Nat) (token : Token),
        failure.kind = .invalidExpressionStart ∨
            failure.kind = .unexpectedToken ∨
            failure.kind = .unbalancedParentheses →
        tokens[index]? = some token →
        failure.position = some token.position →
        IsViable (tokens.take index) ∧
          ¬ IsViable (tokens.take (index + 1))) ∧
      (failure.kind = .missingOperand ∨
          failure.kind = .unbalancedParentheses ∧
            failure.position = some (Token.endOfAll tokens) →
        (∃ more, more ≠ [] ∧ IsSentence (tokens ++ more)) ∧
          ¬ IsSentence tokens) := by
  rw [Expression.evaluateWithin_of_tokenized tokenized] at failed
  have offence :
      failure.kind.IsSyntactic →
      ∃ after, Offends environment levels tokens failure after :=
    exists_offends_of_outcome failed
  refine ⟨fun kind => ?_, fun kind => ?_, ?_, fun kind => ?_⟩
  · obtain ⟨after, offends⟩ :=
      offence (FailureKind.isSyntactic_iff.2 (by grind))
    obtain ⟨remains, position⟩ := offends.interrupts.located.inFront kind
    exact offends.exists_mem_of_position_eq tokenized remains position
  · obtain ⟨after, offends⟩ :=
      offence (FailureKind.isSyntactic_iff.2 (by grind))
    have position :=
      offends.interrupts.located.position_eq (Or.inr (Or.inr kind))
    by_cases exhausted : after.stream.rest = []
    · refine Or.inr ?_
      rw [position, TokenStream.position_nil exhausted,
        offends.endPosition_eq]
    · exact
        Or.inl
          (offends.exists_mem_of_position_eq tokenized exhausted position)
  · intro index token kind found isReported
    obtain ⟨after, offends⟩ :=
      offence (FailureKind.isSyntactic_iff.2 (by grind))
    rw [offends.interrupts.located.position_eq kind] at isReported
    exact
      offends.viable_until_index tokenized found
        (Option.some.inj isReported)
  · obtain ⟨after, offends⟩ :=
      offence (FailureKind.isSyntactic_iff.2 (by grind))
    refine offends.unfinished_of_exhausted tokenized ?_
    rcases kind with kind | ⟨kind, isReported⟩
    · exact offends.interrupts.located.exhausted kind
    · rw [offends.interrupts.located.position_eq (Or.inr (Or.inr kind))]
        at isReported
      exact
        offends.exhausted_of_position_eq tokenized
          (Option.some.inj isReported)

/-- A number does not close a parenthesis, whatever comes behind it. -/
theorem reported_at_first_offence_unclosed :
    ∃ tokens,
      tokenize "(1 2" = .ok tokens ∧
        (Expression.evaluateWithin 3 Grammar.frozenStandard
            Environment.empty "(1 2").outcome =
          .failed ⟨.unclosedGroup, some 3⟩ ∧
        IsViable (tokens.take 2) ∧ ¬ IsViable (tokens.take 3) := by
  have tokenized :
      tokenize "(1 2" =
        .ok [⟨.symbol, "(", 0⟩, ⟨.number, "1", 1⟩, ⟨.number, "2", 3⟩] := rfl
  have failed :
      (Expression.evaluateWithin 3 Grammar.frozenStandard
          Environment.empty "(1 2").outcome =
        .failed ⟨.unclosedGroup, some 3⟩ := rfl
  obtain ⟨_, _, first, _⟩ :=
    reported_at_first_offence Environment.empty 3 tokenized failed
  exact
    ⟨_, tokenized, failed, first 2 _ (Or.inr (Or.inr rfl)) rfl rfl⟩

end Reckoner
