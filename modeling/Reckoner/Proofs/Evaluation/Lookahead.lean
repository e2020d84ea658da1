import Reckoner.Proofs.Evaluation.Frame
import Reckoner.Proofs.Evaluation.SideBySide

namespace Reckoner

/-!
# What an evaluation does not depend on

An evaluation looks no further than at the next token, so where it ends the tokens
behind the next one might be any others: it would have the same value or exit, make
the same assignments and end at the same place. It also does not depend on the levels
of nesting that it has not used up. Both are comparisons of an evaluation with another
one in the same environment.
-/

namespace Progress

/-- The same place in other tokens, after the same assignments. -/
def among
    (others : List Token)
    (progress : Progress) :
    Progress where
  stream := (TokenStream.ofTokens others).skip progress.stream.passed
  assigned := progress.assigned

end Progress

/-- The same value or exit, at the same place in other tokens. -/
def Step.resultAmong
    {α : Type}
    (others : List Token) :
    EStateM.Result Exit Progress α →
    EStateM.Result Exit Progress α
  | .ok value progress => .ok value (progress.among others)
  | .error exit progress => .error exit (progress.among others)

/-- What has been passed since the first token says where a stream is. -/
theorem TokenStream.Reaches.eq_skip_passed
    {tokens : List Token}
    {stream : TokenStream}
    (reaches : (ofTokens tokens).Reaches stream) :
    stream.passed ≤ tokens.length ∧
      stream = (ofTokens tokens).skip stream.passed := by
  obtain ⟨count, within, rfl⟩ := reaches
  have counted : ((ofTokens tokens).skip count).passed = count :=
    Nat.zero_add count
  rw [counted]
  exact ⟨within, rfl⟩

namespace Coupling

/-- Evaluations in step, of which the second one may be nested more deeply. -/
def deeper : Coupling :=
  .ofProgress Eq (fun _ => False) (fun exit => exit = .fault .nesting)

/-- Levels of nesting are nothing that a turn depends on. -/
theorem coupled_deeper
    (context : EvaluationContext) :
    deeper.Coupled context context := by
  refine Accord.coupled ?_ _
  constructor
  case peeks =>
    rintro left right rfl
    exact ⟨rfl, rfl⟩
  case skips =>
    rintro left right rfl _
    exact Or.inl rfl
  case assigns =>
    rintro left right name value rfl
    rfl
  case beyondSkips => exact fun _ impossible => impossible
  case beyondAssigns => exact fun _ _ _ impossible => impossible
  case functions => exact fun _ => rfl
  case reference =>
    rintro left right token later rfl _ _ _ _
    rfl

/-- Evaluations of the same tokens in front of different ones, up to there. -/
def upTo
    (tail otherTail : List Token) :
    Coupling :=
  .ofProgress
    (fun left right =>
      left.assigned = right.assigned ∧
        ∃ token ahead,
          left.stream.rest = token :: (ahead ++ tail) ∧
            right.stream.rest = token :: (ahead ++ otherTail))
    (fun progress => progress.stream.rest.length ≤ tail.length)
    (fun _ => False)

/-- Tokens that are not next are nothing that a turn depends on. -/
theorem coupled_upTo
    (context : EvaluationContext)
    (tail otherTail : List Token) :
    (upTo tail otherTail).Coupled context context := by
  refine Accord.coupled ?_ _
  constructor
  case peeks =>
    rintro left right ⟨_, token, ahead, shape, otherShape⟩
    have next : left.stream.peek? = some token :=
      TokenStream.peek?_eq_some_iff.2 ⟨_, shape⟩
    have otherNext : right.stream.peek? = some token :=
      TokenStream.peek?_eq_some_iff.2 ⟨_, otherShape⟩
    simp only [TokenStream.position, next, otherNext, and_self]
  case skips =>
    rintro left right ⟨sameAssigned, token, ahead, shape, otherShape⟩ _
    cases ahead with
    | nil =>
        refine Or.inr ?_
        simp [shape]
    | cons following ahead =>
        refine Or.inl ⟨sameAssigned, following, ahead, ?_, ?_⟩
        · simp [shape]
        · simp [otherShape]
  case assigns =>
    rintro left right name value ⟨sameAssigned, ahead⟩
    exact ⟨by simp [sameAssigned], ahead⟩
  case beyondSkips =>
    intro progress beyond
    refine Nat.le_trans ?_ beyond
    simp
  case beyondAssigns => exact fun _ _ _ beyond => beyond
  case functions => exact fun _ => rfl
  case reference =>
    rintro left right token later ⟨sameAssigned, _⟩ _ _ _ _
    rw [Progress.values, Progress.values, sameAssigned]

section SameStart

variable {tail otherTail : List Token}

/-- Streams with the same tokens up to different tails have passed the same number. -/
theorem among_of_together
    {kept : List Token}
    {left right : Progress}
    (together : (upTo tail otherTail).together left right)
    (reaches :
      (TokenStream.ofTokens (kept ++ tail)).Reaches left.stream)
    (otherReaches :
      (TokenStream.ofTokens (kept ++ otherTail)).Reaches right.stream) :
    right = left.among (kept ++ otherTail) := by
  obtain ⟨sameAssigned, token, ahead, shape, otherShape⟩ := together
  obtain ⟨within, place⟩ := reaches.eq_skip_passed
  obtain ⟨otherWithin, otherPlace⟩ := otherReaches.eq_skip_passed
  have remaining : left.stream.rest = (kept ++ tail).drop left.stream.passed :=
    congrArg TokenStream.rest place
  have otherRemaining :
      right.stream.rest = (kept ++ otherTail).drop right.stream.passed :=
    congrArg TokenStream.rest otherPlace
  -- In front of either tail there are the same tokens still to come.
  have samePassed : left.stream.passed = right.stream.passed := by
    have count := congrArg List.length (shape.symm.trans remaining)
    have otherCount :=
      congrArg List.length (otherShape.symm.trans otherRemaining)
    simp only [List.length_cons, List.length_append,
      List.length_drop] at count otherCount within otherWithin
    omega
  rw [Progress.among, samePassed, sameAssigned, ← otherPlace]

/-- A step that ends in front of the tail has the same result with every other tail. -/
theorem Parallel.run_start_of_inFront
    {α : Type}
    {step : Step α}
    (parallel : (upTo tail otherTail).Parallel step step)
    (kept : List Token)
    (moves :
      ∀ tokens,
        (TokenStream.ofTokens tokens).Reaches
          (step.progressAfter (Progress.start tokens)).stream)
    (inFront :
      tail.length <
        (step.progressAfter
          (Progress.start (kept ++ tail))).stream.rest.length) :
    step.run (Progress.start (kept ++ otherTail)) =
      Step.resultAmong (kept ++ otherTail)
        (step.run (Progress.start (kept ++ tail))) := by
  have reaches := moves (kept ++ tail)
  have otherReaches := moves (kept ++ otherTail)
  have corresponds :
      (upTo tail otherTail).Corresponds
        (step.run (Progress.start (kept ++ tail)))
        (step.run (Progress.start (kept ++ otherTail))) := by
    cases kept with
    | nil => exact absurd reaches.length_le (Nat.not_le.2 inFront)
    | cons token ahead =>
        exact parallel.corresponds ⟨rfl, token, ahead, rfl, rfl⟩
  rw [Step.progressAfter] at reaches otherReaches inFront
  generalize step.run (Progress.start (kept ++ tail)) = result
    at corresponds reaches inFront ⊢
  generalize step.run (Progress.start (kept ++ otherTail)) = otherResult
    at corresponds otherReaches ⊢
  cases corresponds with
  | value together =>
      rw [among_of_together together reaches otherReaches]
      rfl
  | exit correspond together =>
      rw [among_of_together together reaches otherReaches,
        show _ = _ from correspond]
      rfl
  | valueBeyond beyond => exact absurd beyond (Nat.not_le.2 inFront)
  | exitBeyond beyond => exact absurd beyond (Nat.not_le.2 inFront)
  | abandoned impossible => exact impossible.elim

end SameStart

end Coupling

namespace Evaluator

/--
One token of lookahead. If an evaluation of some tokens ends with its cursor in front
of one of them, then it ends in the same way on all tokens that begin with the same
ones up to that token: with the same value or the same exit, after the same
assignments, and with its cursor at the same place.
-/
theorem evaluate_looksOneAhead
    (context : EvaluationContext)
    (levels : Nat)
    (threshold : Precedence)
    {tokens others : List Token}
    {cursor : Nat}
    (ends :
      ((evaluate context levels threshold).progressAfter
        (Progress.start tokens)).stream.passed = cursor)
    (inFront : cursor < tokens.length)
    (agree : others.take (cursor + 1) = tokens.take (cursor + 1)) :
    (evaluate context levels threshold).run (Progress.start others) =
      Step.resultAmong others
        ((evaluate context levels threshold).run
          (Progress.start tokens)) := by
  have moves :
      ∀ tokens,
        (TokenStream.ofTokens tokens).Reaches
          ((evaluate context levels threshold).progressAfter
            (Progress.start tokens)).stream :=
    fun tokens =>
      (movesForward_evaluate context levels (.ofTokens tokens)
        threshold).invariant_progressAfter (.refl (.ofTokens tokens))
  have parallel :
      (Coupling.upTo (tokens.drop (cursor + 1))
        (others.drop (cursor + 1))).Parallel
          (evaluate context levels threshold)
          (evaluate context levels threshold) :=
    (Coupling.coupled_upTo context _ _).evaluate (Or.inl rfl) rfl
  have remaining :
      ((evaluate context levels threshold).progressAfter
        (Progress.start tokens)).stream.rest = tokens.drop cursor := by
    have place := (moves tokens).eq_skip_passed.2
    rw [ends] at place
    exact congrArg TokenStream.rest place
  have sameAhead :=
    parallel.run_start_of_inFront (tokens.take (cursor + 1)) moves
      (by
        rw [List.take_append_drop, remaining, List.length_drop,
          List.length_drop]
        omega)
  rwa [List.take_append_drop, ← agree, List.take_append_drop] at sameAhead

/--
In `(x=2 3` the group is found unclosed at the second number, after the assignment to
`x`; it is so if the number is followed by the parenthesis that would have closed it.
-/
theorem evaluate_looksOneAhead_unclosedGroup :
    let context : EvaluationContext :=
      ⟨Grammar.frozenStandard, Environment.empty⟩
    let tokens : List Token := [
      ⟨.symbol, "(", 0⟩, ⟨.identifier, "x", 1⟩, ⟨.symbol, "=", 2⟩,
      ⟨.number, "2", 3⟩, ⟨.number, "3", 5⟩
    ]
    let others : List Token :=
      tokens ++ [⟨.symbol, ")", 6⟩, ⟨.symbol, "^", 7⟩]
    ((evaluate context 3 0).progressAfter
        (Progress.start tokens)).stream.passed = 4 ∧
      4 < tokens.length ∧
      others.take 5 = tokens.take 5 ∧
      (evaluate context 3 0).run (Progress.start others) =
        .error (.placed .unclosedGroup 5)
          ⟨(TokenStream.ofTokens others).skip 4, [("x", .int 2)]⟩ := by
  intro context tokens others
  have ends :
      ((evaluate context 3 0).progressAfter
        (Progress.start tokens)).stream.passed = 4 := rfl
  have inFront : 4 < tokens.length := by decide
  have agree : others.take 5 = tokens.take 5 := rfl
  refine ⟨ends, inFront, agree, ?_⟩
  rw [evaluate_looksOneAhead context 3 0 ends inFront agree]
  rfl

end Evaluator

namespace Expression

variable {context : EvaluationContext}
variable {levels : Nat}
variable {exit : Exit}
variable {after : Progress}

/-- An exit that is not for nesting occurs within all larger limits as well. -/
theorem run_complete_of_le
    {progress : Progress}
    (ran : (complete context levels).run progress = .error exit after)
    (notNesting : exit ≠ .fault .nesting)
    {more : Nat}
    (enough : levels ≤ more) :
    (complete context more).run progress = .error exit after := by
  have parallel :
      Coupling.deeper.Parallel
        (complete context levels) (complete context more) :=
    (Coupling.coupled_deeper context).complete (Or.inr ⟨enough, rfl⟩)
  have corresponds :
      Coupling.deeper.Corresponds
        ((complete context levels).run progress)
        ((complete context more).run progress) :=
    parallel.corresponds rfl
  rw [ran] at corresponds
  obtain ⟨otherExit, moved, otherRan, correspond, together⟩ :=
    corresponds.of_error id notNesting
  rw [otherRan, show exit = otherExit from correspond,
    show after = moved from together]

/-- An exit in front of the tail occurs with every other tail as well. -/
theorem exists_run_complete_of_tail
    {kept tail : List Token}
    (ran :
      (complete context levels).run (Progress.start (kept ++ tail)) =
        .error exit after)
    (inFront : tail.length < after.stream.rest.length)
    (otherTail : List Token) :
    ∃ moved,
      (complete context levels).run (Progress.start (kept ++ otherTail)) =
        .error exit moved := by
  have parallel :
      (Coupling.upTo tail otherTail).Parallel
        (complete context levels) (complete context levels) :=
    (Coupling.coupled_upTo context tail otherTail).complete (Or.inl rfl)
  have corresponds :
      (Coupling.upTo tail otherTail).Corresponds
        ((complete context levels).run (Progress.start (kept ++ tail)))
        ((complete context levels).run
          (Progress.start (kept ++ otherTail))) := by
    cases kept with
    | nil =>
        refine parallel.staysBeyond.corresponds ?_ _
        exact Nat.le_refl tail.length
    | cons token ahead =>
        exact parallel.corresponds ⟨rfl, token, ahead, rfl, rfl⟩
  rw [ran] at corresponds
  obtain ⟨otherExit, moved, otherRan, correspond, _⟩ :=
    corresponds.of_error (Nat.not_le.2 inFront) id
  exact ⟨moved, by rw [otherRan, show exit = otherExit from correspond]⟩

end Expression

end Reckoner
