import Reckoner.Proofs.Evaluation.Advance
import Reckoner.Proofs.Evaluation.Coupling

namespace Reckoner

/-!
# Two evaluations side by side

Two evaluations correspond as long as all that decides a turn agrees: the next
tokens, what they mean, what operations and functions give, and the numbers that are
looked up. `Coupled` collects what has to agree, for two contexts that may differ in
everything else. `Coupled.evaluate` discharges the recursion once for all comparisons.
-/

namespace Coupling

variable {α : Type}
variable {coupling : Coupling}

/--
What has to agree for two contexts to be evaluated side by side. Names are looked up
where neither an assignment nor a call can be meant, so nothing is asked of a name in
any other place.
-/
structure Coupled
    (coupling : Coupling)
    (first second : EvaluationContext) : Prop where
  peeks :
    ∀ {left right},
      coupling.together left right →
      left.stream.rest = [] ∧ right.stream.rest = [] ∨
        ∃ token later other others,
          left.stream.rest = token :: later ∧
            right.stream.rest = other :: others ∧
            coupling.tokens token other
  skips :
    ∀ {left right},
      coupling.together left right →
      left.stream.rest ≠ [] →
      coupling.together (left.skip 1) (right.skip 1) ∨
        coupling.beyond (left.skip 1)
  assigns :
    ∀ {left right} {token other : Token} value,
      coupling.tokens token other →
      coupling.together left right →
      coupling.together
        (left.assign token.lexeme value) (right.assign other.lexeme value)
  beyondSkips :
    ∀ progress, coupling.beyond progress → coupling.beyond (progress.skip 1)
  beyondAssigns :
    ∀ progress name value,
      coupling.beyond progress → coupling.beyond (progress.assign name value)
  symbols :
    ∀ {token other : Token} symbol,
      coupling.tokens token other →
      token.isSymbol symbol = other.isSymbol symbol
  bottom : coupling.thresholds .belowAssignment .belowAssignment
  nesting : coupling.exits (.fault .nesting) (.fault .nesting)
  unexpectedStart :
    ∀ {token other : Token},
      coupling.tokens token other →
      coupling.exits
        (.placed (.unexpectedStart token.lexeme) token.position)
        (.placed (.unexpectedStart other.lexeme) other.position)
  missingOperand :
    ∀ {token other : Token},
      coupling.tokens token other →
      coupling.exits
        (.placed (.missingOperand token.lexeme) token.position)
        (.placed (.missingOperand other.lexeme) other.position)
  unexpectedToken :
    ∀ {token other : Token},
      coupling.tokens token other →
      coupling.exits
        (.placed (.unexpectedToken token.lexeme) token.position)
        (.placed (.unexpectedToken other.lexeme) other.position)
  unclosedGroup :
    ∀ {left right},
      coupling.together left right →
      coupling.exits
        (.placed .unclosedGroup left.stream.position)
        (.placed .unclosedGroup right.stream.position)
  unclosedCall :
    ∀ {left right} {token other : Token},
      coupling.together left right →
      coupling.tokens token other →
      coupling.exits
        (.placed (.unclosedCall token.lexeme) left.stream.position)
        (.placed (.unclosedCall other.lexeme) right.stream.position)
  opens :
    ∀ {token other},
      coupling.tokens token other →
      coupling.OpeningsAgree token other
        (first.grammar.opening? token) (second.grammar.opening? other)
  continues :
    ∀ {token other},
      coupling.tokens token other →
      coupling.ContinuationsAgree token other
        (first.grammar.continuation? token)
        (second.grammar.continuation? other)
  call :
    ∀ {token other : Token} argument,
      coupling.tokens token other →
      (first.environment.functions.value token.lexeme argument
        (some token.position)).Agrees coupling.exits
          (second.environment.functions.value other.lexeme argument
            (some other.position))
  reference :
    ∀ {left right token later other others},
      coupling.together left right →
      left.stream.rest = token :: later →
      right.stream.rest = other :: others →
      first.grammar.opening? token = some .name →
      (left.skip 1).stream.nextIs "=" = false →
      (left.skip 1).stream.nextIs "(" = false →
      (boundValue
        ((left.values first.environment.values).get? token.lexeme)
        token.lexeme (some token.position)).Agrees coupling.exits
          (boundValue
            ((right.values second.environment.values).get? other.lexeme)
            other.lexeme (some other.position))

namespace Coupled

variable {first second : EvaluationContext}
variable {inside otherInside : Evaluator}

/-- Being beyond is an invariant of the first evaluation. -/
theorem closed
    (coupled : coupling.Coupled first second) :
    Evaluator.Closed first (fun _ _ => True) coupling.beyond
      (fun _ => True) (fun _ => True) :=
  .ofInvariant
    (fun progress beyond _ => coupled.beyondSkips progress beyond)
    coupled.beyondAssigns

/-- The same symbols are next on both sides. -/
theorem nextIs_eq
    (coupled : coupling.Coupled first second)
    {left right : Progress}
    (together : coupling.together left right)
    (symbol : String) :
    left.stream.nextIs symbol = right.stream.nextIs symbol := by
  rcases coupled.peeks together with
    ⟨leftEnd, rightEnd⟩ | ⟨token, later, other, others, shape, otherShape, alike⟩
  · rw [TokenStream.nextIs_nil leftEnd, TokenStream.nextIs_nil rightEnd]
  · rw [TokenStream.nextIs_cons shape, TokenStream.nextIs_cons otherShape]
    exact coupled.symbols symbol alike

/-- Steps that begin behind the next token correspond, if that token can be passed. -/
theorem corresponds_skip
    (coupled : coupling.Coupled first second)
    {step other : Step α}
    (parallel : coupling.Parallel step other)
    {left right : Progress}
    (together : coupling.together left right)
    (remains : left.stream.rest ≠ []) :
    coupling.Corresponds
      (step.run (left.skip 1)) (other.run (right.skip 1)) := by
  rcases coupled.skips together remains with movedTogether | beyond
  · exact parallel.corresponds movedTogether
  · exact parallel.staysBeyond.corresponds beyond _

/-- A symbol is passed on both sides or on neither. -/
theorem accept
    (coupled : coupling.Coupled first second)
    (symbol : String) :
    coupling.Parallel (Step.accept symbol) (Step.accept symbol) where
  corresponds {left right} together := by
    have same := coupled.nextIs_eq together symbol
    cases next : left.stream.nextIs symbol with
    | true =>
        rw [Step.run_accept_of_next next,
          Step.run_accept_of_next (same.symm.trans next)]
        obtain ⟨token, rest, shape, _⟩ := TokenStream.exists_of_nextIs next
        rcases coupled.skips together (by simp [shape]) with
          movedTogether | beyond
        · exact .value movedTogether
        · exact .valueBeyond beyond
    | false =>
        rw [Step.run_accept_of_not_next next,
          Step.run_accept_of_not_next (same.symm.trans next)]
        exact .value together
  staysBeyond :=
    .accept (fun progress beyond _ => coupled.beyondSkips progress beyond) symbol

/-- An operand is there or missing on both sides. -/
theorem operandOf
    (coupled : coupling.Coupled first second)
    {token other : Token}
    (alike : coupling.tokens token other)
    (optional : Option Number) :
    coupling.Parallel
      (Step.operandOf token optional) (Step.operandOf other optional) := by
  cases optional with
  | none => exact .ofThrow (coupled.missingOperand alike)
  | some value => exact .ofPure value

/-- The same number is bound to names that correspond. -/
theorem assign
    (coupled : coupling.Coupled first second)
    {token other : Token}
    (alike : coupling.tokens token other)
    (value : Number) :
    coupling.Parallel
      (Step.assign token.lexeme value) (Step.assign other.lexeme value) where
  corresponds together := .value (coupled.assigns value alike together)
  staysBeyond progress beyond :=
    ⟨trivial, coupled.beyondAssigns progress _ value beyond⟩

/-- The evaluators of two contexts, within levels that may differ. -/
def Insides
    (coupling : Coupling)
    (first second : EvaluationContext)
    (levels otherLevels : Nat) :
    Prop :=
  ∀ {threshold otherThreshold},
    coupling.thresholds threshold otherThreshold →
    coupling.Parallel
      (Evaluator.evaluate first levels threshold)
      (Evaluator.evaluate second otherLevels otherThreshold)

variable {levels otherLevels : Nat}

/-- The argument of a call is left out on both sides or on neither. -/
theorem argument
    (coupled : coupling.Coupled first second)
    (insides : Insides coupling first second levels otherLevels) :
    coupling.Parallel
      (Evaluator.argument (Evaluator.evaluate first levels))
      (Evaluator.argument (Evaluator.evaluate second otherLevels)) where
  corresponds {left right} together := by
    have same := coupled.nextIs_eq together ")"
    cases next : left.stream.nextIs ")" with
    | true =>
        rw [Evaluator.run_argument_of_closed _ next,
          Evaluator.run_argument_of_closed _ (same.symm.trans next)]
        exact .value together
    | false =>
        rw [Evaluator.run_argument_of_not_closed _ next,
          Evaluator.run_argument_of_not_closed _ (same.symm.trans next)]
        exact (insides coupled.bottom).corresponds together
  staysBeyond progress beyond := by
    cases next : progress.stream.nextIs ")" with
    | true =>
        rw [Evaluator.run_argument_of_closed _ next]
        exact ⟨trivial, beyond⟩
    | false =>
        rw [Evaluator.run_argument_of_not_closed _ next]
        exact (insides coupled.bottom).staysBeyond progress beyond

/-- A symbol that has to come is passed, or both steps fail where they are. -/
theorem closing
    (coupled : coupling.Coupled first second)
    {symbol : String}
    {passed passedRight : Step α}
    (parallel : coupling.Parallel passed passedRight)
    {cause causeRight : Cause}
    (correspond :
      ∀ {left right},
        coupling.together left right →
        coupling.exits
          (.placed cause left.stream.position)
          (.placed causeRight right.stream.position)) :
    coupling.Parallel
      (do
        if ← Step.accept symbol then
          passed
        else
          Step.failHere cause)
      (do
        if ← Step.accept symbol then
          passedRight
        else
          Step.failHere causeRight) := by
  refine (coupled.accept symbol).bind fun closes => ?_
  cases closes with
  | true => exact parallel
  | false =>
      exact {
        corresponds := fun together => .exit (correspond together) together
        staysBeyond := fun _ beyond => ⟨trivial, beyond⟩
      }

/-- A name is assigned, called or looked up on both sides alike. -/
theorem corresponds_name
    (coupled : coupling.Coupled first second)
    (insides : Insides coupling first second levels otherLevels)
    {token other : Token}
    {later others : List Token}
    {left right : Progress}
    (together : coupling.together left right)
    (shape : left.stream.rest = token :: later)
    (otherShape : right.stream.rest = other :: others)
    (alike : coupling.tokens token other)
    (opens : first.grammar.opening? token = some .name) :
    coupling.Corresponds
      ((Evaluator.name first (Evaluator.evaluate first levels) token).run
        (left.skip 1))
      ((Evaluator.name second (Evaluator.evaluate second otherLevels)
        other).run (right.skip 1)) := by
  have stays :
      coupling.StaysBeyond
        (Evaluator.name first (Evaluator.evaluate first levels) token) :=
    fun progress beyond =>
      coupled.closed.name (coupled.closed.evaluate levels) opens trivial
        beyond
  have behind := coupled.skips together (by simp [shape])
  rcases behind with movedTogether | beyond
  case inr => exact stays.corresponds beyond _
  have sameSign := coupled.nextIs_eq movedTogether "="
  have sameOpened := coupled.nextIs_eq movedTogether "("
  have inhabited :
      ∀ {symbol},
        (left.skip 1).stream.nextIs symbol = true →
        (left.skip 1).stream.rest ≠ [] := by
    intro symbol next
    obtain ⟨_, _, behindShape, _⟩ := TokenStream.exists_of_nextIs next
    rw [behindShape]
    exact List.cons_ne_nil _ _
  cases sign : (left.skip 1).stream.nextIs "=" with
  | true =>
      rw [Evaluator.run_name_of_sign _ _ _ sign,
        Evaluator.run_name_of_sign _ _ _ (sameSign.symm.trans sign)]
      refine coupled.corresponds_skip ?_ movedTogether (inhabited sign)
      exact
        (insides coupled.bottom).bind fun optional =>
          (coupled.operandOf alike optional).bind fun value =>
            coupled.assign alike value
  | false =>
      have otherSign := sameSign.symm.trans sign
      cases opened : (left.skip 1).stream.nextIs "(" with
      | true =>
          rw [Evaluator.run_name_of_opened _ _ _ opened sign,
            Evaluator.run_name_of_opened _ _ _
              (sameOpened.symm.trans opened) otherSign]
          refine coupled.corresponds_skip ?_ movedTogether (inhabited opened)
          exact
            (coupled.argument insides).bind fun argument =>
              coupled.closing (.ofAttempt (coupled.call argument alike))
                fun atClosing => coupled.unclosedCall atClosing alike
      | false =>
          rw [Evaluator.run_name_of_neither _ _ _ sign opened,
            Evaluator.run_name_of_neither _ _ _ otherSign
              (sameOpened.symm.trans opened)]
          have agree :=
            coupled.reference together shape otherShape opens sign opened
          exact (Parallel.ofAttempt agree).corresponds movedTogether

/-- Operands correspond, whatever their first tokens open. -/
theorem corresponds_openWith
    (coupled : coupling.Coupled first second)
    (insides : Insides coupling first second levels otherLevels)
    {token other : Token}
    {later others : List Token}
    {left right : Progress}
    (together : coupling.together left right)
    (shape : left.stream.rest = token :: later)
    (otherShape : right.stream.rest = other :: others)
    (alike : coupling.tokens token other)
    {opening otherOpening : Opening}
    (known : first.grammar.opening? token = some opening)
    (otherKnown : second.grammar.opening? other = some otherOpening) :
    coupling.Corresponds
      ((Evaluator.openWith first (Evaluator.evaluate first levels) token
        opening).run (left.skip 1))
      ((Evaluator.openWith second (Evaluator.evaluate second otherLevels)
        other otherOpening).run (right.skip 1)) := by
  have remains : left.stream.rest ≠ [] := by simp [shape]
  have agree := coupled.opens alike
  rw [known, otherKnown] at agree
  cases agree with
  | literal agree =>
      exact coupled.corresponds_skip (.ofAttemptAt agree) together remains
  | operator correspond agree =>
      refine coupled.corresponds_skip ?_ together remains
      exact
        (insides correspond).bind fun optional =>
          (coupled.operandOf alike optional).bind fun operand =>
            .ofAttemptAt (agree operand)
  | group =>
      refine coupled.corresponds_skip ?_ together remains
      exact
        (insides coupled.bottom).bind fun optional =>
          (coupled.operandOf alike optional).bind fun value =>
            coupled.closing (.ofPure value) coupled.unclosedGroup
  | name =>
      exact
        coupled.corresponds_name insides together shape otherShape alike known

/-- Operators that correspond continue the same value alike. -/
theorem continueWith
    (coupled : coupling.Coupled first second)
    (insides : Insides coupling first second levels otherLevels)
    {token other : Token}
    (alike : coupling.tokens token other)
    {continuation otherContinuation : Continuation}
    (agree :
      coupling.ContinuationsAgree token other
        (some continuation) (some otherContinuation))
    (value : Number) :
    coupling.Parallel
      (Evaluator.continueWith (Evaluator.evaluate first levels) value token
        continuation)
      (Evaluator.continueWith (Evaluator.evaluate second otherLevels) value
        other otherContinuation) := by
  cases agree with
  | binary correspond compare agree =>
      exact
        (insides correspond).bind fun optional =>
          (coupled.operandOf alike optional).bind fun right =>
            .ofAttemptAt (agree value right)
  | trailing compare agree =>
      exact .ofAttemptAt (agree value)

/-- The next operator is taken on both sides, or it stops both. -/
theorem corresponds_extendAll_of_next
    (coupled : coupling.Coupled first second)
    (insides : Insides coupling first second levels otherLevels)
    {threshold otherThreshold : Precedence}
    (correspond : coupling.thresholds threshold otherThreshold)
    (value : Number)
    {token other : Token}
    {later others : List Token}
    {left right : Progress}
    (together : coupling.together left right)
    (shape : left.stream.rest = token :: later)
    (otherShape : right.stream.rest = other :: others)
    (alike : coupling.tokens token other)
    (fewer :
      ∀ extended {moved movedRight : Progress},
        moved.stream.rest.length < left.stream.rest.length →
        coupling.together moved movedRight →
        coupling.Corresponds
          ((Evaluator.extendAll first.grammar
            (Evaluator.evaluate first levels) threshold extended).run moved)
          ((Evaluator.extendAll second.grammar
            (Evaluator.evaluate second otherLevels) otherThreshold
              extended).run movedRight)) :
    coupling.Corresponds
      ((Evaluator.extendAll first.grammar
        (Evaluator.evaluate first levels) threshold value).run left)
      ((Evaluator.extendAll second.grammar
        (Evaluator.evaluate second otherLevels) otherThreshold value).run
          right) := by
  have forward := Evaluator.movesForward_evaluate first levels
  have otherForward := Evaluator.movesForward_evaluate second otherLevels
  have next : left.stream.peek? = some token :=
    TokenStream.peek?_eq_some_iff.2 ⟨later, shape⟩
  have otherNext : right.stream.peek? = some other :=
    TokenStream.peek?_eq_some_iff.2 ⟨others, otherShape⟩
  have agree := coupled.continues alike
  rcases agree.neither_or_both with
    ⟨unknown, otherUnknown⟩ |
      ⟨continuation, otherContinuation, known, otherKnown⟩
  · rw [Evaluator.run_extendAll_of_loose _ _ _ _ next (by simp [unknown]),
      Evaluator.run_extendAll_of_loose _ _ _ _ otherNext
        (by simp [otherUnknown])]
    exact .value together
  · rw [known, otherKnown] at agree
    have sameChoice := agree.le_iff correspond
    rcases Int.lt_or_le threshold continuation.precedence with tight | loose
    · have otherTight : otherThreshold < otherContinuation.precedence :=
        Int.not_le.1 fun otherLoose =>
          Int.not_le.2 tight (sameChoice.2 otherLoose)
      rw [Evaluator.run_extendAll_of_tight forward _ _ next known tight,
        Evaluator.run_extendAll_of_tight otherForward _ _ otherNext
          otherKnown otherTight]
      refine
        (coupled.corresponds_skip
          (coupled.continueWith insides alike agree value) together
          (by simp [shape])).bind ?_ ?_
      · intro extended moved movedRight ran movedTogether
        have notMore :=
          Evaluator.length_le_of_continueWith forward known ran
        refine fewer extended ?_ movedTogether
        rw [shape, List.length_cons]
        simpa [shape] using Nat.lt_succ_of_le notMore
      · exact fun extended =>
          coupled.closed.extendAll (coupled.closed.evaluate levels)
            threshold extended trivial
    · rw [Evaluator.run_extendAll_of_loose _ _ _ _ next
          (by simp [known, loose]),
        Evaluator.run_extendAll_of_loose _ _ _ _ otherNext
          (by simp [otherKnown, sameChoice.1 loose])]
      exact .value together

/-- The same operators continue the same value on both sides. -/
theorem extendAll
    (coupled : coupling.Coupled first second)
    (insides : Insides coupling first second levels otherLevels)
    {threshold otherThreshold : Precedence}
    (correspond : coupling.thresholds threshold otherThreshold)
    (value : Number) :
    coupling.Parallel
      (Evaluator.extendAll first.grammar (Evaluator.evaluate first levels)
        threshold value)
      (Evaluator.extendAll second.grammar
        (Evaluator.evaluate second otherLevels) otherThreshold value) where
  corresponds {left right} together := by
    -- Every round passes a token, so the tokens to come are what decreases.
    induction size : left.stream.rest.length using Nat.strongRecOn
      generalizing value left right with
    | ind size inductionHypothesis =>
        subst size
        rcases coupled.peeks together with
          ⟨leftEnd, rightEnd⟩ |
            ⟨token, later, other, others, shape, otherShape, alike⟩
        · rw [Evaluator.run_extendAll_of_exhausted _ _ _ _
              (TokenStream.peek?_eq_none_iff.2 leftEnd),
            Evaluator.run_extendAll_of_exhausted _ _ _ _
              (TokenStream.peek?_eq_none_iff.2 rightEnd)]
          exact .value together
        · exact
            coupled.corresponds_extendAll_of_next insides correspond value
              together shape otherShape alike
              fun extended _ _ fewer movedTogether =>
                inductionHypothesis _ fewer extended movedTogether rfl
  staysBeyond :=
    coupled.closed.extendAll (coupled.closed.evaluate levels) threshold value
      trivial

/--
Evaluations side by side correspond at every level of nesting. The second one may
have more levels, if the comparison ends where the first one is nested too deeply.
-/
theorem evaluate
    (coupled : coupling.Coupled first second)
    (within :
      levels = otherLevels ∨
        levels ≤ otherLevels ∧ coupling.abandons (.fault .nesting)) :
    Insides coupling first second levels otherLevels := by
  induction levels generalizing otherLevels with
  | zero =>
      intro threshold otherThreshold correspond
      rcases within with rfl | ⟨_, abandons⟩
      · exact .ofThrow coupled.nesting
      · exact {
          corresponds := fun _ => .abandoned abandons
          staysBeyond := fun _ beyond => ⟨trivial, beyond⟩
        }
  | succ levels inductionHypothesis =>
      intro threshold otherThreshold correspond
      obtain ⟨otherLevels, rfl⟩ : ∃ fewer, otherLevels = fewer + 1 :=
        ⟨otherLevels - 1, by omega⟩
      have insides : Insides coupling first second levels otherLevels :=
        inductionHypothesis
          (within.imp Nat.succ.inj
            (And.imp_left Nat.le_of_succ_le_succ))
      refine {
        corresponds := fun {left right} together => ?_
        staysBeyond :=
          (coupled.closed.evaluate _ _).mono
            (fun _ _ => trivial) (fun _ _ => trivial)
      }
      rcases coupled.peeks together with
        ⟨leftEnd, rightEnd⟩ |
          ⟨token, later, other, others, shape, otherShape, alike⟩
      · rw [Evaluator.run_evaluate_of_exhausted _ _ _
            (TokenStream.peek?_eq_none_iff.2 leftEnd),
          Evaluator.run_evaluate_of_exhausted _ _ _
            (TokenStream.peek?_eq_none_iff.2 rightEnd)]
        exact .value together
      · have next : left.stream.peek? = some token :=
          TokenStream.peek?_eq_some_iff.2 ⟨later, shape⟩
        have otherNext : right.stream.peek? = some other :=
          TokenStream.peek?_eq_some_iff.2 ⟨others, otherShape⟩
        rcases (coupled.opens alike).neither_or_both with
          ⟨unknown, otherUnknown⟩ |
            ⟨opening, otherOpening, known, otherKnown⟩
        · rw [Evaluator.run_evaluate_of_unexpected _ _ _ next unknown,
            Evaluator.run_evaluate_of_unexpected _ _ _ otherNext
              otherUnknown]
          exact .exit (coupled.unexpectedStart alike) together
        · rw [Evaluator.run_evaluate_of_opening _ _ _ next known,
            Evaluator.run_evaluate_of_opening _ _ _ otherNext otherKnown]
          refine
            (coupled.corresponds_openWith insides together shape otherShape
              alike known otherKnown).bind ?_ ?_
          · intro value moved movedRight _ movedTogether
            exact
              ((coupled.extendAll insides correspond value).map
                some).corresponds movedTogether
          · exact fun value =>
              ((coupled.extendAll insides correspond value).map
                some).staysBeyond

/-- Complete expressions correspond: a token is left over on both sides or on neither. -/
theorem complete
    (coupled : coupling.Coupled first second)
    (within :
      levels = otherLevels ∨
        levels ≤ otherLevels ∧ coupling.abandons (.fault .nesting)) :
    coupling.Parallel
      (Expression.complete first levels)
      (Expression.complete second otherLevels) := by
  refine (coupled.evaluate within coupled.bottom).bind fun value => ?_
  refine {
    corresponds := fun {left right} together => ?_
    staysBeyond := fun progress beyond => ?_
  }
  · rw [EStateM.run_bind, EStateM.run_bind, Step.run_peek?, Step.run_peek?]
    rcases coupled.peeks together with
      ⟨leftEnd, rightEnd⟩ |
        ⟨token, later, other, others, shape, otherShape, alike⟩
    · simp only [TokenStream.peek?_eq_none_iff.2 leftEnd,
        TokenStream.peek?_eq_none_iff.2 rightEnd]
      exact .value together
    · simp only [TokenStream.peek?_eq_some_iff.2 ⟨later, shape⟩,
        TokenStream.peek?_eq_some_iff.2 ⟨others, otherShape⟩]
      exact .exit (coupled.unexpectedToken alike) together
  · rw [EStateM.run_bind, Step.run_peek?]
    cases progress.stream.peek? with
    | none => exact ⟨trivial, beyond⟩
    | some token => exact ⟨trivial, beyond⟩

end Coupled

/--
What has to agree in one grammar: the tokens that are next, the functions, and the
numbers of the names that are looked up.
-/
structure Accord
    (grammar : Grammar)
    (environment other : Environment)
    (together : Progress → Progress → Prop)
    (beyond : Progress → Prop) : Prop where
  peeks :
    ∀ {left right},
      together left right →
      left.stream.peek? = right.stream.peek? ∧
        left.stream.position = right.stream.position
  skips :
    ∀ {left right},
      together left right →
      left.stream.rest ≠ [] →
      together (left.skip 1) (right.skip 1) ∨ beyond (left.skip 1)
  assigns :
    ∀ {left right} name value,
      together left right →
      together (left.assign name value) (right.assign name value)
  beyondSkips :
    ∀ progress, beyond progress → beyond (progress.skip 1)
  beyondAssigns :
    ∀ progress name value,
      beyond progress → beyond (progress.assign name value)
  functions :
    ∀ name,
      environment.functions.get? name = other.functions.get? name
  reference :
    ∀ {left right token later},
      together left right →
      left.stream.rest = token :: later →
      grammar.opening? token = some .name →
      (left.skip 1).stream.nextIs "=" = false →
      (left.skip 1).stream.nextIs "(" = false →
      (left.values environment.values).get? token.lexeme =
        (right.values other.values).get? token.lexeme

/-- Evaluations in accord correspond, whatever exits are not compared. -/
theorem Accord.coupled
    {grammar : Grammar}
    {environment other : Environment}
    {together : Progress → Progress → Prop}
    {beyond : Progress → Prop}
    (accord : Accord grammar environment other together beyond)
    (abandons : Exit → Prop) :
    (Coupling.ofProgress together beyond abandons).Coupled
      ⟨grammar, environment⟩ ⟨grammar, other⟩ where
  peeks {left right} isTogether := by
    have same := (accord.peeks isTogether).1
    cases next : left.stream.peek? with
    | none =>
        exact
          Or.inl
            ⟨TokenStream.peek?_eq_none_iff.1 next,
              TokenStream.peek?_eq_none_iff.1 (same.symm.trans next)⟩
    | some token =>
        obtain ⟨later, shape⟩ := TokenStream.peek?_eq_some_iff.1 next
        obtain ⟨others, otherShape⟩ :=
          TokenStream.peek?_eq_some_iff.1 (same.symm.trans next)
        exact Or.inr ⟨token, later, token, others, shape, otherShape, rfl⟩
  skips := accord.skips
  assigns value alike isTogether := by
    cases alike
    exact accord.assigns _ value isTogether
  beyondSkips := accord.beyondSkips
  beyondAssigns := accord.beyondAssigns
  symbols symbol alike := by
    cases alike
    rfl
  bottom := rfl
  nesting := rfl
  unexpectedStart alike := by
    cases alike
    rfl
  missingOperand alike := by
    cases alike
    rfl
  unexpectedToken alike := by
    cases alike
    rfl
  unclosedGroup isTogether :=
    congrArg (Exit.placed .unclosedGroup) (accord.peeks isTogether).2
  unclosedCall isTogether alike := by
    cases alike
    exact congrArg (Exit.placed _) (accord.peeks isTogether).2
  opens alike := by
    cases alike
    exact openingsAgree_ofProgress _ _
  continues alike := by
    cases alike
    exact continuationsAgree_ofProgress _ _
  call {token _} argument alike := by
    cases alike
    have sameValue :
        environment.functions.value token.lexeme argument
            (some token.position) =
          other.functions.value token.lexeme argument
            (some token.position) := by
      simp only [Functions.value, Functions.call, accord.functions]
    rw [sameValue]
    exact .refl (fun _ => rfl) _
  reference {left right token later otherToken others} isTogether shape
      otherShape opens noSign notOpened := by
    have same := (accord.peeks isTogether).1
    have sameToken : token = otherToken := by
      rw [TokenStream.peek?_eq_some_iff.2 ⟨later, shape⟩,
        TokenStream.peek?_eq_some_iff.2 ⟨others, otherShape⟩] at same
      exact Option.some.inj same
    subst sameToken
    rw [accord.reference isTogether shape opens noSign notOpened]
    exact .refl (fun _ => rfl) _

end Coupling

end Reckoner
