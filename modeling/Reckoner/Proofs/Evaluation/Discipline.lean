import Reckoner.Proofs.Evaluation.Path

namespace Reckoner

/-!
# The discipline of the stream

An evaluation travels from wherever it starts, however it ends. The steps that take no
token leave the stream where it is, and each of the others takes the token in front of it.

The recursion ends by itself for the same reason. The tokens passed and the levels left
together never fall short of where they started, since a level is used up only behind a
token that has been passed. Where they started is therefore a floor of the whole path.
-/

/-- A step that leaves the stream where it is. -/
def Step.StaysPut
    {α : Type}
    (step : Step α) :
    Prop :=
  ∀ progress, (step.progressAfter progress).stream = progress.stream

namespace Step.StaysPut

/-- An operand that has been read. -/
theorem operandOf
    (token : Token)
    (optional : Option Number) :
    (Step.operandOf token optional).StaysPut := by
  intro progress
  cases optional with
  | none => rfl
  | some value => rfl

/-- The result of an attempt. -/
theorem ofAttempt
    {α : Type}
    (attempt : Attempt α) :
    (Step.ofAttempt attempt).StaysPut := by
  intro progress
  cases attempt with
  | ok value => rfl
  | error exit => rfl

/-- The result of an attempt, whose failure belongs to a token. -/
theorem ofAttemptAt
    {α : Type}
    (token : Token)
    (attempt : Attempt α) :
    (Step.ofAttemptAt token attempt).StaysPut := by
  intro progress
  cases attempt with
  | ok value => rfl
  | error exit => rfl

end Step.StaysPut

namespace Recorded

variable {α β : Type}

/-- A step that travels from everywhere with so many levels above the floor. -/
def FollowsPath
    (levels : Nat)
    (step : Recorded α) :
    Prop :=
  ∀ (record : Record) (floor : Nat),
    floor ≤ record.progress.stream.passed + levels →
    record.Travels floor (Record.ofResult (step.run record))

/-- Taking a token that is there puts it on record and passes it. -/
theorem run_consume
    (consumer : Consumer)
    {record : Record}
    {token : Token}
    {later : List Token}
    (shape : record.progress.stream.rest = token :: later) :
    (consume consumer).run record =
      .ok token
        ⟨record.progress.skip 1,
          record.events ++
            [.consumed
              ⟨consumer, record.progress.stream.passed, some token⟩]⟩ := by
  have next : record.progress.stream.peek? = some token :=
    TokenStream.peek?_eq_some_iff.2 ⟨later, shape⟩
  change ofStep Step.consume (Record.mk record.progress _) = _
  rw [next]
  unfold ofStep
  rw [Step.run_consume next]

/-- A meaning travels if it does right behind its token, which is there. -/
theorem travels_meaning
    {floor : Nat}
    {record : Record}
    {token : Token}
    {later : List Token}
    {consumer : Consumer}
    {next : Recorded β}
    (shape : record.progress.stream.rest = token :: later)
    (isMeant : consumer ≠ .symbol)
    (nextTravels :
      ∀ behind : Record,
        behind.progress = record.progress.skip 1 →
        behind.Travels floor (Record.ofResult (next.run behind))) :
    record.Travels floor
      (Record.ofResult
        ((do
          let _ ← consume consumer
          log (.invoked token)
          next).run record)) := by
  rw [EStateM.run_bind, run_consume consumer shape]
  exact
    (Record.Travels.ofMeaning shape isMeant).trans (nextTravels ⟨_, _⟩ rfl)

namespace FollowsPath

variable {levels : Nat}

/-- Steps one after another. -/
theorem bind
    {step : Recorded α}
    {next : α → Recorded β}
    (follows : FollowsPath levels step)
    (nextFollows : ∀ value, FollowsPath levels (next value)) :
    FollowsPath levels (step >>= next) :=
  fun record floor above =>
    (follows record floor above).bind fun value moved travels =>
      nextFollows value moved floor
        (Nat.le_trans above (Nat.add_le_add_right travels.passed_le levels))

/-- A value that is ready. -/
theorem ofPure
    (value : α) :
    FollowsPath levels (pure value) :=
  fun _ _ _ => .ofUnmoved rfl rfl

/-- A step that depends on the record. -/
theorem get_bind
    {next : Record → Recorded β}
    (nextFollows : ∀ record, FollowsPath levels (next record)) :
    FollowsPath levels (get >>= next) :=
  fun record => nextFollows record record

/-- A step that leaves the stream where it is. -/
theorem ofStaysPut
    {step : Step α}
    (staysPut : step.StaysPut) :
    FollowsPath levels (ofStep step) := by
  intro record floor _
  have unmoved := staysPut record.progress
  unfold Step.progressAfter at unmoved
  change record.Travels floor (Record.ofResult (ofStep step record))
  unfold ofStep
  cases ran : step.run record.progress with
  | ok value moved =>
      rw [ran] at unmoved
      exact .ofUnmoved rfl unmoved
  | error exit moved =>
      rw [ran] at unmoved
      exact .ofUnmoved rfl unmoved

/-- A symbol that is taken if it is next. -/
theorem accept
    (symbol : String) :
    FollowsPath levels (Recorded.accept symbol) := by
  refine fun record floor _ => .get_bind ?_
  split
  case isTrue next =>
    obtain ⟨token, later, shape, _⟩ := TokenStream.exists_of_nextIs next
    rw [EStateM.run_bind, run_consume .symbol shape]
    exact .ofSymbol shape
  case isFalse => exact .ofUnmoved rfl rfl

/-- A step that depends on whether a symbol comes. -/
theorem closing
    {symbol : String}
    {passed failing : Recorded α}
    (passes : FollowsPath levels passed)
    (fails : FollowsPath levels failing) :
    FollowsPath levels
      (do if ← Recorded.accept symbol then passed else failing) := by
  refine (accept symbol).bind fun closes => ?_
  cases closes with
  | true => exact passes
  | false => exact fails

variable {context : EvaluationContext}
variable {evaluateInside : Recorded.Evaluator}

/-- An operand that a token needs. -/
theorem operand
    (inside : ∀ threshold, FollowsPath levels (evaluateInside threshold))
    (threshold : Precedence)
    (token : Token)
    {next : Number → Recorded Number}
    (nextFollows : ∀ value, FollowsPath levels (next value)) :
    FollowsPath levels
      (do
        let value ←
          Recorded.ofStep (Step.operandOf token (← evaluateInside threshold))
        next value) :=
  (inside threshold).bind fun optional =>
    (ofStaysPut (.operandOf token optional)).bind nextFollows

/-- The argument of a call. -/
theorem argument
    (inside : ∀ threshold, FollowsPath levels (evaluateInside threshold)) :
    FollowsPath levels (Recorded.argument evaluateInside) := by
  refine get_bind fun _ => ?_
  split
  case isTrue => exact ofPure none
  case isFalse => exact inside .belowAssignment

/-- What a name starts. -/
theorem name
    (inside : ∀ threshold, FollowsPath levels (evaluateInside threshold))
    (token : Token) :
    FollowsPath levels (Recorded.name context evaluateInside token) := by
  refine closing ?assignment (closing ?call ?reference)
  case assignment =>
    exact operand inside .belowAssignment token fun value =>
      ofStaysPut fun _ => rfl
  case call =>
    refine (argument inside).bind fun given => ?_
    exact closing (ofStaysPut (.ofAttempt _)) (ofStaysPut fun _ => rfl)
  case reference =>
    exact get_bind fun _ => ofStaysPut (.ofAttempt _)

/-- Operands whose first token has been taken. -/
theorem openWith
    (inside : ∀ threshold, FollowsPath levels (evaluateInside threshold))
    (token : Token)
    (opening : Opening) :
    FollowsPath levels
      (Recorded.openWith context evaluateInside token opening) := by
  cases opening with
  | literal read => exact ofStaysPut (.ofAttemptAt token _)
  | operator operation precedence =>
      exact operand inside precedence token fun _ =>
        ofStaysPut (.ofAttemptAt token _)
  | group =>
      exact operand inside .belowAssignment token fun value =>
        closing (ofPure value) (ofStaysPut fun _ => rfl)
  | name => exact name inside token

/-- Operators whose token has been taken. -/
theorem continueWith
    (inside : ∀ threshold, FollowsPath levels (evaluateInside threshold))
    (left : Number)
    (token : Token)
    (continuation : Continuation) :
    FollowsPath levels
      (Recorded.continueWith evaluateInside left token continuation) := by
  cases continuation with
  | binary operation precedence associativity =>
      exact operand inside _ token fun _ =>
        ofStaysPut (.ofAttemptAt token _)
  | trailing operation precedence => exact ofStaysPut (.ofAttemptAt token _)

/-- The loop behind an operand, with a round for every token that is left. -/
theorem extend
    (grammar : Grammar)
    (inside : ∀ threshold, FollowsPath levels (evaluateInside threshold))
    (threshold : Precedence)
    {rounds : Nat}
    (value : Number)
    {record : Record}
    {floor : Nat}
    (enough : record.progress.stream.rest.length ≤ rounds)
    (above : floor ≤ record.progress.stream.passed + levels) :
    record.Travels floor
      (Record.ofResult
        ((Recorded.extend grammar evaluateInside threshold rounds value).run
          record)) := by
  induction rounds generalizing value record with
  | zero =>
      have exhausted : record.progress.stream.isExhausted = true := by
        simpa [TokenStream.isExhausted] using enough
      refine .get_bind ?_
      rw [if_pos exhausted]
      exact .ofUnmoved rfl rfl
  | succ rounds inductionHypothesis =>
      refine .peek?_bind ?_
      cases next : record.progress.stream.peek? with
      | none => exact .ofUnmoved rfl rfl
      | some token =>
          obtain ⟨later, shape⟩ := TokenStream.peek?_eq_some_iff.1 next
          dsimp only
          cases grammar.continuation? token with
          | none => exact .ofUnmoved rfl rfl
          | some continuation =>
              dsimp only
              split
              case isTrue => exact .ofUnmoved rfl rfl
              case isFalse =>
                -- The token that is passed pays for the round.
                refine travels_meaning shape (by decide) fun behind moved => ?_
                have fewer :
                    behind.progress.stream.rest.length ≤ rounds := by
                  simpa [moved, shape] using enough
                have higher :
                    floor ≤ behind.progress.stream.passed + levels := by
                  rw [moved, Progress.stream_skip, TokenStream.passed_skip]
                  omega
                refine
                  (continueWith inside value token continuation behind floor
                    higher).bind fun extended last travels => ?_
                exact
                  inductionHypothesis extended
                    (Nat.le_trans travels.length_le fewer)
                    (Nat.le_trans higher
                      (Nat.add_le_add_right travels.passed_le levels))

/-- Expressions, within any number of levels. -/
theorem evaluate
    (context : EvaluationContext)
    (levels : Nat)
    (threshold : Precedence) :
    FollowsPath levels (Recorded.evaluate context levels threshold) := by
  induction levels generalizing threshold with
  | zero =>
      intro record floor above
      exact ⟨[.outOfLevels], rfl, .outOfLevels above (.finished _)⟩
  | succ levels inductionHypothesis =>
      refine fun record floor above => .peek?_bind ?_
      cases next : record.progress.stream.peek? with
      | none => exact .ofUnmoved rfl rfl
      | some token =>
          obtain ⟨later, shape⟩ := TokenStream.peek?_eq_some_iff.1 next
          dsimp only
          cases context.grammar.opening? token with
          | none => exact .ofUnmoved rfl rfl
          | some opening =>
              -- The token that is passed pays for the level.
              refine travels_meaning shape (by decide) fun behind moved => ?_
              have higher :
                  floor ≤ behind.progress.stream.passed + levels := by
                rw [moved, Progress.stream_skip, TokenStream.passed_skip]
                omega
              refine
                (openWith inductionHypothesis token opening behind floor
                  higher).bind fun value opened travels => .get_bind ?_
              refine
                (extend context.grammar inductionHypothesis threshold value
                  (Nat.le_refl _) ?_).bind fun extended last _ => ?_
              · exact
                  Nat.le_trans higher
                    (Nat.add_le_add_right travels.passed_le levels)
              · exact .ofUnmoved rfl rfl

end FollowsPath

end Recorded

/-- What holds of a stream and of all that is put on record between two of its places. -/
structure StreamDiscipline
    (start : TokenStream)
    (events : List Event)
    (finish : TokenStream) : Prop where
  /-- No token is taken where none is left. -/
  neverExhausted :
    ∀ consumption ∈ Event.consumptions events, consumption.found ≠ none
  /-- The stream has moved forward, and not past its end. -/
  moves :
    (Event.consumptions events).length ≤ start.rest.length ∧
      finish = start.skip (Event.consumptions events).length
  /-- The tokens that are taken are those that have been passed. -/
  found :
    (Event.consumptions events).map Consumption.found =
      (start.rest.take (Event.consumptions events).length).map some
  /-- Each of them is taken once, by one consumer, and one after another. -/
  cursors :
    (Event.consumptions events).map Consumption.cursor =
      List.range' start.passed (Event.consumptions events).length
  /-- Meanings are carried out for the tokens of operands and of the loop. -/
  invoked :
    (Event.invocations events).map some =
      ((Event.consumptions events).filter
        fun consumption => consumption.consumer ≠ .symbol).map
          Consumption.found
  /-- There are no more meanings carried out than there are tokens left. -/
  fewInvocations :
    (Event.invocations events).length ≤ start.rest.length
  /-- The loop ends before its rounds are used up. -/
  roundsSuffice : .outOfRounds ∉ events

/-- A path keeps the discipline. -/
theorem Path.discipline
    {floor : Nat}
    {start finish : TokenStream}
    {events : List Event}
    (path : Path floor start events finish) :
    StreamDiscipline start events finish where
  neverExhausted := by
    intro consumption taken missing
    have among : none ∈ (Event.consumptions events).map Consumption.found :=
      List.mem_map.2 ⟨consumption, taken, missing⟩
    rw [path.map_found] at among
    obtain ⟨token, _, isNone⟩ := List.mem_map.1 among
    cases isNone
  moves := path.skips
  found := path.map_found
  cursors := path.map_cursor
  invoked := path.map_invocations
  fewInvocations := by
    have asMany := congrArg List.length path.map_invocations
    rw [List.length_map, List.length_map] at asMany
    rw [asMany]
    exact Nat.le_trans (List.length_filter_le _ _) path.skips.1
  roundsSuffice := path.outOfRounds_not_mem

namespace Evaluator

/-- An evaluation that gives a value has passed the first token of its operand. -/
theorem passed_lt_of_run_evaluate
    {context : EvaluationContext}
    {levels : Nat}
    {threshold : Precedence}
    {progress moved : Progress}
    {value : Option Number}
    (ran :
      (evaluate context levels threshold).run progress = .ok value moved)
    (remains : progress.stream.rest ≠ []) :
    progress.stream.passed < moved.stream.passed := by
  cases levels with
  | zero => cases ran
  | succ levels =>
      cases value with
      | none => exact absurd (exhausted_of_run_evaluate ran).1 remains
      | some number =>
          obtain ⟨token, later, opening, operand, opened, shape, known, ranOpening,
            ranLoop⟩ := exists_of_run_evaluate_succ ran
          have closed := closed_reaches context (progress.skip 1).stream
          have behindToken :=
            closed.openWith (closed.evaluate levels) known trivial
              (.refl (progress.skip 1).stream)
          rw [ranOpening] at behindToken
          have behindOperand :=
            passed_le_of_extendAll context levels threshold operand opened
          rw [Step.progressAfter, ranLoop] at behindOperand
          exact Nat.le_trans behindToken.2.passed_le behindOperand

/--
Evaluation keeps the discipline of the stream: with any grammar, environment and
threshold, from any place in the tokens, and however it ends. The evaluation on record
is the evaluation. It takes no token where none is left; the tokens it passes are taken
one after another, each by the start of an operand, by the loop or as the symbol of a
meaning; and no more meanings are carried out than there are tokens left. More levels of
nesting than tokens are never used up, so the recursion ends by itself, as all loops do.
A value that comes from a stream with tokens has used up at least one of them.
-/
theorem evaluate_keepsDiscipline
    (context : EvaluationContext)
    (levels : Nat)
    (threshold : Precedence)
    (progress : Progress) :
    let result :=
      (Recorded.evaluate context levels threshold).run (.start progress)
    let record := Record.ofResult result
    Record.erase result = (evaluate context levels threshold).run progress ∧
      StreamDiscipline progress.stream record.events
        record.progress.stream ∧
      (progress.stream.rest.length < levels →
        .outOfLevels ∉ record.events) ∧
      ∀ value moved,
        (evaluate context levels threshold).run progress = .ok value moved →
        progress.stream.rest ≠ [] →
        progress.stream.passed < moved.stream.passed := by
  intro result record
  obtain ⟨events, extended, path⟩ :=
    Recorded.FollowsPath.evaluate context levels threshold (.start progress)
      (progress.stream.passed + levels) (Nat.le_refl _)
  have isRecord : record.events = events := extended
  rw [isRecord]
  refine
    ⟨Recorded.Erases.evaluate context levels threshold (.start progress),
      path.discipline, fun enough missing => ?_,
      fun value moved ran remains => passed_lt_of_run_evaluate ran remains⟩
  have floorReached := path.floor_le missing
  obtain ⟨within, arrives⟩ := path.skips
  rw [arrives, TokenStream.passed_skip] at floorReached
  change _ ≤ progress.stream.rest.length at within
  change _ ≤ progress.stream.passed + _ at floorReached
  omega

/-- In `(1)` the closing parenthesis has no meaning of its own: it is taken by the group. -/
theorem evaluate_keepsDiscipline_group :
    let context : EvaluationContext :=
      ⟨Grammar.frozenStandard, Environment.empty⟩
    let progress := Progress.start [
      ⟨.symbol, "(", 0⟩, ⟨.number, "1", 1⟩, ⟨.symbol, ")", 2⟩
    ]
    let events : List Event := [
      .consumed ⟨.operand, 0, some ⟨.symbol, "(", 0⟩⟩,
      .invoked ⟨.symbol, "(", 0⟩,
      .consumed ⟨.operand, 1, some ⟨.number, "1", 1⟩⟩,
      .invoked ⟨.number, "1", 1⟩,
      .consumed ⟨.symbol, 2, some ⟨.symbol, ")", 2⟩⟩
    ]
    (Recorded.evaluate context 4 .belowAssignment).run (.start progress) =
        .ok (some (.int 1)) ⟨progress.skip 3, events⟩ ∧
      progress.stream.rest.length < 4 ∧
      (evaluate context 4 .belowAssignment).run progress =
        .ok (some (.int 1)) (progress.skip 3) ∧
      StreamDiscipline progress.stream events (progress.stream.skip 3) ∧
      .outOfLevels ∉ events ∧
      progress.stream.passed < (progress.skip 3).stream.passed := by
  intro context progress events
  have ran :
      (Recorded.evaluate context 4 .belowAssignment).run (.start progress) =
        .ok (some (.int 1)) ⟨progress.skip 3, events⟩ := rfl
  have few : progress.stream.rest.length < 4 := by decide
  obtain ⟨erases, discipline, noLevelMissing, advances⟩ :=
    evaluate_keepsDiscipline context 4 .belowAssignment progress
  rw [ran] at erases discipline noLevelMissing
  exact
    ⟨ran, few, erases.symm, discipline, noLevelMissing few,
      advances _ _ erases.symm (List.cons_ne_nil _ _)⟩

end Evaluator

end Reckoner
