import Reckoner.Expression

namespace Reckoner

/-!
# What one step of an evaluation does

Each step is described by the progress it starts from and the progress it leaves
behind. The equations below are all that later proofs know about the steps: none of
them opens the definition of a step again.

Progress in the stream is counted in tokens, by `skip`. The rounds that bound
`extend` are hidden in `extendAll`, which takes as many as there are tokens.
-/

/-- A token is no other symbol than the one it is. -/
theorem Token.isSymbol_eq_false
    {token : Token}
    {symbol other : String}
    (isSymbol : token.isSymbol symbol = true)
    (differs : symbol ≠ other) :
    token.isSymbol other = false := by
  simp only [Token.isSymbol, Bool.and_eq_true, decide_eq_true_eq] at isSymbol
  simp [Token.isSymbol, isSymbol.2, differs]

/-- A composed computation exits in its first part or in what follows it. -/
theorem exit_of_run_bind
    {σ α β : Type}
    {first : EStateM Exit σ α}
    {next : α → EStateM Exit σ β}
    {state after : σ}
    {exit : Exit}
    (ran : (first >>= next).run state = .error exit after) :
    first.run state = .error exit after ∨
      ∃ value moved,
        first.run state = .ok value moved ∧
          (next value).run moved = .error exit after := by
  rw [EStateM.run_bind] at ran
  cases firstRan : first.run state with
  | ok value moved =>
      rw [firstRan] at ran
      exact Or.inr ⟨value, moved, rfl, ran⟩
  | error raised moved =>
      rw [firstRan] at ran
      cases ran
      exact Or.inl rfl

namespace TokenStream

/-- The stream after a number of further tokens. -/
def skip
    (stream : TokenStream)
    (count : Nat) :
    TokenStream :=
  {
    passed := stream.passed + count
    rest := stream.rest.drop count
    endPosition := stream.endPosition
  }

@[simp] theorem rest_skip
    (stream : TokenStream)
    (count : Nat) :
    (stream.skip count).rest = stream.rest.drop count :=
  rfl

@[simp] theorem skip_zero
    (stream : TokenStream) :
    stream.skip 0 = stream :=
  rfl

/-- Skipping twice skips the sum. -/
@[simp] theorem skip_skip
    (stream : TokenStream)
    (first second : Nat) :
    (stream.skip first).skip second = stream.skip (first + second) := by
  simp [skip, Nat.add_assoc]

/-- Skips that pass the same number of tokens arrive at the same place. -/
theorem skip_skip_eq
    (stream : TokenStream)
    {first second total : Nat}
    (sum : first + second = total) :
    (stream.skip first).skip second = stream.skip total := by
  rw [skip_skip, sum]

/-- The next token is the first of the rest. -/
theorem peek?_eq_some_iff
    {stream : TokenStream}
    {token : Token} :
    stream.peek? = some token ↔
      ∃ rest, stream.rest = token :: rest := by
  unfold peek?
  cases stream.rest with
  | nil => simp
  | cons first rest => simp

/-- Nothing is next exactly at the end of the tokens. -/
theorem peek?_eq_none_iff
    {stream : TokenStream} :
    stream.peek? = none ↔ stream.rest = [] := by
  simp [peek?]

/-- Whether a symbol is next shows on the first token of the rest. -/
theorem nextIs_cons
    {stream : TokenStream}
    {token : Token}
    {rest : List Token}
    (shape : stream.rest = token :: rest)
    (symbol : String) :
    stream.nextIs symbol = token.isSymbol symbol := by
  simp [nextIs, peek?, shape]

/-- No symbol is next at the end of the tokens. -/
theorem nextIs_nil
    {stream : TokenStream}
    (shape : stream.rest = [])
    (symbol : String) :
    stream.nextIs symbol = false := by
  simp [nextIs, peek?, shape]

/-- The offset of a stream is that of its next token. -/
theorem position_cons
    {stream : TokenStream}
    {token : Token}
    {rest : List Token}
    (shape : stream.rest = token :: rest) :
    stream.position = token.position := by
  simp [position, peek?, shape]

/-- The offset of a stream without tokens is the end of the input. -/
theorem position_nil
    {stream : TokenStream}
    (shape : stream.rest = []) :
    stream.position = stream.endPosition := by
  simp [position, peek?, shape]

/-- A symbol that is next is the first token of the rest. -/
theorem exists_of_nextIs
    {stream : TokenStream}
    {symbol : String}
    (next : stream.nextIs symbol = true) :
    ∃ token rest,
      stream.rest = token :: rest ∧ token.isSymbol symbol = true := by
  cases shape : stream.rest with
  | nil =>
      simp [nextIs_nil shape] at next
  | cons token rest =>
      exact ⟨token, rest, rfl, by rwa [nextIs_cons shape] at next⟩

end TokenStream

namespace Progress

/-- The progress after a number of further tokens. -/
def skip
    (progress : Progress)
    (count : Nat) :
    Progress :=
  { progress with stream := progress.stream.skip count }

/-- The progress after one more assignment. -/
def assign
    (progress : Progress)
    (name : String)
    (value : Number) :
    Progress :=
  { progress with assigned := (name, value) :: progress.assigned }

@[simp] theorem stream_skip
    (progress : Progress)
    (count : Nat) :
    (progress.skip count).stream = progress.stream.skip count :=
  rfl

/-- Skipping twice skips the sum. -/
@[simp] theorem skip_skip
    (progress : Progress)
    (first second : Nat) :
    (progress.skip first).skip second = progress.skip (first + second) := by
  simp [skip]

@[simp] theorem assigned_assign
    (progress : Progress)
    (name : String)
    (value : Number) :
    (progress.assign name value).assigned =
      (name, value) :: progress.assigned :=
  rfl

/-- An assignment binds its name in the variables. -/
@[simp] theorem values_assign
    (progress : Progress)
    (name : String)
    (value : Number)
    (before : Variables) :
    (progress.assign name value).values before =
      (progress.values before).insert name value := by
  simp [values, Table.insertAll]

/-- A name is looked up in the variables as they are after the assignments. -/
theorem find?_eq_get?
    (progress : Progress)
    (before : Variables)
    (name : String) :
    progress.find? before name = (progress.values before).get? name := by
  rcases progress with ⟨stream, assigned⟩
  induction assigned with
  | nil =>
      rfl
  | cons entry rest inductionHypothesis =>
      have extended :
          values ⟨stream, entry :: rest⟩ before =
            (values ⟨stream, rest⟩ before).insert entry.1 entry.2 :=
        values_assign ⟨stream, rest⟩ entry.1 entry.2 before
      rw [extended, Table.get?_insert, ← inductionHypothesis]
      by_cases same : entry.1 = name
      · simp [find?, Table.lookup, same]
      · simp [find?, Table.lookup, same]

end Progress

namespace Step

variable {α β : Type}

/-- A mapped step maps the value and leaves the rest of the result alone. -/
@[simp] theorem run_map
    (apply : α → β)
    (step : Step α)
    (progress : Progress) :
    (apply <$> step).run progress =
      match step.run progress with
      | .ok value moved => .ok (apply value) moved
      | .error exit moved => .error exit moved := by
  change EStateM.map apply step progress = _
  unfold EStateM.map EStateM.run
  cases step progress <;> rfl

@[simp] theorem run_peek?
    (progress : Progress) :
    peek?.run progress = .ok progress.stream.peek? progress :=
  rfl

/-- Passing a token that is there leaves the stream behind it. -/
theorem run_consume
    {progress : Progress}
    {token : Token}
    (next : progress.stream.peek? = some token) :
    consume.run progress = .ok token (progress.skip 1) := by
  rcases progress with ⟨⟨passed, rest, endPosition⟩, assigned⟩
  cases rest with
  | nil =>
      cases next
  | cons first rest =>
      cases next
      rfl

/-- A symbol is passed exactly if it is next. -/
private theorem run_accept
    (symbol : String)
    (progress : Progress) :
    (accept symbol).run progress =
      if progress.stream.nextIs symbol then
        .ok true (progress.skip 1)
      else
        .ok false progress := by
  unfold accept
  simp only [EStateM.run_bind, EStateM.run_get]
  split
  case isTrue next =>
    obtain ⟨token, rest, shape, _⟩ := TokenStream.exists_of_nextIs next
    have peeked : progress.stream.peek? = some token :=
      TokenStream.peek?_eq_some_iff.2 ⟨rest, shape⟩
    simp [run_consume peeked]
  case isFalse =>
    rfl

/-- A symbol that is next is passed. -/
theorem run_accept_of_next
    {symbol : String}
    {progress : Progress}
    (next : progress.stream.nextIs symbol = true) :
    (accept symbol).run progress = .ok true (progress.skip 1) := by
  simp [run_accept, next]

/-- Nothing is passed if another token is next. -/
theorem run_accept_of_not_next
    {symbol : String}
    {progress : Progress}
    (notNext : progress.stream.nextIs symbol = false) :
    (accept symbol).run progress = .ok false progress := by
  simp [run_accept, notNext]

@[simp] theorem run_fail
    (cause : Cause)
    (position : Nat)
    (progress : Progress) :
    (fail cause position : Step α).run progress =
      .error (.placed cause position) progress :=
  rfl

@[simp] theorem operandOf_some
    (token : Token)
    (value : Number) :
    operandOf token (some value) = pure value :=
  rfl

end Step

namespace Evaluator

/-- A call that closes at once has no argument. -/
theorem run_argument_of_closed
    (evaluateInside : Evaluator)
    {progress : Progress}
    (closes : progress.stream.nextIs ")" = true) :
    (argument evaluateInside).run progress = .ok none progress := by
  simp [argument, closes]

/-- A call that does not close at once has an argument. -/
theorem run_argument_of_not_closed
    (evaluateInside : Evaluator)
    {progress : Progress}
    (unclosed : progress.stream.nextIs ")" = false) :
    (argument evaluateInside).run progress =
      (evaluateInside .belowAssignment).run progress := by
  simp [argument, unclosed]

/-- A name before an equals sign is assigned the value behind it. -/
theorem run_name_of_sign
    (context : EvaluationContext)
    (evaluateInside : Evaluator)
    (token : Token)
    {progress : Progress}
    (sign : progress.stream.nextIs "=" = true) :
    (name context evaluateInside token).run progress =
      (do
        let optional ← evaluateInside .belowAssignment
        let value ← Step.operandOf token optional
        Step.assign token.lexeme value).run (progress.skip 1) := by
  simp only [name, EStateM.run_bind, Step.run_accept_of_next sign, if_true]

/-- A name before a parenthesis is called with what the parentheses enclose. -/
theorem run_name_of_opened
    (context : EvaluationContext)
    (evaluateInside : Evaluator)
    (token : Token)
    {progress : Progress}
    (opened : progress.stream.nextIs "(" = true)
    (noSign : progress.stream.nextIs "=" = false) :
    (name context evaluateInside token).run progress =
      (do
        let argument ← argument evaluateInside
        if ← Step.accept ")" then
          Step.ofAttempt
            (context.environment.functions.value token.lexeme argument
              (some token.position))
        else
          Step.failHere (.unclosedCall token.lexeme)).run
            (progress.skip 1) := by
  simp only [name, EStateM.run_bind, Step.run_accept_of_not_next noSign,
    Step.run_accept_of_next opened, if_true, Bool.false_eq_true, if_false]

/-- A name before anything else is looked up in the variables. -/
theorem run_name_of_neither
    (context : EvaluationContext)
    (evaluateInside : Evaluator)
    (token : Token)
    {progress : Progress}
    (noSign : progress.stream.nextIs "=" = false)
    (notOpened : progress.stream.nextIs "(" = false) :
    (name context evaluateInside token).run progress =
      (Step.ofAttempt
        (boundValue
          ((progress.values context.environment.values).get? token.lexeme)
          token.lexeme (some token.position))).run progress := by
  simp only [name, EStateM.run_bind, EStateM.run_get,
    Step.run_accept_of_not_next noSign,
    Step.run_accept_of_not_next notOpened, Bool.false_eq_true, if_false,
    Progress.find?_eq_get?]

/-- Continue a value by as many operators as there are tokens for. -/
def extendAll
    (grammar : Grammar)
    (evaluateInside : Evaluator)
    (threshold : Precedence)
    (value : Number) :
    Step Number := do
  extend grammar evaluateInside threshold
    (← get).stream.rest.length value

/-- Without a next token the value stays as it is. -/
theorem run_extend_of_exhausted
    (grammar : Grammar)
    (evaluateInside : Evaluator)
    (threshold : Precedence)
    (rounds : Nat)
    (value : Number)
    {progress : Progress}
    (exhausted : progress.stream.peek? = none) :
    (extend grammar evaluateInside threshold rounds value).run progress =
      .ok value progress := by
  cases rounds with
  | zero =>
      rfl
  | succ rounds =>
      simp [extend, exhausted]

/-- A token that does not continue the value, or binds too loosely, stops it. -/
theorem run_extend_of_loose
    (grammar : Grammar)
    (evaluateInside : Evaluator)
    (threshold : Precedence)
    (rounds : Nat)
    (value : Number)
    {progress : Progress}
    {token : Token}
    (next : progress.stream.peek? = some token)
    (loose :
      ∀ continuation,
        grammar.continuation? token = some continuation →
        continuation.precedence ≤ threshold) :
    (extend grammar evaluateInside threshold rounds value).run progress =
      .ok value progress := by
  cases rounds with
  | zero =>
      rfl
  | succ rounds =>
      cases known : grammar.continuation? token with
      | none =>
          simp [extend, next, known]
      | some continuation =>
          simp [extend, next, known, loose continuation known]

/-- A token stops an expression, or continues it by an operator that is tight. -/
theorem loose_or_tight
    (grammar : Grammar)
    (token : Token)
    (threshold : Precedence) :
    (∀ continuation,
      grammar.continuation? token = some continuation →
      continuation.precedence ≤ threshold) ∨
    ∃ continuation,
      grammar.continuation? token = some continuation ∧
        threshold < continuation.precedence := by
  cases known : grammar.continuation? token with
  | none =>
      exact Or.inl fun _ impossible => by cases impossible
  | some continuation =>
      rcases Int.lt_or_le threshold continuation.precedence with
        tight | loose
      · exact Or.inr ⟨continuation, rfl, tight⟩
      · exact Or.inl fun _ same => by
          cases same
          exact loose

/-- An operator that binds tighter than the threshold takes the value. -/
theorem run_extend_succ_of_tight
    (grammar : Grammar)
    (evaluateInside : Evaluator)
    (threshold : Precedence)
    (rounds : Nat)
    (value : Number)
    {progress : Progress}
    {token : Token}
    {continuation : Continuation}
    (next : progress.stream.peek? = some token)
    (known : grammar.continuation? token = some continuation)
    (tight : threshold < continuation.precedence) :
    (extend grammar evaluateInside threshold (rounds + 1) value).run
        progress =
      (continueWith evaluateInside value token continuation >>=
        extend grammar evaluateInside threshold rounds).run
          (progress.skip 1) := by
  have notLoose : ¬ continuation.precedence ≤ threshold :=
    Int.not_le.2 tight
  simp [extend, next, known, notLoose, Step.run_consume next]

/-- At the end of the tokens there is no expression. -/
theorem run_evaluate_of_exhausted
    (context : EvaluationContext)
    (levels : Nat)
    (threshold : Precedence)
    {progress : Progress}
    (exhausted : progress.stream.peek? = none) :
    (evaluate context (levels + 1) threshold).run progress =
      .ok none progress := by
  simp [evaluate, exhausted]

/-- A token without an opening cannot start an expression. -/
theorem run_evaluate_of_unexpected
    (context : EvaluationContext)
    (levels : Nat)
    (threshold : Precedence)
    {progress : Progress}
    {token : Token}
    (next : progress.stream.peek? = some token)
    (unknown : context.grammar.opening? token = none) :
    (evaluate context (levels + 1) threshold).run progress =
      .error (.placed (.unexpectedStart token.lexeme) token.position)
        progress := by
  simp [evaluate, next, unknown]

/-- An expression is an operand and what continues it. -/
theorem run_evaluate_of_opening
    (context : EvaluationContext)
    (levels : Nat)
    (threshold : Precedence)
    {progress : Progress}
    {token : Token}
    {opening : Opening}
    (next : progress.stream.peek? = some token)
    (known : context.grammar.opening? token = some opening) :
    (evaluate context (levels + 1) threshold).run progress =
      (openWith context (evaluate context levels) token opening >>=
        fun value =>
          some <$> extendAll context.grammar (evaluate context levels)
            threshold value).run (progress.skip 1) := by
  simp [evaluate, extendAll, next, known, Step.run_consume next]

end Evaluator

end Reckoner
