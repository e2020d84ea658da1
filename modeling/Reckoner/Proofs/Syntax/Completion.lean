import Reckoner.Proofs.Evaluation.Operations
import Reckoner.Proofs.Syntax.Parsing

namespace Reckoner

/-!
# Expressions that are completed

Tokens that have been passed begin an expression if what is still open can be
completed by placeholders: a number takes the place of a missing operand, and open
parentheses are closed. Every construct of the language is completed with the part of
it that is not finished; the parts before that have been read.

An exit interrupts an expression that can be completed in this way. If it is an error
of syntax, it is raised in front of the token that it is about, or at the end.
-/

/-- A number in the place of an operand. -/
def Token.placeholder : Token :=
  ⟨.number, "0", 0⟩

/-- A parenthesis that closes what is open. -/
def Token.closing : Token :=
  ⟨.symbol, ")", 0⟩

/--
Where an error of syntax is raised. A missing operand is reported at the token that
needs it, but noticed at the end.
-/
def Exit.Located
    (stream : TokenStream) :
    Exit →
    Prop
  | .failure reported =>
      match reported.kind with
      | .invalidExpressionStart =>
          stream.rest ≠ [] ∧ reported.position = some stream.position
      | .unexpectedToken =>
          stream.rest ≠ [] ∧ reported.position = some stream.position
      | .unbalancedParentheses => reported.position = some stream.position
      | .missingOperand => stream.rest = []
      | _ => True
  | .fault _ => True

/-- What is no error of syntax may be raised anywhere. -/
theorem Exit.located_of_not_isSyntactic
    {exit : Exit}
    (notSyntactic : ¬ exit.IsSyntactic)
    (stream : TokenStream) :
    exit.Located stream := by
  rcases exit with reported | fault
  · unfold IsSyntactic at notSyntactic
    unfold Located
    cases kind : reported.kind <;>
      simp_all [FailureKind.IsSyntactic]
  · trivial

namespace Exit.Located

variable {reported : Failure}
variable {stream : TokenStream}

/-- A token that cannot be where it is comes next. -/
theorem inFront
    (located : (Exit.failure reported).Located stream)
    (kind :
      reported.kind = .invalidExpressionStart ∨
        reported.kind = .unexpectedToken) :
    stream.rest ≠ [] ∧ reported.position = some stream.position := by
  unfold Exit.Located at located
  rcases kind with kind | kind
  · simpa only [kind] using located
  · simpa only [kind] using located

/-- All errors of syntax but that of a missing operand say where they are raised. -/
theorem position_eq
    (located : (Exit.failure reported).Located stream)
    (kind :
      reported.kind = .invalidExpressionStart ∨
        reported.kind = .unexpectedToken ∨
        reported.kind = .unbalancedParentheses) :
    reported.position = some stream.position := by
  rcases kind with kind | kind | kind
  · exact (located.inFront (Or.inl kind)).2
  · exact (located.inFront (Or.inr kind)).2
  · unfold Exit.Located at located
    simpa only [kind] using located

/-- An operand is only missing at the end. -/
theorem exhausted
    (located : (Exit.failure reported).Located stream)
    (kind : reported.kind = .missingOperand) :
    stream.rest = [] := by
  unfold Exit.Located at located
  simpa only [kind] using located

end Exit.Located

/-- A token that stands for something that is still open. -/
def Token.IsFiller
    (token : Token) :
    Prop :=
  token = .placeholder ∨ token = .closing

/-- What is closed besides being completed is completed by fillers. -/
theorem Token.forall_isFiller_append_closing
    {more : List Token}
    (fillers : ∀ token ∈ more, token.IsFiller) :
    ∀ token ∈ more ++ [.closing], token.IsFiller := by
  intro token member
  rcases List.mem_append.1 member with earlier | last
  · exact fillers token earlier
  · exact Or.inr (List.mem_singleton.1 last)

/-- A tree whose tokens are the ones that were passed, completed by placeholders. -/
structure Tree.Completes
    (grammar : Grammar)
    (threshold : Precedence)
    (start rest : List Token)
    (tree : Tree) : Prop where
  isOver : tree.Over grammar
  shaped : tree.Shaped
  above : tree.Above threshold
  cut :
    ∃ passed more,
      start = passed ++ rest ∧ tree.tokens = passed ++ more ∧
        ∀ token ∈ more, token.IsFiller

namespace Tree.Completes

variable {grammar : Grammar}
variable {threshold inner : Precedence}
variable {start behind rest : List Token}
variable {tree : Tree}

/-- A tree that was read to its end needs no placeholders. -/
theorem ofRead
    (isOver : tree.Over grammar)
    (shaped : tree.Shaped)
    (above : tree.Above threshold)
    (cut : start = tree.tokens ++ rest) :
    tree.Completes grammar threshold start rest where
  isOver := isOver
  shaped := shaped
  above := above
  cut := ⟨tree.tokens, [], cut, (List.append_nil _).symm, by simp⟩

/-- A tree between two places was read to its end. -/
theorem ofSpans
    {levels : Nat}
    (spans : tree.SpansFrom grammar levels threshold start rest) :
    tree.Completes grammar threshold start rest :=
  .ofRead spans.isOver spans.shaped spans.above spans.cut

/-- Where nothing was read, a number completes the expression. -/
theorem ofNothing
    {read : String → Attempt Number}
    (fills : grammar.opening? .placeholder = some (.literal read))
    (threshold : Precedence)
    (rest : List Token) :
    (Tree.literal .placeholder read).Completes grammar threshold rest
      rest where
  isOver := fills
  shaped := trivial
  above := trivial
  cut := ⟨[], [.placeholder], rfl, rfl, by simp [Token.IsFiller]⟩

/-- An operator before its operand is completed with the operand. -/
theorem before
    {token : Token}
    {operation : UnaryOperation}
    {precedence : Precedence}
    (opens :
      grammar.opening? token = some (.operator operation precedence))
    (operand : tree.Completes grammar precedence behind rest) :
    (Tree.before token operation precedence tree).Completes grammar
      threshold (token :: behind) rest where
  isOver := ⟨opens, operand.isOver⟩
  shaped := ⟨operand.shaped, operand.above⟩
  above := trivial
  cut := by
    obtain ⟨passed, more, rfl, tokens, fillers⟩ := operand.cut
    exact ⟨token :: passed, more, rfl, by simp [Tree.tokens, tokens], fillers⟩

/-- An assignment is completed with its right side. -/
theorem assignment
    {name sign : Token}
    (opens : grammar.opening? name = some .name)
    (isSign : sign.isSymbol "=" = true)
    (value : tree.Completes grammar inner behind rest) :
    (Tree.assignment name sign tree).Completes grammar threshold
      (name :: sign :: behind) rest where
  isOver := ⟨opens, isSign, value.isOver⟩
  shaped := value.shaped
  above := trivial
  cut := by
    obtain ⟨passed, more, rfl, tokens, fillers⟩ := value.cut
    exact
      ⟨name :: sign :: passed, more, rfl, by simp [Tree.tokens, tokens],
        fillers⟩

/-- A group is completed with what is inside, and closed. -/
theorem group
    {opened : Token}
    (opens : grammar.opening? opened = some .group)
    (inside : tree.Completes grammar inner behind rest) :
    (Tree.group opened tree .closing).Completes grammar threshold
      (opened :: behind) rest where
  isOver := ⟨opens, inside.isOver, rfl⟩
  shaped := inside.shaped
  above := trivial
  cut := by
    obtain ⟨passed, more, rfl, tokens, fillers⟩ := inside.cut
    exact
      ⟨opened :: passed, more ++ [.closing], rfl,
        by simp [Tree.tokens, tokens],
        Token.forall_isFiller_append_closing fillers⟩

/-- A call is completed with its argument, and closed. -/
theorem call
    {name opened : Token}
    (opens : grammar.opening? name = some .name)
    (isOpened : opened.isSymbol "(" = true)
    (argument : tree.Completes grammar inner behind rest) :
    (Tree.call name opened tree .closing).Completes grammar threshold
      (name :: opened :: behind) rest where
  isOver := ⟨opens, isOpened, argument.isOver, rfl⟩
  shaped := argument.shaped
  above := trivial
  cut := by
    obtain ⟨passed, more, rfl, tokens, fillers⟩ := argument.cut
    exact
      ⟨name :: opened :: passed, more ++ [.closing], rfl,
        by simp [Tree.tokens, tokens],
        Token.forall_isFiller_append_closing fillers⟩

/-- A call whose argument has not begun is closed. -/
theorem emptyCall
    {name opened : Token}
    (opens : grammar.opening? name = some .name)
    (isOpened : opened.isSymbol "(" = true) :
    (Tree.emptyCall name opened .closing).Completes grammar threshold
      (name :: opened :: rest) rest where
  isOver := ⟨opens, isOpened, rfl⟩
  shaped := trivial
  above := trivial
  cut :=
    ⟨[name, opened], [.closing], rfl, rfl, by simp [Token.IsFiller]⟩

/-- An operator between two operands is completed with the right one. -/
theorem between
    {levels : Nat}
    {left : Tree}
    {token : Token}
    {operation : BinaryOperation}
    {precedence : Precedence}
    {associativity : Associativity}
    (spans :
      left.SpansFrom grammar levels threshold start (token :: behind))
    (known :
      grammar.continuation? token =
        some (.binary operation precedence associativity))
    (tight : threshold < precedence)
    (right :
      tree.Completes grammar
        (Evaluator.rightThreshold precedence associativity) behind rest) :
    (Tree.between left token operation precedence associativity
      tree).Completes grammar threshold start rest where
  isOver := ⟨spans.isOver, known, right.isOver⟩
  shaped :=
    ⟨spans.shaped, right.shaped, spans.yields token behind _ rfl known,
      right.above⟩
  above := ⟨tight, spans.above⟩
  cut := by
    obtain ⟨passed, more, rfl, tokens, fillers⟩ := right.cut
    exact
      ⟨left.tokens ++ token :: passed, more, by simp [spans.cut],
        by simp [Tree.tokens, tokens], fillers⟩

end Tree.Completes

/-- An exit inside an expression that the tokens passed so far begin. -/
structure Exit.Interrupts
    (grammar : Grammar)
    (threshold : Precedence)
    (start : List Token)
    (stream : TokenStream)
    (exit : Exit) : Prop where
  completed :
    ∃ tree : Tree, tree.Completes grammar threshold start stream.rest
  located : exit.Located stream

/-- An exit inside an operand is one inside the expression around it. -/
theorem Exit.Interrupts.around
    {grammar : Grammar}
    {threshold inner : Precedence}
    {start behind : List Token}
    {stream : TokenStream}
    {exit : Exit}
    (interrupts : exit.Interrupts grammar inner behind stream)
    {build : Tree → Tree}
    (completes :
      ∀ {tree : Tree},
        tree.Completes grammar inner behind stream.rest →
        (build tree).Completes grammar threshold start stream.rest) :
    exit.Interrupts grammar threshold start stream where
  completed := by
    obtain ⟨tree, inside⟩ := interrupts.completed
    exact ⟨build tree, completes inside⟩
  located := interrupts.located

namespace Step

variable {progress after : Progress}
variable {exit : Exit}

/-- An attempt that is semantic exits where it is made, and may do so anywhere. -/
theorem located_of_run_ofAttempt
    {attempt : Attempt Number}
    (semantic : attempt.Semantic)
    (ran : (ofAttempt attempt).run progress = .error exit after) :
    after = progress ∧ exit.Located after.stream := by
  cases semantic with
  | ok _ => cases ran
  | error allowed =>
      cases ran
      exact ⟨rfl, Exit.located_of_not_isSyntactic allowed _⟩

/-- An operation that is semantic exits where it is applied, and may do so anywhere. -/
theorem located_of_run_ofAttemptAt
    {token : Token}
    {attempt : Attempt Number}
    (semantic : attempt.Semantic)
    (ran : (ofAttemptAt token attempt).run progress = .error exit after) :
    after = progress ∧ exit.Located after.stream := by
  cases semantic with
  | ok _ => cases ran
  | error allowed =>
      cases ran
      exact
        ⟨rfl,
          Exit.located_of_not_isSyntactic
            (mt (Exit.isSyntactic_attributedTo _ _).1 allowed) _⟩

/-- A closing symbol is missed where it should be, or the exit comes behind it. -/
theorem exit_of_run_closing
    {β : Type}
    {symbol : String}
    {passed : Step β}
    {cause : Cause}
    (unbalanced : cause.kind = .unbalancedParentheses)
    (ran :
      (do
        if ← accept symbol then
          passed
        else
          failHere cause).run progress = .error exit after) :
    after = progress ∧ exit.Located after.stream ∨
      ∃ token rest,
        progress.stream.rest = token :: rest ∧
          token.isSymbol symbol = true ∧
          passed.run (progress.skip 1) = .error exit after := by
  rw [EStateM.run_bind] at ran
  cases next : progress.stream.nextIs symbol with
  | true =>
      obtain ⟨token, rest, shape, isSymbol⟩ :=
        TokenStream.exists_of_nextIs next
      rw [run_accept_of_next next] at ran
      exact Or.inr ⟨token, rest, shape, isSymbol, ran⟩
  | false =>
      rw [run_accept_of_not_next next] at ran
      cases ran
      refine Or.inl ⟨rfl, ?_⟩
      simp only [Exit.Located, Exit.placed, Failure.kind, unbalanced]

end Step

end Reckoner
