import Reckoner.Proofs.Evaluation.Advance
import Reckoner.Proofs.Syntax.Tree

namespace Reckoner

/-!
# Evaluating the text of a tree

Evaluating the tokens of a shaped tree computes the value of the tree. The evaluator
keeps a journal of assignments where the tree changes variables, and it goes on with
whatever follows the tree, so the statement is a simulation: an evaluation that
starts in front of the tokens of a tree is an evaluation that starts behind them
with the value and the variables of the tree.

The induction is over the tree. At the left edge the threshold is kept down to the
first operand, where `extendAll` takes over and meets the operators from the inside
out; at the right edge each open operand has to stop at the token that follows.
-/

/-- Punctuation has no meaning of its own, and every operator is above the bottom. -/
structure Grammar.Regular
    (grammar : Grammar) : Prop where
  signContinuesNothing :
    ∀ token,
      token.isSymbol "=" = true →
      grammar.continuation? token = none
  openedContinuesNothing :
    ∀ token,
      token.isSymbol "(" = true →
      grammar.continuation? token = none
  closedContinuesNothing :
    ∀ token,
      token.isSymbol ")" = true →
      grammar.continuation? token = none
  closedOpensNothing :
    ∀ token,
      token.isSymbol ")" = true →
      grammar.opening? token = none
  aboveBottom :
    ∀ token continuation,
      grammar.continuation? token = some continuation →
      .belowAssignment < continuation.precedence

/--
An evaluation does what a computation on the variables does. A value is passed on to
the continuation, with the stream behind the tokens that were read; an exit ends the
evaluation.
-/
def Simulates
    {β : Type}
    (before : Variables)
    (stream : TokenStream)
    (continuation : Number → Step β)
    (target : EStateM.Result Exit Progress β) :
    EStateM.Result Exit Variables Number →
    Prop
  | .ok value values =>
      ∃ assigned,
        Progress.values ⟨stream, assigned⟩ before = values ∧
          target = (continuation value).run ⟨stream, assigned⟩
  | .error exit values =>
      ∃ progress,
        progress.values before = values ∧ target = .error exit progress

namespace Simulates

variable {β : Type}
variable {before : Variables}
variable {stream : TokenStream}

/-- Only what the continuation does behind the tokens matters. -/
theorem congr
    {continuation other : Number → Step β}
    {target : EStateM.Result Exit Progress β}
    {result : EStateM.Result Exit Variables Number}
    (simulates : Simulates before stream continuation target result)
    (agree :
      ∀ value assigned,
        (continuation value).run ⟨stream, assigned⟩ =
          (other value).run ⟨stream, assigned⟩) :
    Simulates before stream other target result := by
  cases result with
  | ok value values =>
      obtain ⟨assigned, variablesAgree, ran⟩ := simulates
      exact ⟨assigned, variablesAgree, ran.trans (agree value assigned)⟩
  | error exit values =>
      exact simulates

/-- Simulations compose along the order of the computations. -/
theorem bind
    {middle : TokenStream}
    {first : Meaning Number}
    {next : Number → Meaning Number}
    {values : Variables}
    {continuation final : Number → Step β}
    {target : EStateM.Result Exit Progress β}
    (firstSimulates :
      Simulates before middle continuation target (first.run values))
    (nextSimulates :
      ∀ value assigned,
        Simulates before stream final
          ((continuation value).run ⟨middle, assigned⟩)
          ((next value).run (Progress.values ⟨middle, assigned⟩ before))) :
    Simulates before stream final target
      ((first >>= next).run values) := by
  rw [EStateM.run_bind]
  cases ran : first.run values with
  | ok value moved =>
      rw [ran] at firstSimulates
      obtain ⟨assigned, rfl, rfl⟩ := firstSimulates
      exact nextSimulates value assigned
  | error exit moved =>
      rw [ran] at firstSimulates
      exact firstSimulates

/-- The same attempt is made in both computations. -/
theorem attempt
    (attempt : Attempt Number)
    (assigned : List (String × Number))
    (continuation : Number → Step β) :
    Simulates before stream continuation
      ((Step.ofAttempt attempt >>= continuation).run ⟨stream, assigned⟩)
      ((Meaning.ofAttempt attempt).run
        (Progress.values ⟨stream, assigned⟩ before)) := by
  cases attempt with
  | ok value => exact ⟨assigned, rfl, rfl⟩
  | error exit => exact ⟨⟨stream, assigned⟩, rfl, rfl⟩

/-- The same operation is applied in both computations. -/
theorem operation
    (operator : Token)
    (attempt : Attempt Number)
    (assigned : List (String × Number))
    (continuation : Number → Step β) :
    Simulates before stream continuation
      ((Step.ofAttemptAt operator attempt >>= continuation).run
        ⟨stream, assigned⟩)
      ((Meaning.ofOperation operator attempt).run
        (Progress.values ⟨stream, assigned⟩ before)) := by
  cases attempt with
  | ok value => exact ⟨assigned, rfl, rfl⟩
  | error exit => exact ⟨⟨stream, assigned⟩, rfl, rfl⟩

end Simulates

/-- A token list that no expression read at a threshold goes on with. -/
def Grammar.StopsAt
    (grammar : Grammar)
    (threshold : Precedence)
    (rest : List Token) :
    Prop :=
  ∀ token later continuation,
    rest = token :: later →
    grammar.continuation? token = some continuation →
    continuation.precedence ≤ threshold

/-- Where a token list stops an expression, its value is final. -/
theorem Evaluator.run_extendAll_of_stopsAt
    {grammar : Grammar}
    {threshold : Precedence}
    {progress : Progress}
    (stops : grammar.StopsAt threshold progress.stream.rest)
    (evaluateInside : Evaluator)
    (value : Number) :
    (extendAll grammar evaluateInside threshold value).run progress =
      .ok value progress := by
  cases next : progress.stream.peek? with
  | none =>
      exact run_extendAll_of_exhausted _ _ _ _ next
  | some token =>
      obtain ⟨later, shape⟩ := TokenStream.peek?_eq_some_iff.1 next
      exact
        run_extendAll_of_loose _ _ _ _ next fun continuation known =>
          stops token later continuation shape known

namespace Tree

/-- What may come behind the tokens of a tree without becoming a part of it. -/
def FollowedBy
    (tree : Tree)
    (grammar : Grammar)
    (rest : List Token) :
    Prop :=
  ∀ token later,
    rest = token :: later →
    token.isSymbol "=" = false ∧ token.isSymbol "(" = false ∧
      ∀ continuation,
        grammar.continuation? token = some continuation →
        tree.Yields continuation.precedence

/--
Wherever the tokens of a tree are evaluated, with enough levels of nesting and at a
threshold below its left edge, the value of the tree is computed and then extended
by what follows.
-/
def ReadsBack
    (context : EvaluationContext)
    (tree : Tree) :
    Prop :=
  ∀ {levels threshold progress rest},
    tree.Above threshold →
    tree.levels ≤ levels + 1 →
    progress.stream.rest = tree.tokens ++ rest →
    tree.FollowedBy context.grammar rest →
    Simulates context.environment.values
      (progress.stream.skip tree.tokens.length)
      (fun value =>
        some <$> Evaluator.extendAll context.grammar
          (Evaluator.evaluate context levels) threshold value)
      ((Evaluator.evaluate context (levels + 1) threshold).run progress)
      ((tree.evaluate context.environment.functions).run
        (progress.values context.environment.values))

/-- In a regular grammar the operators of a tree are all above the bottom. -/
theorem above_belowAssignment
    {grammar : Grammar}
    (regular : grammar.Regular)
    {tree : Tree}
    (isOver : tree.Over grammar) :
    tree.Above .belowAssignment := by
  induction tree with
  | between left operator operation precedence associativity right
      leftHypothesis rightHypothesis =>
      exact
        ⟨regular.aboveBottom operator _ isOver.2.1, leftHypothesis isOver.1⟩
  | after operand operator operation precedence inductionHypothesis =>
      exact
        ⟨regular.aboveBottom operator _ isOver.2, inductionHypothesis isOver.1⟩
  | _ => trivial

/-- A closing parenthesis ends whatever is inside. -/
theorem followedBy_closed
    {grammar : Grammar}
    (regular : grammar.Regular)
    (tree : Tree)
    {closed : Token}
    (closes : closed.isSymbol ")" = true)
    (later : List Token) :
    tree.FollowedBy grammar (closed :: later) := by
  intro token others same
  cases same
  refine ⟨Token.isSymbol_eq_false closes (by decide),
    Token.isSymbol_eq_false closes (by decide),
    fun continuation known => ?_⟩
  rw [regular.closedContinuesNothing closed closes] at known
  cases known

/-- An operator that a tree yields to may follow it. -/
theorem followedBy_operator
    {grammar : Grammar}
    (regular : grammar.Regular)
    {tree : Tree}
    {operator : Token}
    {continuation : Continuation}
    (known : grammar.continuation? operator = some continuation)
    (yields : tree.Yields continuation.precedence)
    (later : List Token) :
    tree.FollowedBy grammar (operator :: later) := by
  intro token others same
  cases same
  refine ⟨?_, ?_, fun other otherKnown => ?_⟩
  · cases sign : operator.isSymbol "=" with
    | false => rfl
    | true =>
        rw [regular.signContinuesNothing operator sign] at known
        cases known
  · cases opened : operator.isSymbol "(" with
    | false => rfl
    | true =>
        rw [regular.openedContinuesNothing operator opened] at known
        cases known
  · rw [known] at otherKnown
    cases otherKnown
    exact yields

/-- A closing parenthesis stops every expression. -/
theorem stopsAt_closed
    {grammar : Grammar}
    (regular : grammar.Regular)
    (threshold : Precedence)
    {closed : Token}
    (closes : closed.isSymbol ")" = true)
    (later : List Token) :
    grammar.StopsAt threshold (closed :: later) := by
  intro token others continuation same known
  cases same
  rw [regular.closedContinuesNothing closed closes] at known
  cases known

/-- What follows a tree follows its open operand, and stops that operand. -/
theorem FollowedBy.openOperand
    {grammar : Grammar}
    {tree : Tree}
    {rest : List Token}
    (followed : tree.FollowedBy grammar rest)
    (operand : Tree)
    (threshold : Precedence)
    (isOpen :
      ∀ precedence,
        tree.Yields precedence →
        precedence ≤ threshold ∧ operand.Yields precedence) :
    operand.FollowedBy grammar rest ∧ grammar.StopsAt threshold rest := by
  constructor
  · intro token later same
    obtain ⟨noSign, noCall, yields⟩ := followed token later same
    exact ⟨noSign, noCall, fun continuation known =>
      (isOpen _ (yields continuation known)).2⟩
  · intro token later continuation same known
    obtain ⟨_, _, yields⟩ := followed token later same
    exact (isOpen _ (yields continuation known)).1

namespace ReadsBack

variable {context : EvaluationContext}

/-- An expression inside another one is read back if it is stopped behind it. -/
theorem inside
    {β : Type}
    {tree : Tree}
    {levels : Nat}
    {threshold : Precedence}
    {progress : Progress}
    {rest : List Token}
    {behind : TokenStream}
    (reads : tree.ReadsBack context)
    (above : tree.Above threshold)
    (enough : tree.levels ≤ levels)
    (shape : progress.stream.rest = tree.tokens ++ rest)
    (followed : tree.FollowedBy context.grammar rest)
    (stops : context.grammar.StopsAt threshold rest)
    (arrives : progress.stream.skip tree.tokens.length = behind)
    (next : Option Number → Step β) :
    Simulates context.environment.values behind
      (fun value => next (some value))
      ((Evaluator.evaluate context levels threshold >>= next).run progress)
      ((tree.evaluate context.environment.functions).run
        (progress.values context.environment.values)) := by
  subst arrives
  obtain ⟨fewer, rfl⟩ : ∃ fewer, levels = fewer + 1 :=
    ⟨levels - 1, by have := tree.levels_pos; omega⟩
  have simulated := reads above enough shape followed
  rw [EStateM.run_bind]
  cases computed :
      (tree.evaluate context.environment.functions).run
        (progress.values context.environment.values) with
  | ok value values =>
      rw [computed] at simulated
      obtain ⟨assigned, variablesAgree, evaluated⟩ := simulated
      have behind :
          (progress.stream.skip tree.tokens.length).rest = rest := by
        simp [shape]
      have stopsBehind :
          context.grammar.StopsAt threshold
            (progress.stream.skip tree.tokens.length).rest := by
        rw [behind]
        exact stops
      refine ⟨assigned, variablesAgree, ?_⟩
      rw [evaluated, Step.run_map,
        Evaluator.run_extendAll_of_stopsAt stopsBehind]
  | error exit values =>
      rw [computed] at simulated
      obtain ⟨failed, variablesAgree, evaluated⟩ := simulated
      refine ⟨failed, variablesAgree, ?_⟩
      rw [evaluated]

/-- A closing parenthesis is passed where it is needed. -/
theorem run_closing
    {β : Type}
    {closed : Token}
    {rest : List Token}
    {progress : Progress}
    (closes : closed.isSymbol ")" = true)
    (shape : progress.stream.rest = closed :: rest)
    (next : Bool → Step β) :
    (Step.accept ")" >>= next).run progress =
      (next true).run (progress.skip 1) := by
  have closedNext : progress.stream.nextIs ")" = true := by
    rw [TokenStream.nextIs_cons shape]
    exact closes
  rw [EStateM.run_bind, Step.run_accept_of_next closedNext]

/-- A literal is read from its token. -/
theorem literal
    {token : Token}
    {read : String → Attempt Number}
    (isOver : (Tree.literal token read).Over context.grammar) :
    (Tree.literal token read).ReadsBack context := by
  intro levels threshold progress rest _ _ shape _
  have next : progress.stream.peek? = some token :=
    TokenStream.peek?_eq_some_iff.2 ⟨rest, shape⟩
  rw [Evaluator.run_evaluate_of_opening _ _ _ next isOver]
  exact Simulates.operation token _ progress.assigned _

/-- A reference looks its name up, unless an assignment or a call follows. -/
theorem reference
    {name : Token}
    (isOver : (Tree.reference name).Over context.grammar) :
    (Tree.reference name).ReadsBack context := by
  intro levels threshold progress rest _ _ shape followed
  have next : progress.stream.peek? = some name :=
    TokenStream.peek?_eq_some_iff.2 ⟨rest, shape⟩
  have behind : (progress.skip 1).stream.rest = rest := by
    simp [shape, tokens]
  have noSign : (progress.skip 1).stream.nextIs "=" = false := by
    cases rest with
    | nil => exact TokenStream.nextIs_nil behind "="
    | cons token later =>
        rw [TokenStream.nextIs_cons behind]
        exact (followed token later rfl).1
  have noCall : (progress.skip 1).stream.nextIs "(" = false := by
    cases rest with
    | nil => exact TokenStream.nextIs_nil behind "("
    | cons token later =>
        rw [TokenStream.nextIs_cons behind]
        exact (followed token later rfl).2.1
  rw [Evaluator.run_evaluate_of_opening _ _ _ next isOver]
  simp only [Evaluator.openWith, EStateM.run_bind,
    Evaluator.run_name_of_neither _ _ _ noSign noCall]
  rw [← EStateM.run_bind]
  exact Simulates.attempt _ progress.assigned _

/-- An assignment reads its right side to the end of its surroundings. -/
theorem assignment
    (regular : context.grammar.Regular)
    {name sign : Token}
    {value : Tree}
    (isOver : (Tree.assignment name sign value).Over context.grammar)
    (reads : value.ReadsBack context) :
    (Tree.assignment name sign value).ReadsBack context := by
  intro levels threshold progress rest _ enough shape followed
  obtain ⟨opens, isSign, valueOver⟩ := isOver
  have next : progress.stream.peek? = some name :=
    TokenStream.peek?_eq_some_iff.2 ⟨_, shape⟩
  have behindName :
      (progress.skip 1).stream.rest = sign :: (value.tokens ++ rest) := by
    simp [shape, tokens]
  have signNext : (progress.skip 1).stream.nextIs "=" = true := by
    rw [TokenStream.nextIs_cons behindName]
    exact isSign
  obtain ⟨valueFollowed, stops⟩ :=
    followed.openOperand value .belowAssignment fun _ yields => yields
  rw [Evaluator.run_evaluate_of_opening _ _ _ next opens]
  simp only [Evaluator.openWith, EStateM.run_bind,
    Evaluator.run_name_of_sign _ _ _ signNext]
  simp only [← EStateM.run_bind, bind_assoc]
  rw [Progress.skip_skip]
  refine
    (reads.inside (above_belowAssignment regular valueOver)
      (Nat.le_of_succ_le_succ enough) (by simp [shape, tokens])
      valueFollowed stops
      (TokenStream.skip_skip_eq _ (Nat.add_comm _ _)) _).bind
        fun number assigned => ?_
  exact
    ⟨(name.lexeme, number) :: assigned,
      Progress.values_assign ⟨_, assigned⟩ name.lexeme number _, rfl⟩

/-- A call without an argument. -/
theorem emptyCall
    {name opened closed : Token}
    (isOver : (Tree.emptyCall name opened closed).Over context.grammar) :
    (Tree.emptyCall name opened closed).ReadsBack context := by
  intro levels threshold progress rest _ _ shape _
  obtain ⟨opens, isOpened, isClosed⟩ := isOver
  have next : progress.stream.peek? = some name :=
    TokenStream.peek?_eq_some_iff.2 ⟨_, shape⟩
  have behindName :
      (progress.skip 1).stream.rest = opened :: closed :: rest := by
    simp [shape, tokens]
  have behindOpened :
      ((progress.skip 1).skip 1).stream.rest = closed :: rest := by
    simp [shape, tokens]
  have openedNext : (progress.skip 1).stream.nextIs "(" = true := by
    rw [TokenStream.nextIs_cons behindName]
    exact isOpened
  have noSign : (progress.skip 1).stream.nextIs "=" = false := by
    rw [TokenStream.nextIs_cons behindName]
    exact Token.isSymbol_eq_false isOpened (by decide)
  have closedNext :
      ((progress.skip 1).skip 1).stream.nextIs ")" = true := by
    rw [TokenStream.nextIs_cons behindOpened]
    exact isClosed
  rw [Evaluator.run_evaluate_of_opening _ _ _ next opens]
  simp only [Evaluator.openWith, EStateM.run_bind,
    Evaluator.run_name_of_opened _ _ _ openedNext noSign,
    Evaluator.run_argument_of_closed _ closedNext,
    Step.run_accept_of_next closedNext, if_true]
  rw [← EStateM.run_bind, Progress.skip_skip, Progress.skip_skip]
  exact Simulates.attempt _ progress.assigned _

/-- A call with an argument. -/
theorem call
    (regular : context.grammar.Regular)
    {name opened closed : Token}
    {argument : Tree}
    (isOver : (Tree.call name opened argument closed).Over context.grammar)
    (reads : argument.ReadsBack context) :
    (Tree.call name opened argument closed).ReadsBack context := by
  intro levels threshold progress rest _ enough shape _
  obtain ⟨opens, isOpened, argumentOver, isClosed⟩ := isOver
  have next : progress.stream.peek? = some name :=
    TokenStream.peek?_eq_some_iff.2 ⟨_, shape⟩
  have behindName :
      (progress.skip 1).stream.rest =
        opened :: (argument.tokens ++ closed :: rest) := by
    simp [shape, tokens]
  have behindOpened :
      ((progress.skip 1).skip 1).stream.rest =
        argument.tokens ++ closed :: rest := by
    simp [shape, tokens]
  have openedNext : (progress.skip 1).stream.nextIs "(" = true := by
    rw [TokenStream.nextIs_cons behindName]
    exact isOpened
  have noSign : (progress.skip 1).stream.nextIs "=" = false := by
    rw [TokenStream.nextIs_cons behindName]
    exact Token.isSymbol_eq_false isOpened (by decide)
  have notClosed :
      ((progress.skip 1).skip 1).stream.nextIs ")" = false := by
    obtain ⟨first, later, opening, argumentShape, known⟩ :=
      exists_opening argumentOver
    rw [argumentShape, List.cons_append] at behindOpened
    rw [TokenStream.nextIs_cons behindOpened]
    cases closes : first.isSymbol ")" with
    | false => rfl
    | true =>
        rw [regular.closedOpensNothing first closes] at known
        cases known
  rw [Evaluator.run_evaluate_of_opening _ _ _ next opens]
  simp only [Evaluator.openWith, EStateM.run_bind,
    Evaluator.run_name_of_opened _ _ _ openedNext noSign,
    Evaluator.run_argument_of_not_closed _ notClosed]
  simp only [← EStateM.run_bind, bind_assoc]
  refine
    (reads.inside (above_belowAssignment regular argumentOver)
      (Nat.le_of_succ_le_succ enough) behindOpened
      (followedBy_closed regular argument isClosed rest)
      (stopsAt_closed regular _ isClosed rest) rfl _).bind
        fun number assigned => ?_
  have behindArgument :
      (((progress.skip 1).skip 1).stream.skip argument.tokens.length).rest =
        closed :: rest := by
    simp only [TokenStream.rest_skip, behindOpened, List.drop_left]
  rw [run_closing isClosed behindArgument]
  have arrives :
      (((progress.skip 1).skip 1).stream.skip
          argument.tokens.length).skip 1 =
        progress.stream.skip
          (Tree.call name opened argument closed).tokens.length := by
    simp only [Progress.stream_skip, TokenStream.skip_skip, tokens,
      List.length_cons, List.length_append, List.length_nil]
    congr 1
    omega
  rw [← arrives]
  exact Simulates.attempt _ assigned _

/-- The value of a group is passed on as it is. -/
private theorem evaluate_group
    (functions : Functions)
    (opened closed : Token)
    (inside : Tree) :
    (Tree.group opened inside closed).evaluate functions =
      inside.evaluate functions >>= pure :=
  (bind_pure _).symm

/-- A group is read to its closing parenthesis. -/
theorem group
    (regular : context.grammar.Regular)
    {opened closed : Token}
    {inside : Tree}
    (isOver : (Tree.group opened inside closed).Over context.grammar)
    (reads : inside.ReadsBack context) :
    (Tree.group opened inside closed).ReadsBack context := by
  intro levels threshold progress rest _ enough shape _
  obtain ⟨opens, insideOver, isClosed⟩ := isOver
  have next : progress.stream.peek? = some opened :=
    TokenStream.peek?_eq_some_iff.2 ⟨_, shape⟩
  have behindOpened :
      (progress.skip 1).stream.rest = inside.tokens ++ closed :: rest := by
    simp [shape, tokens]
  rw [Evaluator.run_evaluate_of_opening _ _ _ next opens]
  simp only [Evaluator.openWith, bind_assoc]
  rw [evaluate_group]
  refine
    (reads.inside (above_belowAssignment regular insideOver)
      (Nat.le_of_succ_le_succ enough) behindOpened
      (followedBy_closed regular inside isClosed rest)
      (stopsAt_closed regular _ isClosed rest) rfl _).bind
        fun number assigned => ?_
  have behindInside :
      ((progress.skip 1).stream.skip inside.tokens.length).rest =
        closed :: rest := by
    simp only [TokenStream.rest_skip, behindOpened, List.drop_left]
  simp only [Step.operandOf_some, pure_bind]
  rw [run_closing isClosed behindInside]
  have arrives :
      ((progress.skip 1).stream.skip inside.tokens.length).skip 1 =
        progress.stream.skip
          (Tree.group opened inside closed).tokens.length := by
    simp only [Progress.stream_skip, TokenStream.skip_skip, tokens,
      List.length_cons, List.length_append, List.length_nil]
    congr 1
    omega
  rw [← arrives]
  exact ⟨assigned, rfl, rfl⟩

/-- An operator before its operand reads it at its own precedence. -/
theorem before
    {operator : Token}
    {operation : UnaryOperation}
    {precedence : Precedence}
    {operand : Tree}
    (isOver :
      (Tree.before operator operation precedence operand).Over
        context.grammar)
    (above : operand.Above precedence)
    (reads : operand.ReadsBack context) :
    (Tree.before operator operation precedence operand).ReadsBack
      context := by
  intro levels threshold progress rest _ enough shape followed
  obtain ⟨opens, operandOver⟩ := isOver
  have next : progress.stream.peek? = some operator :=
    TokenStream.peek?_eq_some_iff.2 ⟨_, shape⟩
  obtain ⟨operandFollowed, stops⟩ :=
    followed.openOperand operand precedence fun _ yields => yields
  rw [Evaluator.run_evaluate_of_opening _ _ _ next opens]
  simp only [Evaluator.openWith, bind_assoc]
  refine
    (reads.inside above (Nat.le_of_succ_le_succ enough)
      (by simp [shape, tokens]) operandFollowed stops
      (TokenStream.skip_skip_eq _ (Nat.add_comm _ _)) _).bind
        fun number assigned => ?_
  exact Simulates.operation operator _ assigned _

/-- An operator that is tight enough goes on from the value in front of it. -/
theorem run_some_extendAll
    {levels : Nat}
    {threshold : Precedence}
    {progress : Progress}
    {operator : Token}
    {later : List Token}
    {continuation : Continuation}
    (shape : progress.stream.rest = operator :: later)
    (known : context.grammar.continuation? operator = some continuation)
    (tight : threshold < continuation.precedence)
    (value : Number) :
    (some <$> Evaluator.extendAll context.grammar
        (Evaluator.evaluate context levels) threshold value).run progress =
      (do
        let extended ←
          Evaluator.continueWith (Evaluator.evaluate context levels) value
            operator continuation
        some <$> Evaluator.extendAll context.grammar
          (Evaluator.evaluate context levels) threshold extended).run
            (progress.skip 1) := by
  have next : progress.stream.peek? = some operator :=
    TokenStream.peek?_eq_some_iff.2 ⟨later, shape⟩
  have forward := Evaluator.movesForward_evaluate context levels
  rw [← bind_pure_comp, EStateM.run_bind,
    Evaluator.run_extendAll_of_tight forward threshold value next known
      tight,
    ← EStateM.run_bind, bind_assoc]
  simp only [bind_pure_comp]

/-- An operator between two operands takes the left one and reads the right one. -/
theorem between
    (regular : context.grammar.Regular)
    {left right : Tree}
    {operator : Token}
    {operation : BinaryOperation}
    {precedence : Precedence}
    {associativity : Associativity}
    (isOver :
      (Tree.between left operator operation precedence associativity
        right).Over context.grammar)
    (yields : left.Yields precedence)
    (rightAbove :
      right.Above (Evaluator.rightThreshold precedence associativity))
    (leftReads : left.ReadsBack context)
    (rightReads : right.ReadsBack context) :
    (Tree.between left operator operation precedence associativity
      right).ReadsBack context := by
  intro levels threshold progress rest above enough shape followed
  obtain ⟨leftOver, known, rightOver⟩ := isOver
  obtain ⟨tight, leftAbove⟩ := above
  have leftEnough : left.levels ≤ levels + 1 :=
    Nat.le_trans (Nat.le_max_left _ _) enough
  have rightEnough : right.levels ≤ levels :=
    Nat.le_of_succ_le_succ (Nat.le_trans (Nat.le_max_right _ _) enough)
  obtain ⟨rightFollowed, stops⟩ :=
    followed.openOperand right
      (Evaluator.rightThreshold precedence associativity)
      fun _ yields => yields
  have leftShape :
      progress.stream.rest =
        left.tokens ++ operator :: (right.tokens ++ rest) := by
    simp [shape, tokens]
  have behindLeft :
      (progress.stream.skip left.tokens.length).rest =
        operator :: (right.tokens ++ rest) := by
    simp only [TokenStream.rest_skip, leftShape, List.drop_left]
  have behindOperator :
      ((progress.stream.skip left.tokens.length).skip 1).rest =
        right.tokens ++ rest := by
    rw [TokenStream.rest_skip, behindLeft]
    rfl
  have arrives :
      ((progress.stream.skip left.tokens.length).skip 1).skip
          right.tokens.length =
        progress.stream.skip
          (Tree.between left operator operation precedence associativity
            right).tokens.length := by
    simp only [TokenStream.skip_skip, tokens, List.length_append,
      List.length_cons]
    congr 1
    omega
  refine
    (leftReads leftAbove leftEnough leftShape
      (followedBy_operator regular known yields _)).bind
        fun leftNumber leftAssigned => ?_
  rw [run_some_extendAll behindLeft known tight]
  simp only [Evaluator.continueWith, bind_assoc]
  refine
    (rightReads.inside rightAbove rightEnough behindOperator rightFollowed
      stops arrives _).bind fun rightNumber rightAssigned => ?_
  exact Simulates.operation operator _ rightAssigned _

/-- An operator after its operand takes the value in front of it. -/
theorem after
    (regular : context.grammar.Regular)
    {operand : Tree}
    {operator : Token}
    {operation : UnaryOperation}
    {precedence : Precedence}
    (isOver :
      (Tree.after operand operator operation precedence).Over
        context.grammar)
    (yields : operand.Yields precedence)
    (reads : operand.ReadsBack context) :
    (Tree.after operand operator operation precedence).ReadsBack
      context := by
  intro levels threshold progress rest above enough shape _
  obtain ⟨operandOver, known⟩ := isOver
  obtain ⟨tight, operandAbove⟩ := above
  have operandShape :
      progress.stream.rest = operand.tokens ++ operator :: rest := by
    simp [shape, tokens]
  have behindOperand :
      (progress.stream.skip operand.tokens.length).rest =
        operator :: rest := by
    simp only [TokenStream.rest_skip, operandShape, List.drop_left]
  have arrives :
      (progress.stream.skip operand.tokens.length).skip 1 =
        progress.stream.skip
          (Tree.after operand operator operation precedence).tokens.length := by
    simp [tokens]
  refine
    (reads operandAbove enough operandShape
      (followedBy_operator regular known yields _)).bind
        fun number assigned => ?_
  rw [run_some_extendAll behindOperand known tight, ← arrives]
  exact Simulates.operation operator _ assigned _

end ReadsBack

/-- Every shaped tree over a regular grammar is read back. -/
theorem readsBack
    {context : EvaluationContext}
    (regular : context.grammar.Regular)
    {tree : Tree}
    (isOver : tree.Over context.grammar)
    (shaped : tree.Shaped) :
    tree.ReadsBack context := by
  induction tree with
  | literal token read =>
      exact ReadsBack.literal isOver
  | reference name =>
      exact ReadsBack.reference isOver
  | assignment name sign value inductionHypothesis =>
      exact ReadsBack.assignment regular isOver
        (inductionHypothesis isOver.2.2 shaped)
  | emptyCall name opened closed =>
      exact ReadsBack.emptyCall isOver
  | call name opened argument closed inductionHypothesis =>
      exact ReadsBack.call regular isOver
        (inductionHypothesis isOver.2.2.1 shaped)
  | group opened inside closed inductionHypothesis =>
      exact ReadsBack.group regular isOver
        (inductionHypothesis isOver.2.1 shaped)
  | before operator operation precedence operand inductionHypothesis =>
      exact ReadsBack.before isOver shaped.2
        (inductionHypothesis isOver.2 shaped.1)
  | between left operator operation precedence associativity right
      leftHypothesis rightHypothesis =>
      exact ReadsBack.between regular isOver shaped.2.2.1 shaped.2.2.2
        (leftHypothesis isOver.1 shaped.1)
        (rightHypothesis isOver.2.2 shaped.2.1)
  | after operand operator operation precedence inductionHypothesis =>
      exact ReadsBack.after regular isOver shaped.2
        (inductionHypothesis isOver.1 shaped.1)

end Tree

end Reckoner
