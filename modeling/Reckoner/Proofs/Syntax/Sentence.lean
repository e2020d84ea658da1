import Reckoner.Proofs.Evaluation.Operations
import Reckoner.Proofs.Syntax.Derivation

namespace Reckoner

/-!
# Sentences

The tokens of a derivation are a sentence. Every derivation shows a shaped tree: what
the phrases allow at an edge is what precedence allows there. So a sentence has the
result of its tree, and the tree has operations, functions and variables that may
fail, but no syntax that could be wrong.
-/

namespace Grammar

/-- Numbers are literals in the standard grammar. -/
theorem opening?_of_isNumber
    {token : Token}
    (isNumber : token.kind = .number) :
    frozenStandard.opening? token = some (.literal Arithmetic.number) := by
  simp only [opening?, SlotKey.ofToken, isNumber]
  rfl

/-- Identifiers are names in the standard grammar. -/
theorem opening?_of_isIdentifier
    {token : Token}
    (isName : token.kind = .identifier) :
    frozenStandard.opening? token = some .name := by
  simp only [opening?, SlotKey.ofToken, isName]
  rfl

/-- A parenthesis opens a group in the standard grammar. -/
theorem opening?_of_isOpened
    {token : Token}
    (isOpened : token.isSymbol "(" = true) :
    frozenStandard.opening? token = some .group := by
  rw [opening?, slot_of_isSymbol isOpened]
  rfl

/-- A minus sign negates in the standard grammar. -/
theorem opening?_of_isMinus
    {token : Token}
    (isMinus : token.isSymbol "-" = true) :
    frozenStandard.opening? token =
      some (.operator Arithmetic.negate .beforeOperand) := by
  rw [opening?, slot_of_isSymbol isMinus]
  rfl

/-- The operators of sums continue values in the standard grammar. -/
theorem continuation?_of_mem_sumOperators
    {token : Token}
    {symbol : String}
    {operation : BinaryOperation}
    (known : (symbol, operation) ∈ sumOperators)
    (isOperator : token.isSymbol symbol = true) :
    frozenStandard.continuation? token =
      some (.binary operation .sum .left) := by
  simp only [sumOperators, List.mem_cons, Prod.mk.injEq, List.not_mem_nil,
    or_false] at known
  rw [continuation?, slot_of_isSymbol isOperator]
  rcases known with ⟨rfl, rfl⟩ | ⟨rfl, rfl⟩ <;> rfl

/-- The operators of products continue values in the standard grammar. -/
theorem continuation?_of_mem_productOperators
    {token : Token}
    {symbol : String}
    {operation : BinaryOperation}
    (known : (symbol, operation) ∈ productOperators)
    (isOperator : token.isSymbol symbol = true) :
    frozenStandard.continuation? token =
      some (.binary operation .product .left) := by
  simp only [productOperators, List.mem_cons, Prod.mk.injEq,
    List.not_mem_nil, or_false] at known
  rw [continuation?, slot_of_isSymbol isOperator]
  rcases known with ⟨rfl, rfl⟩ | ⟨rfl, rfl⟩ | ⟨rfl, rfl⟩ <;> rfl

/-- The operator of powers continues values in the standard grammar. -/
theorem continuation?_of_isPower
    {token : Token}
    (isOperator : token.isSymbol "^" = true) :
    frozenStandard.continuation? token =
      some (.binary Arithmetic.power .exponent .right) := by
  rw [continuation?, slot_of_isSymbol isOperator]
  rfl

/-- The sign of factorials continues values in the standard grammar. -/
theorem continuation?_of_isFactorial
    {token : Token}
    (isSign : token.isSymbol "!" = true) :
    frozenStandard.continuation? token =
      some (.trailing Arithmetic.factorial .factorial) := by
  rw [continuation?, slot_of_isSymbol isSign]
  rfl

end Grammar

namespace Phrase

/-- The tightest operator that may follow a phrase without becoming a part of it. -/
def limit : Phrase → Precedence
  | sum => .sum
  | product => .product
  | power => .product
  | postfixed => .beforeOperand
  | prefixed => .beforeOperand

end Phrase

/--
What the phrases say about a tree: no operator at its left edge is looser than its
phrase admits, and at an inner edge it yields to the operators of looser phrases.
-/
structure Tree.FitsIn
    (phrase : Phrase)
    (edge : Edge)
    (tree : Tree) : Prop where
  isOver : tree.Over Grammar.frozenStandard
  shaped : tree.Shaped
  above : tree.Above phrase.threshold
  yields :
    edge = .inner →
    ∀ precedence, precedence ≤ phrase.limit → tree.Yields precedence

/-- What fits into a tight phrase fits into one that admits more operators. -/
theorem Tree.FitsIn.loosen
    {tight loose : Phrase}
    {edge : Edge}
    {tree : Tree}
    (fits : tree.FitsIn tight edge)
    (looser : loose.threshold ≤ tight.threshold)
    (sooner : loose.limit ≤ tight.limit) :
    tree.FitsIn loose edge where
  isOver := fits.isOver
  shaped := fits.shaped
  above := fits.above.mono looser
  yields inner precedence within :=
    fits.yields inner precedence (Int.le_trans within sooner)

/-- A derived tree is shaped, and fits into the phrase it is derived from. -/
theorem Derives.fitsIn
    {phrase : Phrase}
    {edge : Edge}
    {tree : Tree}
    (derived : Derives phrase edge tree) :
    tree.FitsIn phrase edge := by
  induction derived with
  | number isNumber =>
      exact {
        isOver := Grammar.opening?_of_isNumber isNumber
        shaped := trivial
        above := trivial
        yields := fun _ _ _ => trivial
      }
  | reference isName =>
      exact {
        isOver := Grammar.opening?_of_isIdentifier isName
        shaped := trivial
        above := trivial
        yields := fun _ _ _ => trivial
      }
  | assignment isName isSign valueDerived value =>
      exact {
        isOver :=
          ⟨Grammar.opening?_of_isIdentifier isName, isSign, value.isOver⟩
        shaped := value.shaped
        above := trivial
        yields := fun impossible => by cases impossible
      }
  | emptyCall isName isOpened isClosed =>
      exact {
        isOver :=
          ⟨Grammar.opening?_of_isIdentifier isName, isOpened, isClosed⟩
        shaped := trivial
        above := trivial
        yields := fun _ _ _ => trivial
      }
  | call isName isOpened argumentDerived isClosed argument =>
      exact {
        isOver :=
          ⟨Grammar.opening?_of_isIdentifier isName, isOpened,
            argument.isOver, isClosed⟩
        shaped := argument.shaped
        above := trivial
        yields := fun _ _ _ => trivial
      }
  | group isOpened insideDerived isClosed inside =>
      exact {
        isOver :=
          ⟨Grammar.opening?_of_isOpened isOpened, inside.isOver, isClosed⟩
        shaped := inside.shaped
        above := trivial
        yields := fun _ _ _ => trivial
      }
  | negation isSign operandDerived operand =>
      exact {
        isOver := ⟨Grammar.opening?_of_isMinus isSign, operand.isOver⟩
        shaped := ⟨operand.shaped, operand.above⟩
        above := trivial
        yields := fun inner precedence within =>
          ⟨within, operand.yields inner precedence within⟩
      }
  | ofPrefixed derived fits => exact fits.loosen (by decide) (by decide)
  | factorial operandDerived isSign operand =>
      exact {
        isOver :=
          ⟨operand.isOver, Grammar.continuation?_of_isFactorial isSign⟩
        shaped := ⟨operand.shaped, operand.yields rfl _ (by decide)⟩
        above := ⟨by decide, operand.above⟩
        yields := fun _ _ _ => trivial
      }
  | ofPostfixed derived fits => exact fits.loosen (by decide) (by decide)
  | power leftDerived isOperator rightDerived left right =>
      exact {
        isOver :=
          ⟨left.isOver, Grammar.continuation?_of_isPower isOperator,
            right.isOver⟩
        shaped :=
          ⟨left.shaped, right.shaped, left.yields rfl _ (by decide),
            right.above⟩
        above := ⟨by decide, left.above.mono (by decide)⟩
        yields := fun inner precedence within =>
          ⟨within, right.yields inner precedence within⟩
      }
  | ofPower derived fits => exact fits.loosen (by decide) (by decide)
  | product leftDerived known isOperator rightDerived left right =>
      exact {
        isOver :=
          ⟨left.isOver,
            Grammar.continuation?_of_mem_productOperators known isOperator,
            right.isOver⟩
        shaped :=
          ⟨left.shaped, right.shaped, left.yields rfl _ (by decide),
            right.above⟩
        above := ⟨by decide, left.above⟩
        yields := fun inner precedence within =>
          ⟨within, right.yields inner precedence within⟩
      }
  | ofProduct derived fits => exact fits.loosen (by decide) (by decide)
  | sum leftDerived known isOperator rightDerived left right =>
      exact {
        isOver :=
          ⟨left.isOver,
            Grammar.continuation?_of_mem_sumOperators known isOperator,
            right.isOver⟩
        shaped :=
          ⟨left.shaped, right.shaped, left.yields rfl _ (by decide),
            right.above⟩
        above := ⟨by decide, left.above⟩
        yields := fun inner precedence within =>
          ⟨within,
            right.yields inner precedence
              (Int.le_trans within (by decide))⟩
      }

namespace Meaning

variable {attempt : Attempt Number}
variable {values after : Variables}
variable {exit : Exit}

/-- What is not raised by an attempt is not raised by making it. -/
theorem not_isSyntactic_of_ofAttempt
    (semantic : attempt.Semantic)
    (ran : (ofAttempt attempt).run values = .error exit after) :
    ¬ exit.IsSyntactic := by
  cases semantic with
  | ok _ => cases ran
  | error allowed =>
      cases ran
      exact allowed

/-- What is not raised by an operation is not raised at its operator. -/
theorem not_isSyntactic_of_ofOperation
    {operator : Token}
    (semantic : attempt.Semantic)
    (ran : (ofOperation operator attempt).run values = .error exit after) :
    ¬ exit.IsSyntactic := by
  cases semantic with
  | ok _ => cases ran
  | error allowed =>
      cases ran
      exact mt (Exit.isSyntactic_attributedTo _ _).1 allowed

end Meaning

/-- Computing a tree raises no errors of syntax. -/
theorem Tree.not_isSyntactic_of_evaluate
    {grammar : Grammar}
    (semantic : grammar.Semantic)
    {tree : Tree}
    (isOver : tree.Over grammar)
    {functions : Functions}
    {values after : Variables}
    {exit : Exit}
    (ran : (tree.evaluate functions).run values = .error exit after) :
    ¬ exit.IsSyntactic := by
  induction tree generalizing values after with
  | literal token read =>
      exact
        Meaning.not_isSyntactic_of_ofOperation (semantic.literal isOver) ran
  | reference name =>
      exact
        Meaning.not_isSyntactic_of_ofAttempt (semantic_boundValue _ _ _) ran
  | assignment name sign value inductionHypothesis =>
      rcases exit_of_run_bind ran with inside | ⟨number, moved, _, rest⟩
      · exact inductionHypothesis isOver.2.2 inside
      · cases rest
  | emptyCall name opened closed =>
      exact
        Meaning.not_isSyntactic_of_ofAttempt
          (functions.semantic_value _ _ _) ran
  | call name opened argument closed inductionHypothesis =>
      rcases exit_of_run_bind ran with inside | ⟨number, moved, _, called⟩
      · exact inductionHypothesis isOver.2.2.1 inside
      · exact
          Meaning.not_isSyntactic_of_ofAttempt
            (functions.semantic_value _ _ _) called
  | group opened inside closed inductionHypothesis =>
      exact inductionHypothesis isOver.2.1 ran
  | before operator operation precedence operand inductionHypothesis =>
      rcases exit_of_run_bind ran with inside | ⟨number, moved, _, applied⟩
      · exact inductionHypothesis isOver.2 inside
      · exact
          Meaning.not_isSyntactic_of_ofOperation
            (semantic.operator number isOver.1) applied
  | between left operator operation precedence associativity right
      leftHypothesis rightHypothesis =>
      rcases exit_of_run_bind ran with
        inLeft | ⟨leftNumber, moved, _, afterLeft⟩
      · exact leftHypothesis isOver.1 inLeft
      · rcases exit_of_run_bind afterLeft with
          inRight | ⟨rightNumber, last, _, applied⟩
        · exact rightHypothesis isOver.2.2 inRight
        · exact
            Meaning.not_isSyntactic_of_ofOperation
              (semantic.binary leftNumber rightNumber isOver.2.1) applied
  | after operand operator operation precedence inductionHypothesis =>
      rcases exit_of_run_bind ran with inside | ⟨number, moved, _, applied⟩
      · exact inductionHypothesis isOver.1 inside
      · exact
          Meaning.not_isSyntactic_of_ofOperation
            (semantic.trailing number isOver.2) applied

/-- Tokens that are derived from a sum. -/
def IsSentence
    (tokens : List Token) :
    Prop :=
  ∃ tree, Derives .sum .final tree ∧ tree.tokens = tokens

/-- A sentence has no errors of syntax, if there are levels enough for it. -/
theorem IsSentence.not_isSyntactic
    {tokens : List Token}
    (sentence : IsSentence tokens) :
    ∃ enough,
      ∀ environment levels failure,
        enough ≤ levels →
        (Expression.reportOfTokens Grammar.frozenStandard environment levels
          tokens).outcome = .failed failure →
        ¬ failure.kind.IsSyntactic := by
  obtain ⟨tree, derived, rfl⟩ := sentence
  refine ⟨tree.levels, fun environment levels failure enough outcome => ?_⟩
  have fits := derived.fitsIn
  have failed : (tree.result environment).1 = .failed failure := by
    rw [← Tree.result_reportOfTokens Grammar.regular_frozenStandard
      fits.isOver fits.shaped environment enough]
    exact outcome
  unfold Tree.result at failed
  cases ran :
      (tree.evaluate environment.functions).run environment.values with
  | ok value values =>
      rw [ran] at failed
      cases failed
  | error exit values =>
      have notSyntactic :=
        Tree.not_isSyntactic_of_evaluate Grammar.semantic_frozenStandard
          fits.isOver ran
      rw [ran] at failed
      rcases exit with reported | fault
      · cases failed
        exact notSyntactic
      · cases fault with
        | nesting =>
            cases failed
            exact id
        | _ => cases failed

end Reckoner
