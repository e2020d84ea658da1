import Reckoner.Proofs.Grammar.Standard
import Reckoner.Proofs.Syntax.Extension
import Reckoner.Proofs.Syntax.Parsing
import Reckoner.Proofs.Token.Lexeme

namespace Reckoner

/-!
# The language of the calculator

The standard grammar has a stratified grammar behind it, with a phrase for every
level of precedence. A source has a value only if its tokens are derived from a sum,
and then its value is that of the derivation.

Assignments do not fit into the levels. One may stand wherever an operand may, even
behind an operator, but its right side takes everything up to the end of the
parentheses it is in. So every phrase is derived for an edge, which tells whether
anything follows the phrase there.
-/

/-- The phrases that operators are made of, from loose to tight. -/
inductive Phrase where
  | sum
  | product
  | power
  | postfixed
  | prefixed
  deriving Repr, DecidableEq

/-- Whether a phrase is the last one in its parentheses, or in the input. -/
inductive Edge where
  | inner
  | final
  deriving Repr, DecidableEq

/-- The tokens of a tree are derived from a phrase in the way the tree shows. -/
inductive Derives : Phrase → Edge → Tree → Prop where
  | number
      {edge : Edge}
      {token : Token}
      (isNumber : token.kind = .number) :
      Derives .prefixed edge (.literal token Arithmetic.number)
  | reference
      {edge : Edge}
      {name : Token}
      (isName : name.kind = .identifier) :
      Derives .prefixed edge (.reference name)
  /-- An assignment ends where its parentheses do. -/
  | assignment
      {name sign : Token}
      {value : Tree}
      (isName : name.kind = .identifier)
      (isSign : sign.isSymbol "=" = true)
      (valueDerived : Derives .sum .final value) :
      Derives .prefixed .final (.assignment name sign value)
  | emptyCall
      {edge : Edge}
      {name opened closed : Token}
      (isName : name.kind = .identifier)
      (isOpened : opened.isSymbol "(" = true)
      (isClosed : closed.isSymbol ")" = true) :
      Derives .prefixed edge (.emptyCall name opened closed)
  | call
      {edge : Edge}
      {name opened closed : Token}
      {argument : Tree}
      (isName : name.kind = .identifier)
      (isOpened : opened.isSymbol "(" = true)
      (argumentDerived : Derives .sum .final argument)
      (isClosed : closed.isSymbol ")" = true) :
      Derives .prefixed edge (.call name opened argument closed)
  | group
      {edge : Edge}
      {opened closed : Token}
      {inside : Tree}
      (isOpened : opened.isSymbol "(" = true)
      (insideDerived : Derives .sum .final inside)
      (isClosed : closed.isSymbol ")" = true) :
      Derives .prefixed edge (.group opened inside closed)
  | negation
      {edge : Edge}
      {sign : Token}
      {operand : Tree}
      (isSign : sign.isSymbol "-" = true)
      (operandDerived : Derives .prefixed edge operand) :
      Derives .prefixed edge
        (.before sign Arithmetic.negate .beforeOperand operand)
  | ofPrefixed
      {edge : Edge}
      {tree : Tree}
      (derived : Derives .prefixed edge tree) :
      Derives .postfixed edge tree
  | factorial
      {edge : Edge}
      {operand : Tree}
      {sign : Token}
      (operandDerived : Derives .postfixed .inner operand)
      (isSign : sign.isSymbol "!" = true) :
      Derives .postfixed edge
        (.after operand sign Arithmetic.factorial .factorial)
  | ofPostfixed
      {edge : Edge}
      {tree : Tree}
      (derived : Derives .postfixed edge tree) :
      Derives .power edge tree
  /-- Powers group to the right. -/
  | power
      {edge : Edge}
      {left right : Tree}
      {operator : Token}
      (leftDerived : Derives .postfixed .inner left)
      (isOperator : operator.isSymbol "^" = true)
      (rightDerived : Derives .power edge right) :
      Derives .power edge
        (.between left operator Arithmetic.power .exponent .right right)
  | ofPower
      {edge : Edge}
      {tree : Tree}
      (derived : Derives .power edge tree) :
      Derives .product edge tree
  /-- Products group to the left. -/
  | product
      {edge : Edge}
      {left right : Tree}
      {operator : Token}
      {symbol : String}
      {operation : BinaryOperation}
      (leftDerived : Derives .product .inner left)
      (known : (symbol, operation) ∈ productOperators)
      (isOperator : operator.isSymbol symbol = true)
      (rightDerived : Derives .power edge right) :
      Derives .product edge
        (.between left operator operation .product .left right)
  | ofProduct
      {edge : Edge}
      {tree : Tree}
      (derived : Derives .product edge tree) :
      Derives .sum edge tree
  /-- Sums group to the left. -/
  | sum
      {edge : Edge}
      {left right : Tree}
      {operator : Token}
      {symbol : String}
      {operation : BinaryOperation}
      (leftDerived : Derives .sum .inner left)
      (known : (symbol, operation) ∈ sumOperators)
      (isOperator : operator.isSymbol symbol = true)
      (rightDerived : Derives .product edge right) :
      Derives .sum edge
        (.between left operator operation .sum .left right)

namespace Phrase

/-- The precedence that all operators at the left edge of a phrase exceed. -/
def threshold : Phrase → Precedence
  | sum => .belowAssignment
  | product => .sum
  | power => .product
  | postfixed => .exponent
  | prefixed => .beforeOperand

/-- The precedence of the operators that a phrase is made with. -/
def precedence : Phrase → Precedence
  | sum => .sum
  | product => .product
  | power => .exponent
  | postfixed => .factorial
  | prefixed => .beforeOperand

/-- A phrase that admits the operators of another one is at least as loose. -/
theorem threshold_le_of_lt
    {phrase : Phrase}
    (other : Phrase)
    (admits : phrase.threshold < other.precedence) :
    phrase.threshold ≤ other.threshold := by
  revert admits
  cases phrase <;> cases other <;> decide

end Phrase

/-- What is derived from a tight phrase is derived from every looser one. -/
theorem Derives.loosen
    {tight loose : Phrase}
    {edge : Edge}
    {tree : Tree}
    (derived : Derives tight edge tree)
    (looser : loose.threshold ≤ tight.threshold) :
    Derives loose edge tree := by
  cases tight with
  | sum =>
      cases loose with
      | sum => exact derived
      | _ => exact absurd looser (by decide)
  | product =>
      cases loose with
      | sum => exact .ofProduct derived
      | product => exact derived
      | _ => exact absurd looser (by decide)
  | power =>
      cases loose with
      | sum => exact .ofProduct (.ofPower derived)
      | product => exact .ofPower derived
      | power => exact derived
      | _ => exact absurd looser (by decide)
  | postfixed =>
      cases loose with
      | sum => exact .ofProduct (.ofPower (.ofPostfixed derived))
      | product => exact .ofPower (.ofPostfixed derived)
      | power => exact .ofPostfixed derived
      | postfixed => exact derived
      | prefixed => exact absurd looser (by decide)
  | prefixed =>
      cases loose with
      | sum =>
          exact .ofProduct (.ofPower (.ofPostfixed (.ofPrefixed derived)))
      | product => exact .ofPower (.ofPostfixed (.ofPrefixed derived))
      | power => exact .ofPostfixed (.ofPrefixed derived)
      | postfixed => exact .ofPrefixed derived
      | prefixed => exact derived

/-- What is derived from an operand is derived from every phrase. -/
theorem Derives.ofOperand
    {phrase : Phrase}
    {edge : Edge}
    {tree : Tree}
    (derived : Derives .prefixed edge tree) :
    Derives phrase edge tree :=
  derived.loosen (by cases phrase <;> decide)

namespace Tree

/-- Operators above a threshold are above every lower one. -/
theorem Above.mono
    {low high : Precedence}
    (lower : low ≤ high)
    {tree : Tree}
    (above : tree.Above high) :
    tree.Above low := by
  induction tree with
  | between left operator operation precedence associativity right
      leftHypothesis _ =>
      exact ⟨Int.lt_of_le_of_lt lower above.1, leftHypothesis above.2⟩
  | after operand operator operation precedence inductionHypothesis =>
      exact ⟨Int.lt_of_le_of_lt lower above.1, inductionHypothesis above.2⟩
  | _ => trivial

/--
A tree that yields to an operator of the standard grammar has no looser operator at
its left edge.
-/
theorem above_of_yields
    {tree : Tree}
    (isOver : tree.Over Grammar.frozenStandard)
    (shaped : tree.Shaped)
    {precedence : Precedence}
    (bounded : precedence ≤ .factorial)
    (yields : tree.Yields precedence) :
    tree.Above (precedence - 1) := by
  induction tree generalizing precedence with
  | between left operator operation own associativity right
      leftHypothesis _ =>
      obtain ⟨leftOver, known, _⟩ := isOver
      obtain ⟨leftShaped, _, leftYields, _⟩ := shaped
      have ownBounded : own ≤ .factorial := by
        cases Grammar.standardContinuation known <;> decide
      have loose : Evaluator.rightThreshold own associativity ≤ own := by
        cases associativity with
        | left => exact Int.le_refl own
        | right => exact Int.sub_le_self own (by decide)
      have tight : precedence - 1 < own :=
        Int.sub_one_lt_of_le (Int.le_trans yields.1 loose)
      have leftAbove := leftHypothesis leftOver leftShaped ownBounded leftYields
      exact ⟨tight, leftAbove.mono (Int.le_sub_one_of_lt tight)⟩
  | after operand operator operation own inductionHypothesis =>
      obtain ⟨operandOver, known⟩ := isOver
      obtain ⟨operandShaped, operandYields⟩ := shaped
      cases Grammar.standardContinuation known
      have tight : precedence - 1 < .factorial :=
        Int.sub_one_lt_of_le bounded
      have operandAbove :=
        inductionHypothesis operandOver operandShaped (Int.le_refl _)
          operandYields
      exact ⟨tight, operandAbove.mono (Int.le_sub_one_of_lt tight)⟩
  | _ => trivial

/-- In front of a power there is no other operator than factorials. -/
theorem above_exponent_of_yields
    {tree : Tree}
    (isOver : tree.Over Grammar.frozenStandard)
    (shaped : tree.Shaped)
    (yields : tree.Yields .exponent) :
    tree.Above .exponent := by
  cases tree with
  | between left operator operation own associativity right =>
      have stops := yields.1
      cases Grammar.standardContinuation isOver.2.1 with
      | sum => exact absurd stops (by decide)
      | product => exact absurd stops (by decide)
      | power => exact absurd stops (by decide)
  | after operand operator operation own =>
      cases Grammar.standardContinuation isOver.2
      have tight : Precedence.exponent < .factorial := by decide
      exact
        ⟨tight, above_of_yields isOver.1 shaped.1 (Int.le_refl _) shaped.2⟩
  | _ => trivial

/-- At an inner edge there is an operator behind the tree, and the tree yields to it. -/
def EndsAt
    (edge : Edge)
    (tree : Tree) :
    Prop :=
  edge = .inner →
    ∃ precedence,
      .belowAssignment < precedence ∧ tree.Yields precedence

/-- What an open operand yields to, the tree does not keep from it. -/
theorem EndsAt.openOperand
    {edge : Edge}
    {tree operand : Tree}
    (ends : tree.EndsAt edge)
    (isOpen :
      ∀ precedence,
        tree.Yields precedence →
        operand.Yields precedence) :
    operand.EndsAt edge := by
  intro inner
  obtain ⟨precedence, positive, yields⟩ := ends inner
  exact ⟨precedence, positive, isOpen precedence yields⟩

/-- A tree is derived from every phrase that its left edge allows. -/
def Derivable
    (tree : Tree) :
    Prop :=
  ∀ edge phrase,
    tree.EndsAt edge →
    tree.Above phrase.threshold →
    Derives phrase edge tree

namespace Derivable

/-- Nothing follows a tree in its parentheses, and any operator may be in it. -/
theorem enclosed
    {tree : Tree}
    (derivable : tree.Derivable)
    (isOver : tree.Over Grammar.frozenStandard) :
    Derives .sum .final tree :=
  derivable _ _ (fun impossible => by cases impossible)
    (above_belowAssignment Grammar.regular_frozenStandard isOver)

/-- An operator between two operands makes a sum, a product or a power. -/
theorem between
    {left right : Tree}
    {operator : Token}
    {operation : BinaryOperation}
    {precedence : Precedence}
    {associativity : Associativity}
    (isOver :
      (Tree.between left operator operation precedence associativity
        right).Over Grammar.frozenStandard)
    (shaped :
      (Tree.between left operator operation precedence associativity
        right).Shaped)
    (leftDerivable : left.Derivable)
    (rightDerivable : right.Derivable) :
    (Tree.between left operator operation precedence associativity
      right).Derivable := by
  intro edge phrase ends above
  obtain ⟨leftOver, known, rightOver⟩ := isOver
  obtain ⟨leftShaped, rightShaped, yields, rightAbove⟩ := shaped
  have tight : phrase.threshold < precedence := above.1
  have positive : .belowAssignment < precedence :=
    Grammar.regular_frozenStandard.aboveBottom operator _ known
  have leftEnds : left.EndsAt .inner := fun _ =>
    ⟨precedence, positive, yields⟩
  have rightEnds : right.EndsAt edge :=
    ends.openOperand fun _ yields => yields.2
  cases Grammar.standardContinuation known with
  | sum listed isOperator =>
      have leftDerived : Derives .sum .inner left :=
        leftDerivable _ _ leftEnds
          (above_belowAssignment Grammar.regular_frozenStandard leftOver)
      have rightDerived : Derives .product edge right :=
        rightDerivable _ _ rightEnds rightAbove
      have looser : phrase.threshold ≤ Phrase.sum.threshold :=
        Phrase.threshold_le_of_lt .sum tight
      exact
        (Derives.sum leftDerived listed isOperator rightDerived).loosen
          looser
  | product listed isOperator =>
      have leftDerived : Derives .product .inner left :=
        leftDerivable _ _ leftEnds
          (above_of_yields leftOver leftShaped (by decide) yields)
      have rightDerived : Derives .power edge right :=
        rightDerivable _ _ rightEnds rightAbove
      have looser : phrase.threshold ≤ Phrase.product.threshold :=
        Phrase.threshold_le_of_lt .product tight
      exact
        (Derives.product leftDerived listed isOperator
          rightDerived).loosen looser
  | power isOperator =>
      have leftDerived : Derives .postfixed .inner left :=
        leftDerivable _ _ leftEnds
          (above_exponent_of_yields leftOver leftShaped yields)
      have rightDerived : Derives .power edge right :=
        rightDerivable _ _ rightEnds rightAbove
      have looser : phrase.threshold ≤ Phrase.power.threshold :=
        Phrase.threshold_le_of_lt .power tight
      exact
        (Derives.power leftDerived isOperator rightDerived).loosen looser

/-- An operator after its operand is a factorial. -/
theorem after
    {operand : Tree}
    {operator : Token}
    {operation : UnaryOperation}
    {precedence : Precedence}
    (isOver :
      (Tree.after operand operator operation precedence).Over
        Grammar.frozenStandard)
    (shaped :
      (Tree.after operand operator operation precedence).Shaped)
    (operandDerivable : operand.Derivable) :
    (Tree.after operand operator operation precedence).Derivable := by
  intro edge phrase ends above
  obtain ⟨operandOver, known⟩ := isOver
  obtain ⟨operandShaped, yields⟩ := shaped
  have tight : phrase.threshold < precedence := above.1
  cases Grammar.standardContinuation known with
  | factorial isSign =>
      have operandEnds : operand.EndsAt .inner := fun _ =>
        ⟨.factorial, by decide, yields⟩
      have operandDerived : Derives .postfixed .inner operand :=
        operandDerivable _ _ operandEnds
          (above_of_yields operandOver operandShaped (by decide) yields)
      have looser : phrase.threshold ≤ Phrase.postfixed.threshold :=
        Phrase.threshold_le_of_lt .postfixed tight
      exact (Derives.factorial operandDerived isSign).loosen looser

end Derivable

/-- Every shaped tree over the standard grammar shows a derivation. -/
theorem derivable
    {tree : Tree}
    (named : ∀ token ∈ tree.tokens, token.NamesNoKind)
    (isOver : tree.Over Grammar.frozenStandard)
    (shaped : tree.Shaped) :
    tree.Derivable := by
  induction tree with
  | literal token read =>
      intro edge phrase ends above
      cases Grammar.standardOpening isOver with
      | literal slot =>
          have isNumber :=
            Grammar.isNumber_of_slot (named token (by simp [tokens])) slot
          exact .ofOperand (.number isNumber)
  | reference name =>
      intro edge phrase ends above
      have isName :=
        Grammar.isIdentifier_of_opening (named name (by simp [tokens])) isOver
      exact .ofOperand (.reference isName)
  | assignment name sign value inductionHypothesis =>
      intro edge phrase ends above
      have valueDerivable :=
        inductionHypothesis
          (fun token member => named token (by simp [tokens, member]))
          isOver.2.2 shaped
      have isName :=
        Grammar.isIdentifier_of_opening (named name (by simp [tokens]))
          isOver.1
      cases edge with
      | inner =>
          obtain ⟨precedence, positive, yields⟩ := ends rfl
          exact absurd yields.1 (Int.not_le.2 positive)
      | final =>
          exact
            .ofOperand
              (.assignment isName isOver.2.1
                (valueDerivable.enclosed isOver.2.2))
  | emptyCall name opened closed =>
      intro edge phrase ends above
      have isName :=
        Grammar.isIdentifier_of_opening (named name (by simp [tokens]))
          isOver.1
      exact .ofOperand (.emptyCall isName isOver.2.1 isOver.2.2)
  | call name opened argument closed inductionHypothesis =>
      intro edge phrase ends above
      have argumentDerivable :=
        inductionHypothesis
          (fun token member => named token (by simp [tokens, member]))
          isOver.2.2.1 shaped
      have isName :=
        Grammar.isIdentifier_of_opening (named name (by simp [tokens]))
          isOver.1
      exact
        .ofOperand
          (.call isName isOver.2.1
            (argumentDerivable.enclosed isOver.2.2.1) isOver.2.2.2)
  | group opened inside closed inductionHypothesis =>
      intro edge phrase ends above
      have insideDerivable :=
        inductionHypothesis
          (fun token member => named token (by simp [tokens, member]))
          isOver.2.1 shaped
      cases Grammar.standardOpening isOver.1 with
      | group isOpened =>
          exact
            .ofOperand
              (.group isOpened (insideDerivable.enclosed isOver.2.1)
                isOver.2.2)
  | before operator operation precedence operand inductionHypothesis =>
      intro edge phrase ends above
      have operandDerivable :=
        inductionHypothesis
          (fun token member => named token (by simp [tokens, member]))
          isOver.2 shaped.1
      cases Grammar.standardOpening isOver.1 with
      | sign isSign =>
          have operandEnds : operand.EndsAt edge :=
            ends.openOperand fun _ yields => yields.2
          have operandDerived : Derives .prefixed edge operand :=
            operandDerivable _ _ operandEnds shaped.2
          exact .ofOperand (.negation isSign operandDerived)
  | between left operator operation precedence associativity right
      leftHypothesis rightHypothesis =>
      have leftDerivable :=
        leftHypothesis
          (fun token member => named token (by simp [tokens, member]))
          isOver.1 shaped.1
      have rightDerivable :=
        rightHypothesis
          (fun token member => named token (by simp [tokens, member]))
          isOver.2.2 shaped.2.1
      exact Derivable.between isOver shaped leftDerivable rightDerivable
  | after operand operator operation precedence inductionHypothesis =>
      have operandDerivable :=
        inductionHypothesis
          (fun token member => named token (by simp [tokens, member]))
          isOver.1 shaped.1
      exact Derivable.after isOver shaped operandDerivable

/-- A tree whose result is a value has this value, and its variables are kept. -/
theorem exists_of_result_eq_value
    {environment after : Environment}
    {tree : Tree}
    {value : Number}
    (same : tree.result environment = (.value (some value), after)) :
    ∃ values,
      (tree.evaluate environment.functions).run environment.values =
          .ok value values ∧
        after = { environment with values := values } := by
  unfold result at same
  cases ran :
      (tree.evaluate environment.functions).run environment.values with
  | ok number values =>
      simp only [ran] at same
      cases same
      exact ⟨values, rfl, rfl⟩
  | error exit values =>
      simp only [ran] at same
      rcases exit with failure | fault
      · cases same
      · cases fault <;> cases same

end Tree

/--
A source has a value only if its tokens are derived from a sum; the value and the
variables are then those of the derivation, computed from left to right. A source has
no value, without being a failure, exactly if it is blank.
-/
theorem derived_of_value
    (environment : Environment)
    (levels : Nat)
    (source : String) :
    let report :=
      Expression.evaluateWithin (levels + 1) Grammar.frozenStandard
        environment source
    (∀ value,
      report.outcome = .value (some value) →
      ∃ tree values,
        tokenize source = .ok tree.tokens ∧
          Derives .sum .final tree ∧
          (tree.evaluate environment.functions).run environment.values =
            .ok value values ∧
          report.environment = { environment with values := values }) ∧
      (report.outcome = .value none ↔
        ∀ character ∈ source.toList, character ≤ ' ') := by
  intro report
  cases tokenized : tokenize source with
  | error failure =>
      have reported : report = ⟨.failed failure, none, [], environment⟩ :=
        Expression.evaluateWithin_of_untokenized tokenized _ _ _
      rw [reported, ← tokenize_eq_nil_iff, tokenized]
      simp
  | ok tokens =>
      have reported :
          report =
            Expression.reportOfTokens Grammar.frozenStandard environment
              (levels + 1) tokens :=
        Expression.evaluateWithin_of_tokenized tokenized _ _ _
      rw [reported, ← tokenize_eq_nil_iff, tokenized,
        Expression.outcome_eq_value_none_iff]
      refine ⟨fun value outcome => ?_, by simp⟩
      obtain ⟨tree, rfl, isOver, shaped, enough⟩ :=
        Expression.exists_tree_of_value outcome
      have result :=
        Tree.result_reportOfTokens Grammar.regular_frozenStandard isOver shaped
          environment enough
      rw [Report.result, outcome] at result
      obtain ⟨values, ran, kept⟩ :=
        Tree.exists_of_result_eq_value result.symm
      have named : ∀ token ∈ tree.tokens, token.NamesNoKind :=
        fun token member => namesNoKind_of_tokenize tokenized member
      exact
        ⟨tree, values, rfl,
          (Tree.derivable named isOver shaped).enclosed isOver, ran, kept⟩

/-- The tree of `y=-7%4`. -/
def assignedRemainder : Tree :=
  .assignment ⟨.identifier, "y", 0⟩ ⟨.symbol, "=", 1⟩
    (.between
      (.before ⟨.symbol, "-", 2⟩ Arithmetic.negate .beforeOperand
        (.literal ⟨.number, "7", 3⟩ Arithmetic.number))
      ⟨.symbol, "%", 4⟩ Arithmetic.modulo .product .left
      (.literal ⟨.number, "4", 5⟩ Arithmetic.number))

/-- The sign of an assigned remainder belongs to its left operand. -/
theorem derived_of_value_assignedRemainder :
    let report :=
      Expression.evaluateWithin 5 Grammar.frozenStandard Environment.empty
        "y=-7%4"
    report.outcome = .value (some (.int 1)) ∧
      ∃ tree values,
        tokenize "y=-7%4" = .ok tree.tokens ∧
          Derives .sum .final tree ∧
          (tree.evaluate Environment.empty.functions).run
            Environment.empty.values = .ok (.int 1) values ∧
          report.environment =
            { Environment.empty with values := values } := by
  intro report
  have isOver : assignedRemainder.Over Grammar.frozenStandard :=
    ⟨rfl, rfl, ⟨rfl, rfl⟩, rfl, rfl⟩
  have shaped : assignedRemainder.Shaped :=
    ⟨⟨trivial, trivial⟩, trivial, ⟨by decide, trivial⟩, trivial⟩
  have enough : assignedRemainder.levels ≤ 5 := by decide
  have tokenized : tokenize "y=-7%4" = .ok assignedRemainder.tokens := rfl
  have result :
      report.result = assignedRemainder.result Environment.empty :=
    Tree.result_evaluateWithin Grammar.regular_frozenStandard isOver shaped
      Environment.empty enough tokenized
  have valued :
      assignedRemainder.result Environment.empty =
        (.value (some (.int 1)), Environment.empty.set "y" (.int 1)) := rfl
  have outcome : report.outcome = .value (some (.int 1)) :=
    (Report.eq_of_result (result.trans valued)).1
  exact
    ⟨outcome,
      (derived_of_value Environment.empty 4 "y=-7%4").1 (.int 1) outcome⟩

end Reckoner
