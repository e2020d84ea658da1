import Reckoner.Expression

namespace Reckoner

/-!
# Syntax trees

Evaluation builds no syntax tree, but what it computes is best said with one. A tree
keeps the tokens it is written with and the operations they stand for, so it has a
text (`tokens`) and a meaning (`evaluate`) of its own, neither of which knows about
precedence. `Over` ties a tree to the grammar that gives its tokens their meaning.

Precedence enters by the shape alone. A tree is `Shaped` if no operator in it could
have been taken by a different operand: operators at the left edge of an operand are
tighter than the operator before it (`Above`), and operands that are still open at
the right edge of a left operand leave the next operator alone (`Yields`).
-/

/-- An expression as it is written. -/
inductive Tree where
  | literal (token : Token) (read : String → Attempt Number)
  | reference (name : Token)
  | assignment (name sign : Token) (value : Tree)
  | emptyCall (name opened closed : Token)
  | call (name opened : Token) (argument : Tree) (closed : Token)
  | group (opened : Token) (inside : Tree) (closed : Token)
  /-- An operator before its operand. -/
  | before
      (operator : Token)
      (operation : UnaryOperation)
      (precedence : Precedence)
      (operand : Tree)
  /-- An operator between two operands. -/
  | between
      (left : Tree)
      (operator : Token)
      (operation : BinaryOperation)
      (precedence : Precedence)
      (associativity : Associativity)
      (right : Tree)
  /-- An operator after its only operand. -/
  | after
      (operand : Tree)
      (operator : Token)
      (operation : UnaryOperation)
      (precedence : Precedence)

/-- A computation on the variables, whose changes an exit leaves in place. -/
abbrev Meaning (α : Type) :=
  EStateM Exit Variables α

namespace Meaning

/-- The result of an attempt. -/
def ofAttempt :
    Attempt Number →
    Meaning Number
  | .ok value => pure value
  | .error exit => throw exit

/-- The result of an operation, whose failure belongs to its operator. -/
def ofOperation
    (operator : Token) :
    Attempt Number →
    Meaning Number
  | .ok value => pure value
  | .error exit => throw (exit.attributedTo operator.position)

@[simp] theorem run_throw
    {α : Type}
    (exit : Exit)
    (values : Variables) :
    (throw exit : Meaning α).run values = .error exit values :=
  rfl

end Meaning

namespace Tree

/-- The tokens of a tree from left to right. -/
def tokens : Tree → List Token
  | .literal token _ => [token]
  | .reference name => [name]
  | .assignment name sign value => name :: sign :: value.tokens
  | .emptyCall name opened closed => [name, opened, closed]
  | .call name opened argument closed =>
      name :: opened :: (argument.tokens ++ [closed])
  | .group opened inside closed => opened :: (inside.tokens ++ [closed])
  | .before operator _ _ operand => operator :: operand.tokens
  | .between left operator _ _ _ right =>
      left.tokens ++ operator :: right.tokens
  | .after operand operator _ _ => operand.tokens ++ [operator]

/--
The value of a tree, computed from left to right. Each assignment is made once its
right side has a value, and an operation once all of its operands have one.
-/
def evaluate
    (functions : Functions) :
    Tree →
    Meaning Number
  | .literal token read => .ofOperation token (read token.lexeme)
  | .reference name => do
      let found := (← get).get? name.lexeme
      .ofAttempt (boundValue found name.lexeme (some name.position))
  | .assignment name _ value => do
      let number ← value.evaluate functions
      modify fun values => values.insert name.lexeme number
      return number
  | .emptyCall name _ _ =>
      .ofAttempt (functions.value name.lexeme none (some name.position))
  | .call name _ argument _ => do
      let number ← argument.evaluate functions
      .ofAttempt
        (functions.value name.lexeme (some number) (some name.position))
  | .group _ inside _ => inside.evaluate functions
  | .before operator operation _ operand => do
      let number ← operand.evaluate functions
      .ofOperation operator (operation number)
  | .between left operator operation _ _ right => do
      let leftNumber ← left.evaluate functions
      let rightNumber ← right.evaluate functions
      .ofOperation operator (operation leftNumber rightNumber)
  | .after operand operator operation _ => do
      let number ← operand.evaluate functions
      .ofOperation operator (operation number)

/-- A grammar gives every token of a tree the meaning it has in the tree. -/
def Over
    (grammar : Grammar) :
    Tree →
    Prop
  | .literal token read =>
      grammar.opening? token = some (.literal read)
  | .reference name =>
      grammar.opening? name = some .name
  | .assignment name sign value =>
      grammar.opening? name = some .name ∧
        sign.isSymbol "=" = true ∧ value.Over grammar
  | .emptyCall name opened closed =>
      grammar.opening? name = some .name ∧
        opened.isSymbol "(" = true ∧ closed.isSymbol ")" = true
  | .call name opened argument closed =>
      grammar.opening? name = some .name ∧
        opened.isSymbol "(" = true ∧ argument.Over grammar ∧
          closed.isSymbol ")" = true
  | .group opened inside closed =>
      grammar.opening? opened = some .group ∧
        inside.Over grammar ∧ closed.isSymbol ")" = true
  | .before operator operation precedence operand =>
      grammar.opening? operator = some (.operator operation precedence) ∧
        operand.Over grammar
  | .between left operator operation precedence associativity right =>
      left.Over grammar ∧
        grammar.continuation? operator =
          some (.binary operation precedence associativity) ∧
        right.Over grammar
  | .after operand operator operation precedence =>
      operand.Over grammar ∧
        grammar.continuation? operator =
          some (.trailing operation precedence)

/-- The operators along the left edge of a tree bind tighter than a threshold. -/
def Above
    (threshold : Precedence) :
    Tree →
    Prop
  | .between left _ _ precedence _ _ =>
      threshold < precedence ∧ left.Above threshold
  | .after operand _ _ precedence =>
      threshold < precedence ∧ operand.Above threshold
  | _ => True

/--
The operands that are open along the right edge of a tree leave an operator of the
given precedence alone: each of them was begun at a threshold that stops it. The
right side of an assignment is begun below every operator.
-/
def Yields
    (precedence : Precedence) :
    Tree →
    Prop
  | .assignment _ _ value =>
      precedence ≤ .belowAssignment ∧ value.Yields precedence
  | .before _ _ own operand =>
      precedence ≤ own ∧ operand.Yields precedence
  | .between _ _ _ own associativity right =>
      precedence ≤ Evaluator.rightThreshold own associativity ∧
        right.Yields precedence
  | _ => True

/-- Every operator of a tree has the operands that precedence gives it. -/
def Shaped : Tree → Prop
  | .literal _ _ => True
  | .reference _ => True
  | .assignment _ _ value => value.Shaped
  | .emptyCall _ _ _ => True
  | .call _ _ argument _ => argument.Shaped
  | .group _ inside _ => inside.Shaped
  | .before _ _ precedence operand =>
      operand.Shaped ∧ operand.Above precedence
  | .between left _ _ precedence associativity right =>
      left.Shaped ∧ right.Shaped ∧ left.Yields precedence ∧
        right.Above (Evaluator.rightThreshold precedence associativity)
  | .after operand _ _ precedence =>
      operand.Shaped ∧ operand.Yields precedence

/-- The levels of nesting that the evaluation of a tree takes. -/
def levels : Tree → Nat
  | .literal _ _ => 1
  | .reference _ => 1
  | .assignment _ _ value => value.levels + 1
  | .emptyCall _ _ _ => 1
  | .call _ _ argument _ => argument.levels + 1
  | .group _ inside _ => inside.levels + 1
  | .before _ _ _ operand => operand.levels + 1
  | .between left _ _ _ _ right => max left.levels (right.levels + 1)
  | .after operand _ _ _ => operand.levels

/-- Every tree takes a level. -/
theorem levels_pos
    (tree : Tree) :
    0 < tree.levels := by
  induction tree with
  | literal => exact Nat.one_pos
  | reference => exact Nat.one_pos
  | assignment => exact Nat.succ_pos _
  | emptyCall => exact Nat.one_pos
  | call => exact Nat.succ_pos _
  | group => exact Nat.succ_pos _
  | before => exact Nat.succ_pos _
  | between left _ _ _ _ right leftPositive rightPositive =>
      exact Nat.lt_of_lt_of_le leftPositive (Nat.le_max_left _ _)
  | after operand _ _ _ positive => exact positive

/-- A tree begins with a token that opens an operand. -/
theorem exists_opening
    {grammar : Grammar}
    {tree : Tree}
    (isOver : tree.Over grammar) :
    ∃ token rest opening,
      tree.tokens = token :: rest ∧
        grammar.opening? token = some opening := by
  induction tree with
  | literal token read => exact ⟨token, [], _, rfl, isOver⟩
  | reference name => exact ⟨name, [], _, rfl, isOver⟩
  | assignment name sign value => exact ⟨name, _, _, rfl, isOver.1⟩
  | emptyCall name opened closed => exact ⟨name, _, _, rfl, isOver.1⟩
  | call name opened argument closed => exact ⟨name, _, _, rfl, isOver.1⟩
  | group opened inside closed => exact ⟨opened, _, _, rfl, isOver.1⟩
  | before operator operation precedence operand =>
      exact ⟨operator, _, _, rfl, isOver.1⟩
  | between left operator operation precedence associativity right
      leftHypothesis rightHypothesis =>
      obtain ⟨token, rest, opening, shape, known⟩ := leftHypothesis isOver.1
      exact ⟨token, rest ++ operator :: right.tokens, opening,
        by simp [tokens, shape], known⟩
  | after operand operator operation precedence inductionHypothesis =>
      obtain ⟨token, rest, opening, shape, known⟩ :=
        inductionHypothesis isOver.1
      exact ⟨token, rest ++ [operator], opening,
        by simp [tokens, shape], known⟩

end Tree

end Reckoner
