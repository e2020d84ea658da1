import Reckoner.Proofs.Evaluation.Invariant
import Reckoner.Proofs.Grammar.Standard

namespace Reckoner

/-!
# How operations fail

An operation of the calculator knows nothing about the text that it is a part of. It
fails for a reason that lies in its operands, and does not say where; or an operand
has too many digits for the message. So an error of syntax never comes from what the
tokens stand for: the evaluator itself has found it.
-/

/-- What the operations on numbers exit with. -/
inductive Exit.OfOperation : Exit → Prop where
  | domain
      {cause : Cause}
      (isDomain : cause.kind = .mathDomain) :
      OfOperation (.unplaced cause)
  | unwritable : OfOperation (.fault .beyondDigits)

/-- An attempt that exits only as operations do. -/
def Attempt.Calculates
    {α : Type}
    (attempt : Attempt α) :
    Prop :=
  attempt.Satisfies (fun _ => True) Exit.OfOperation

namespace Attempt.Calculates

variable {α β : Type}

/-- A value is no exit. -/
theorem ofValue
    (value : α) :
    Attempt.Calculates (.ok value) :=
  .ok trivial

/-- An operation may fail for a reason of mathematics. -/
theorem ofCause
    {cause : Cause}
    (isDomain : cause.kind = .mathDomain) :
    Attempt.Calculates (.error (.unplaced cause) : Attempt α) :=
  .error (.domain isDomain)

/-- Attempts one after another. -/
theorem bind
    {attempt : Attempt α}
    {next : α → Attempt β}
    (calculates : attempt.Calculates)
    (nextCalculates : ∀ value, (next value).Calculates) :
    Attempt.Calculates (Except.bind attempt next) :=
  Attempt.Satisfies.bind calculates fun value _ => nextCalculates value

/-- A mapped attempt exits as the attempt does. -/
theorem map
    {attempt : Attempt α}
    (calculates : attempt.Calculates)
    (apply : α → β) :
    Attempt.Calculates (Except.map apply attempt) :=
  Attempt.Satisfies.map calculates fun _ _ => trivial

/-- An attempt that depends on a condition. -/
theorem ite
    {condition : Prop}
    [Decidable condition]
    {first second : Attempt α}
    (firstCalculates : first.Calculates)
    (secondCalculates : second.Calculates) :
    Attempt.Calculates (if condition then first else second) := by
  split
  · exact firstCalculates
  · exact secondCalculates

end Attempt.Calculates

namespace Arithmetic

open Attempt (Calculates)

/-- A number is shown unless it has too many digits. -/
theorem shown_exits
    {exits : Exit → Prop}
    (unwritable : exits (.fault .beyondDigits))
    (x : Number) :
    (shown x).Satisfies (fun _ => True) exits := by
  unfold shown
  cases x.text? with
  | some text => exact .ok trivial
  | none => exact .error unwritable

theorem calculates_shown
    (x : Number) :
    (shown x).Calculates :=
  shown_exits .unwritable x

theorem calculates_operandFloat
    (symbol : String)
    (x : Number) :
    (operandFloat symbol x).Calculates := by
  unfold operandFloat
  cases x.toFloat? with
  | some value => exact .ofValue value
  | none => exact .ofCause rfl

theorem calculates_negate
    (x : Number) :
    (negate x).Calculates := by
  cases x with
  | int n => exact .ofValue _
  | float x => exact .ofValue _

theorem calculates_bounded
    (symbol : String)
    (n : Int) :
    (bounded symbol n).Calculates :=
  .ite (.ofCause rfl) (.ofValue _)

/-- An operation calculates if it does so on integers and on doubles. -/
theorem calculates_mixed
    (symbol : String)
    {onIntegers : Int → Int → Attempt Number}
    {onFloats : Float → Float → Attempt Number}
    (integers : ∀ a b, (onIntegers a b).Calculates)
    (floats : ∀ x y, (onFloats x y).Calculates)
    (left right : Number) :
    (mixed symbol onIntegers onFloats left right).Calculates := by
  unfold mixed
  split
  case h_1 a b => exact integers a b
  case h_2 =>
    exact
      (calculates_operandFloat symbol left).bind fun x =>
        (calculates_operandFloat symbol right).bind fun y => floats x y

/-- All sums are calculated, whatever their operator. -/
theorem calculates_of_mem_sumOperators
    {symbol : String}
    {operation : BinaryOperation}
    (known : (symbol, operation) ∈ sumOperators)
    (left right : Number) :
    (operation left right).Calculates := by
  simp only [sumOperators, List.mem_cons, Prod.mk.injEq, List.not_mem_nil,
    or_false] at known
  rcases known with ⟨_, rfl⟩ | ⟨_, rfl⟩
  · exact
      calculates_mixed "+" (fun _ _ => calculates_bounded "+" _)
        (fun _ _ => .ofValue _) left right
  · exact
      calculates_mixed "-" (fun _ _ => calculates_bounded "-" _)
        (fun _ _ => .ofValue _) left right

theorem calculates_integerQuotient
    (a b : Int) :
    (integerQuotient a b).Calculates := by
  unfold integerQuotient
  generalize Binary64.ofQuotient? _ _ _ = quotient
  cases quotient with
  | some x => exact .ofValue _
  | none => exact .ofCause rfl

/-- All products are calculated, whatever their operator. -/
theorem calculates_of_mem_productOperators
    {symbol : String}
    {operation : BinaryOperation}
    (known : (symbol, operation) ∈ productOperators)
    (left right : Number) :
    (operation left right).Calculates := by
  simp only [productOperators, List.mem_cons, Prod.mk.injEq,
    List.not_mem_nil, or_false] at known
  rcases known with ⟨_, rfl⟩ | ⟨_, rfl⟩ | ⟨_, rfl⟩
  · exact
      calculates_mixed "*" (fun _ _ => calculates_bounded "*" _)
        (fun _ _ => .ofValue _) left right
  · exact
      .ite (.ofCause rfl)
        (calculates_mixed "/" calculates_integerQuotient
          (fun _ _ => .ofValue _) left right)
  · exact
      .ite (.ofCause rfl)
        (calculates_mixed "%" (fun _ _ => .ofValue _)
          (fun _ _ => .ofValue _) left right)

theorem calculates_positivePower
    (base exponent : Float) :
    (positivePower base exponent).Calculates :=
  .ite (.ofCause rfl) (.ite (.ofCause rfl) (.ofValue _))

theorem calculates_floatPower
    (base exponent : Float) :
    (floatPower base exponent).Calculates := by
  have positive :
      ∀ size, (positivePower size exponent).Calculates :=
    fun size => calculates_positivePower size exponent
  unfold floatPower
  dsimp only
  -- The special cases of the exponent and of the base have values.
  refine .ite (.ofValue _) (.ite (.ofValue _) (.ite (.ofValue _) ?_))
  refine .ite (.ofValue _) (.ite (.ofValue _) ?_)
  refine .ite (.ite (.ofCause rfl) (.ofValue _)) ?_
  -- What is left is the power of the size of the base.
  refine .ite ((positive _).bind fun _ => .ofCause rfl) ?_
  exact .ite (.ofValue _) ((positive _).map _)

theorem calculates_powerInFloats
    (base exponent : Number) :
    (powerInFloats base exponent).Calculates :=
  (calculates_operandFloat "^" base).bind fun x =>
    (calculates_operandFloat "^" exponent).bind fun y =>
      calculates_floatPower x y

theorem calculates_power
    (base exponent : Number) :
    (power base exponent).Calculates := by
  unfold power
  split
  case h_1 =>
    exact
      .ite (calculates_powerInFloats _ _)
        (.ite (calculates_powerInFloats _ _) (.ofValue _))
  case h_2 => exact calculates_powerInFloats _ _

/-- A failure that shows an operand needs the text of the operand. -/
theorem calculates_bind_shown
    (x : Number)
    {cause : String → Cause}
    (isDomain : ∀ operand, (cause operand).kind = .mathDomain) :
    Attempt.Calculates
      ((shown x).bind fun operand =>
        (.error (.unplaced (cause operand)) : Attempt Number)) :=
  (calculates_shown x).bind fun operand => .ofCause (isDomain operand)

theorem calculates_integerFactorial
    (n : Int) :
    (integerFactorial n).Calculates :=
  .ite (calculates_bind_shown _ fun _ => rfl)
    (.ite (calculates_bind_shown _ fun _ => rfl) (.ofValue _))

theorem calculates_factorial
    (x : Number) :
    (factorial x).Calculates := by
  cases x with
  | int n => exact calculates_integerFactorial n
  | float x =>
      exact
        .ite (calculates_integerFactorial _)
          (calculates_bind_shown _ fun _ => rfl)

end Arithmetic

/-- The kinds of failure that lie in how the tokens stand together. -/
def FailureKind.IsSyntactic : FailureKind → Prop
  | .invalidExpressionStart => True
  | .unexpectedToken => True
  | .missingOperand => True
  | .unbalancedParentheses => True
  | _ => False

/-- The kinds of errors of syntax. -/
theorem FailureKind.isSyntactic_iff
    {kind : FailureKind} :
    kind.IsSyntactic ↔
      kind = .invalidExpressionStart ∨ kind = .unexpectedToken ∨
        kind = .missingOperand ∨ kind = .unbalancedParentheses := by
  cases kind <;> simp [IsSyntactic]

namespace Exit

/-- An exit with an error of syntax. -/
def IsSyntactic : Exit → Prop
  | .failure reported => reported.kind.IsSyntactic
  | .fault _ => False

/-- A position does not make an error one of syntax. -/
theorem isSyntactic_attributedTo
    (exit : Exit)
    (position : Nat) :
    (exit.attributedTo position).IsSyntactic ↔ exit.IsSyntactic := by
  rcases exit with ⟨⟨cause, _ | known⟩⟩ | fault <;> rfl

/-- Operations do not raise errors of syntax. -/
theorem OfOperation.not_isSyntactic
    {exit : Exit}
    (raised : exit.OfOperation) :
    ¬ exit.IsSyntactic := by
  cases raised with
  | @domain cause isDomain =>
      intro isSyntactic
      change cause.kind.IsSyntactic at isSyntactic
      rw [isDomain] at isSyntactic
      exact isSyntactic
  | unwritable => exact id

end Exit

/-- An attempt that does not exit with an error of syntax. -/
def Attempt.Semantic
    {α : Type}
    (attempt : Attempt α) :
    Prop :=
  attempt.Satisfies (fun _ => True) fun exit => ¬ exit.IsSyntactic

/-- A name is bound, or it is undefined. -/
theorem semantic_boundValue
    (found : Option Number)
    (name : String)
    (position : Option Nat) :
    (boundValue found name position).Semantic := by
  cases found with
  | some number => exact .ok trivial
  | none => exact .error id

/-- What a call exits with: a failure of its function or its argument, or a fault. -/
inductive Exit.OfCall
    (name : String)
    (position : Option Nat) :
    Exit →
    Prop where
  | undefinedFunction :
      OfCall name position (.failure ⟨.undefinedFunction name, position⟩)
  | argumentMismatch
      (count : Nat) :
      OfCall name position (.failure ⟨.argumentMismatch name count, position⟩)
  | callUndefined
      (argument reason : String) :
      OfCall name position
        (.failure ⟨.callUndefined name argument reason, position⟩)
  | fault
      {fault : Fault} :
      OfCall name position (.fault fault)

/-- A call fails for its function or its argument. -/
theorem Functions.value_exits
    (functions : Functions)
    (name : String)
    (argument : Option Number)
    (position : Option Nat) :
    (functions.value name argument position).Satisfies
      (fun _ => True) (Exit.OfCall name position) := by
  have shown :
      Attempt.Satisfies (fun _ => True) (Exit.OfCall name position)
        (shownArgument argument) := by
    cases argument with
    | none => exact .ok trivial
    | some number => exact Arithmetic.shown_exits .fault number
  unfold value
  split
  case h_1 fault _ =>
    split
    · exact .error (.argumentMismatch _)
    · exact shown.bind fun _ _ => .error (.callUndefined _ _)
    · exact shown.bind fun _ _ => .error (.callUndefined _ _)
    · exact .error .fault
    · exact .error .fault
  case h_2 => exact .error .undefinedFunction
  case h_3 => exact shown.map fun _ _ => trivial

/-- A call raises no error of syntax. -/
theorem Functions.semantic_value
    (functions : Functions)
    (name : String)
    (argument : Option Number)
    (position : Option Nat) :
    (functions.value name argument position).Semantic :=
  (functions.value_exits name argument position).mono (fun _ _ => trivial)
    fun _ raised => by
      cases raised with
      | undefinedFunction => exact id
      | argumentMismatch count => exact id
      | callUndefined argument reason => exact id
      | fault => exact id

namespace Grammar

/-- What the tokens of a grammar stand for raises no errors of syntax. -/
structure Semantic
    (grammar : Grammar) : Prop where
  literal :
    ∀ {token read},
      grammar.opening? token = some (.literal read) →
      (read token.lexeme).Semantic
  operator :
    ∀ {token operation precedence} operand,
      grammar.opening? token = some (.operator operation precedence) →
      (operation operand).Semantic
  binary :
    ∀ {token operation precedence associativity} left right,
      grammar.continuation? token =
        some (.binary operation precedence associativity) →
      (operation left right).Semantic
  trailing :
    ∀ {token operation precedence} operand,
      grammar.continuation? token =
        some (.trailing operation precedence) →
      (operation operand).Semantic

/-- What the tokens of a grammar stand for exits only as a relation to the token says. -/
structure Raises
    (grammar : Grammar)
    (exits : Token → Exit → Prop) : Prop where
  literal :
    ∀ {token read},
      grammar.opening? token = some (.literal read) →
      (read token.lexeme).Satisfies (fun _ => True) (exits token)
  operator :
    ∀ {token operation precedence} operand,
      grammar.opening? token = some (.operator operation precedence) →
      (operation operand).Satisfies (fun _ => True) (exits token)
  binary :
    ∀ {token operation precedence associativity} left right,
      grammar.continuation? token =
        some (.binary operation precedence associativity) →
      (operation left right).Satisfies (fun _ => True) (exits token)
  trailing :
    ∀ {token operation precedence} operand,
      grammar.continuation? token =
        some (.trailing operation precedence) →
      (operation operand).Satisfies (fun _ => True) (exits token)

/-- What implies the exits of a grammar is a relation of its exits too. -/
theorem Raises.mono
    {grammar : Grammar}
    {exits more : Token → Exit → Prop}
    (raises : grammar.Raises exits)
    (allows : ∀ token exit, exits token exit → more token exit) :
    grammar.Raises more where
  literal known :=
    (raises.literal known).mono (fun _ _ => trivial) (allows _)
  operator operand known :=
    (raises.operator operand known).mono (fun _ _ => trivial) (allows _)
  binary left right known :=
    (raises.binary left right known).mono (fun _ _ => trivial) (allows _)
  trailing operand known :=
    (raises.trailing operand known).mono (fun _ _ => trivial) (allows _)

/-- What the calculator exits with at a token: as operations do, or for a number unread. -/
inductive RaisedAt
    (token : Token) :
    Exit →
    Prop where
  | operation
      {exit : Exit}
      (raised : exit.OfOperation) :
      RaisedAt token exit
  | malformed
      (slot : (SlotKey.ofToken token).slot = TokenKind.number.name)
      (unread : Numeral.number? token.lexeme = none) :
      RaisedAt token (.unplaced (.malformedNumber token.lexeme))

/-- The calculator exits for its operands, or for the digits of a number. -/
theorem raises_frozenStandard : frozenStandard.Raises RaisedAt where
  literal known := by
    cases standardOpening known with
    | literal slot =>
        unfold Arithmetic.number
        split
        case h_1 => exact .ok trivial
        case h_2 unread => exact .error (.malformed slot unread)
  operator operand known := by
    cases standardOpening known
    exact
      (Arithmetic.calculates_negate operand).mono (fun _ _ => trivial)
        fun _ => .operation
  binary left right known := by
    cases standardContinuation known with
    | sum listed =>
        exact
          (Arithmetic.calculates_of_mem_sumOperators listed left
            right).mono (fun _ _ => trivial) fun _ => .operation
    | product listed =>
        exact
          (Arithmetic.calculates_of_mem_productOperators listed left
            right).mono (fun _ _ => trivial) fun _ => .operation
    | power =>
        exact
          (Arithmetic.calculates_power left right).mono
            (fun _ _ => trivial) fun _ => .operation
  trailing operand known := by
    cases standardContinuation known
    exact
      (Arithmetic.calculates_factorial operand).mono (fun _ _ => trivial)
        fun _ => .operation

/-- What the calculator exits with at a token is no error of syntax. -/
theorem RaisedAt.not_isSyntactic
    {token : Token}
    {exit : Exit}
    (raised : RaisedAt token exit) :
    ¬ exit.IsSyntactic := by
  cases raised with
  | operation raised => exact raised.not_isSyntactic
  | malformed => exact id

/-- The operations of the calculator raise no errors of syntax. -/
theorem semantic_frozenStandard : frozenStandard.Semantic := by
  have raises := raises_frozenStandard.mono fun _ _ => RaisedAt.not_isSyntactic
  exact {
    literal := raises.literal
    operator := raises.operator
    binary := raises.binary
    trailing := raises.trailing
  }

end Grammar

/-- What the calculator exits with when it evaluates tokens. -/
inductive Exit.OfCalculator
    (tokens : List Token) :
    Exit →
    Prop where
  | fault
      {fault : Fault} :
      OfCalculator tokens (.fault fault)
  | unexpectedStart
      {token : Token}
      (member : token ∈ tokens) :
      OfCalculator tokens (.placed (.unexpectedStart token.lexeme) token.position)
  | unexpectedToken
      {token : Token}
      (member : token ∈ tokens) :
      OfCalculator tokens (.placed (.unexpectedToken token.lexeme) token.position)
  | missingOperand
      {token : Token}
      (member : token ∈ tokens) :
      OfCalculator tokens (.placed (.missingOperand token.lexeme) token.position)
  | unbalanced
      {cause : Cause}
      {position : Nat}
      (isUnbalanced : cause.kind = .unbalancedParentheses) :
      OfCalculator tokens (.placed cause position)
  | undefinedVariable
      {token : Token}
      (member : token ∈ tokens) :
      OfCalculator tokens (.placed (.undefinedVariable token.lexeme) token.position)
  | call
      {token : Token}
      {exit : Exit}
      (member : token ∈ tokens)
      (raised : exit.OfCall token.lexeme (some token.position)) :
      OfCalculator tokens exit
  | operation
      {token : Token}
      {exit : Exit}
      (member : token ∈ tokens)
      (raised : Grammar.RaisedAt token exit) :
      OfCalculator tokens (exit.attributedTo token.position)

/-- An operation of the calculator exits as one at its token. -/
theorem Grammar.ofCalculator_of_raises
    {tokens : List Token}
    {token : Token}
    (member : token ∈ tokens)
    {attempt : Attempt Number}
    (raises : attempt.Satisfies (fun _ => True) (RaisedAt token)) :
    attempt.Satisfies (fun _ => True)
      fun exit => (exit.attributedTo token.position).OfCalculator tokens :=
  raises.mono (fun _ _ => trivial) fun _ raised => .operation member raised

/-- The tokens to come are those that are evaluated, so every exit is at one of them. -/
theorem Evaluator.closed_ofCalculator
    (environment : Environment)
    (tokens : List Token) :
    Closed ⟨Grammar.frozenStandard, environment⟩
      (fun token _ => token ∈ tokens)
      (fun progress => progress.stream.rest ⊆ tokens)
      (fun _ => True)
      (Exit.OfCalculator tokens) where
  finds progress token later subset shape :=
    subset (by rw [shape]; exact List.mem_cons_self)
  skips progress subset _ := List.Subset.trans (List.drop_subset 1 _) subset
  assigns _ _ _ _ _ subset _ _ _ _ := subset
  nesting := .fault
  unexpectedStart _ _ member := .unexpectedStart member
  missingOperand _ _ member := .missingOperand member
  unclosedGroup _ _ := .unbalanced rfl
  unclosedCall _ _ _ _ _ := .unbalanced rfl
  reference progress token _ member := by
    cases progress.find? environment.values token.lexeme with
    | some number => exact .ok trivial
    | none => exact .error (.undefinedVariable member)
  call token _ argument member _ :=
    (environment.functions.value_exits token.lexeme argument _).mono
      (fun _ _ => trivial) fun _ raised => .call member raised
  literal token _ read member known :=
    Grammar.ofCalculator_of_raises member
      (Grammar.raises_frozenStandard.literal known)
  operator token _ operation precedence operand member known _ :=
    Grammar.ofCalculator_of_raises member
      (Grammar.raises_frozenStandard.operator operand known)
  binary token _ operation precedence associativity left right member known
      _ _ :=
    Grammar.ofCalculator_of_raises member
      (Grammar.raises_frozenStandard.binary left right known)
  trailing token _ operation precedence operand member known _ :=
    Grammar.ofCalculator_of_raises member
      (Grammar.raises_frozenStandard.trailing operand known)

/-- A complete evaluation of tokens exits only as the calculator does. -/
theorem Expression.ofCalculator_of_run_complete
    {environment : Environment}
    {levels : Nat}
    {tokens : List Token}
    {exit : Exit}
    {after : Progress}
    (ran :
      (complete ⟨Grammar.frozenStandard, environment⟩ levels).run
        (Progress.start tokens) = .error exit after) :
    exit.OfCalculator tokens := by
  have leaves :=
    (Evaluator.closed_ofCalculator environment tokens).complete
      (fun _ _ member => .unexpectedToken member)
      levels (Progress.start tokens) (List.Subset.refl tokens)
  rw [ran] at leaves
  exact leaves.1

end Reckoner
