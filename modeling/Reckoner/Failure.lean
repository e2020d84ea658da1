import Reckoner.Text.Quoted

namespace Reckoner

/-!
# How an evaluation can end without a value

A *failure* is a fault of the evaluated text: it has a cause, and a position if
one is known. Failures are reported to whoever asked for the evaluation.

A *fault* is not reported: it leaves the evaluation, unless a function call turns
it into a failure. An *exit* is either of the two.
-/

/-- The categories of failure. -/
inductive FailureKind where
  | undefinedIdentifier
  | unbalancedParentheses
  | invalidExpressionStart
  | unexpectedToken
  | malformedNumber
  | missingOperand
  | argumentMismatch
  | mathDomain
  | nestingTooDeep
  deriving Repr, DecidableEq

/-- Why a text cannot be evaluated. -/
inductive Cause where
  /-- A name that no variable has. -/
  | undefinedVariable (name : String)
  /-- A call of a name that no function has, or of one that gives no value. -/
  | undefinedFunction (name : String)
  /-- A group without its closing parenthesis. -/
  | unclosedGroup
  /-- A call without its closing parenthesis. -/
  | unclosedCall (name : String)
  /-- A token that cannot start an expression. -/
  | unexpectedStart (lexeme : String)
  /-- A token after a complete expression. -/
  | unexpectedToken (lexeme : String)
  /-- Digits and points that are no number, or too many digits. -/
  | malformedNumber (lexeme : String)
  /-- An operator, parenthesis or assignment at the end of the input. -/
  | missingOperand (lexeme : String)
  /-- A function called with a number of arguments it does not take. -/
  | argumentMismatch (name : String) (count : Nat)
  /-- A function without a value at its argument, as the call is written. -/
  | callUndefined (name argument reason : String)
  | divisionByZero
  | moduloByZero
  | zeroToNegativePower
  /-- A result of an operator that no number of its kind can hold. -/
  | tooLarge (symbol : String)
  /-- A power that is no real number. -/
  | powerNotReal
  | factorialOfFraction (operand : String)
  | factorialOfNegative (operand : String)
  | factorialTooLarge (operand : String)
  | nestingTooDeep
  /-- A failure that an operation of a custom grammar states in its own words. -/
  | stated (kind : FailureKind) (message : String)
  deriving Repr, DecidableEq

namespace Cause

/-- The category of a cause. -/
def kind : Cause → FailureKind
  | undefinedVariable _ => .undefinedIdentifier
  | undefinedFunction _ => .undefinedIdentifier
  | unclosedGroup => .unbalancedParentheses
  | unclosedCall _ => .unbalancedParentheses
  | unexpectedStart _ => .invalidExpressionStart
  | unexpectedToken _ => .unexpectedToken
  | malformedNumber _ => .malformedNumber
  | missingOperand _ => .missingOperand
  | argumentMismatch _ _ => .argumentMismatch
  | callUndefined _ _ _ => .mathDomain
  | divisionByZero => .mathDomain
  | moduloByZero => .mathDomain
  | zeroToNegativePower => .mathDomain
  | tooLarge _ => .mathDomain
  | powerNotReal => .mathDomain
  | factorialOfFraction _ => .mathDomain
  | factorialOfNegative _ => .mathDomain
  | factorialTooLarge _ => .mathDomain
  | nestingTooDeep => .nestingTooDeep
  | stated kind _ => kind

/-- The message that states a cause. -/
def message : Cause → String
  | undefinedVariable name => "Undefined identifier: " ++ name
  | undefinedFunction name => "Undefined function: " ++ name ++ "()"
  | unclosedGroup => "Expected ')' to close '('"
  | unclosedCall name => "Expected ')' to close call to " ++ name ++ "()"
  | unexpectedStart lexeme =>
      "Unexpected " ++ Text.quoted lexeme ++ " at start of expression"
  | unexpectedToken lexeme =>
      "Unexpected " ++ Text.quoted lexeme ++ " after expression"
  | malformedNumber lexeme => "Malformed number: " ++ Text.quoted lexeme
  | missingOperand lexeme => "Missing operand for " ++ Text.quoted lexeme
  | argumentMismatch name count =>
      name ++ "() cannot be called with " ++ toString count ++
        (if count = 1 then " argument" else " arguments")
  | callUndefined name argument reason =>
      name ++ "(" ++ argument ++ "): " ++ reason
  | divisionByZero => "Division by zero"
  | moduloByZero => "Modulo by zero"
  | zeroToNegativePower => "Zero to a negative power"
  | tooLarge symbol => "Result of '" ++ symbol ++ "' is too large"
  | powerNotReal => "Power has no real value"
  | factorialOfFraction operand => "Factorial of non-integer " ++ operand
  | factorialOfNegative operand => "Factorial of negative number " ++ operand
  | factorialTooLarge operand => "Factorial of " ++ operand ++ " is too large"
  | nestingTooDeep => "Expression is nested too deeply"
  | stated _ message => message

end Cause

/-- A cause and, if it is known, the offset in the source that it concerns. -/
structure Failure where
  cause : Cause
  position : Option Nat
  deriving Repr, DecidableEq

namespace Failure

/-- The message without the position. -/
def message
    (failure : Failure) :
    String :=
  failure.cause.message

/-- The category of the cause. -/
def kind
    (failure : Failure) :
    FailureKind :=
  failure.cause.kind

/-- The message followed by the position, if it is known. -/
def text
    (failure : Failure) :
    String :=
  match failure.position with
  | none => failure.message
  | some position =>
      failure.message ++ " (at position " ++ toString position ++ ")"

end Failure

/-- The categories of fault. -/
inductive FaultKind where
  /-- A function got a number of arguments it does not take. -/
  | arguments
  /-- An argument has no result, or a number has no text. -/
  | value
  /-- A result does not fit into the kind of number it should have. -/
  | overflow
  /-- A token was asked for after the last one. -/
  | exhausted
  /-- Expressions were nested beyond the limit. -/
  | nesting
  deriving Repr, DecidableEq

/-- What stops an evaluation without being a failure of its text. -/
inductive Fault where
  | wrongArguments
  /-- A function has no value at its argument. -/
  | outsideDomain
  /-- A value without a number has no integer part. -/
  | notANumber
  /-- An infinity has no integer part. -/
  | infinite
  /-- No double is as large as an integer. -/
  | beyondFloats
  /-- An integer has too many digits to be written. -/
  | beyondDigits
  | exhausted
  | nesting
  deriving Repr, DecidableEq

namespace Fault

/-- The category of a fault. -/
def kind : Fault → FaultKind
  | wrongArguments => .arguments
  | outsideDomain => .value
  | notANumber => .value
  | infinite => .overflow
  | beyondFloats => .overflow
  | beyondDigits => .value
  | exhausted => .exhausted
  | nesting => .nesting

/-- The message that states a fault. -/
def message : Fault → String
  | wrongArguments => "wrong number of arguments"
  | outsideDomain => "math domain error"
  | notANumber => "cannot convert float NaN to integer"
  | infinite => "cannot convert float infinity to integer"
  | beyondFloats => "int too large to convert to float"
  | beyondDigits =>
      "Exceeds the limit (4300 digits) for integer string conversion; " ++
        "use sys.set_int_max_str_digits() to increase the limit"
  | exhausted => "consume() past the end of the token stream"
  | nesting => "nesting too deep"

end Fault

/-- How an evaluation ends if it has no value. -/
inductive Exit where
  | failure (failure : Failure)
  | fault (fault : Fault)
  deriving Repr, DecidableEq

namespace Exit

/-- Give a failure without a position the position of a token. -/
def attributedTo
    (position : Nat) :
    Exit → Exit
  | .failure ⟨cause, none⟩ => .failure ⟨cause, some position⟩
  | exit => exit

/-- A failure whose position is not known yet. -/
def unplaced
    (cause : Cause) :
    Exit :=
  .failure ⟨cause, none⟩

/-- A failure at an offset in the source. -/
def placed
    (cause : Cause)
    (position : Nat) :
    Exit :=
  .failure ⟨cause, some position⟩

end Exit

/-- A computation with a result or an exit. -/
abbrev Attempt (α : Type) := Except Exit α

end Reckoner
