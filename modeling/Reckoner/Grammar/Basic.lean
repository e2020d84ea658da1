import Reckoner.Environment
import Reckoner.Token.Basic

namespace Reckoner

/-!
# Grammars

A grammar says what each token means in an expression: as the start of an operand
(its *opening*), and after an operand (its *continuation*). Numbers share one slot
of each table and so do identifiers; every symbol has slots of its own.

A slot that is filled stays as it is, and a frozen grammar takes no registrations.
A copy of a grammar has the same tables and is not frozen.
-/

/-- How tightly an operator binds; only the order of two precedences matters. -/
abbrev Precedence := Int

namespace Precedence

/-- Below every operator: where a complete expression starts. -/
def belowAssignment : Precedence := 0

/-- The level of assignments. -/
def assignment : Precedence := 1

/-- The level of conditionals. -/
def conditional : Precedence := 2

/-- The level of addition and subtraction. -/
def sum : Precedence := 3

/-- The level of multiplication, division and remainder. -/
def product : Precedence := 4

/-- The level of powers. -/
def exponent : Precedence := 5

/-- The level of factorials. -/
def factorial : Precedence := 6

/-- The usual level of an operator before its operand. -/
def beforeOperand : Precedence := 7

/-- The usual level of an operator after its operand. -/
def afterOperand : Precedence := 8

/-- The level of calls. -/
def call : Precedence := 9

end Precedence

/-- An operation on one number. -/
abbrev UnaryOperation :=
  Number → Attempt Number

/-- An operation on two numbers. -/
abbrev BinaryOperation :=
  Number → Number → Attempt Number

/-- What a token means at the start of an operand. -/
inductive Opening where
  /-- A complete operand, read from the text of the token. -/
  | literal (read : String → Attempt Number)
  /-- An operator before its operand, which binds at the given precedence. -/
  | operator (operation : UnaryOperation) (precedence : Precedence)
  /-- A parenthesised expression. -/
  | group
  /-- An assignment, a call or a reference, told apart by the next token. -/
  | name

/-- Which side of an operator the same operator is grouped on. -/
inductive Associativity where
  | left
  | right
  deriving Repr, DecidableEq

/-- What a token means after an operand. -/
inductive Continuation where
  /-- An operator between two operands. -/
  | binary
      (operation : BinaryOperation)
      (precedence : Precedence)
      (associativity : Associativity)
  /-- An operator after its only operand. -/
  | trailing (operation : UnaryOperation) (precedence : Precedence)

namespace Continuation

/-- The precedence that decides whether an operator takes the operand before it. -/
def precedence : Continuation → Precedence
  | binary _ precedence _ => precedence
  | trailing _ precedence => precedence

end Continuation

/-- The key of a registration: a kind of token or the text of a symbol. -/
inductive SlotKey where
  | kind (kind : TokenKind)
  | symbol (lexeme : String)
  deriving Repr, DecidableEq

namespace SlotKey

/-- The name of the slot of a key; a kind and a symbol of its name share a slot. -/
def slot : SlotKey → String
  | .kind tokenKind => tokenKind.name
  | .symbol lexeme => lexeme

/-- The key in a message. -/
def shown : SlotKey → String
  | .kind .number => "<TokenKind.NUMBER: 'number'>"
  | .kind .identifier => "<TokenKind.IDENTIFIER: 'identifier'>"
  | .kind .symbol => "<TokenKind.SYMBOL: 'symbol'>"
  | .symbol lexeme => Text.quoted lexeme

/-- The key of a token: its kind, or for a symbol its text. -/
def ofToken
    (token : Token) :
    SlotKey :=
  match token.kind with
  | .number => .kind .number
  | .identifier => .kind .identifier
  | .symbol => .symbol token.lexeme

end SlotKey

/-- Why a registration is refused. -/
inductive RegistrationError where
  | frozen
  | openingTaken (key : SlotKey)
  | continuationTaken (key : SlotKey)
  deriving Repr, DecidableEq

/-- The message that states a refusal. -/
def RegistrationError.message : RegistrationError → String
  | frozen => "Parselet registry is frozen; use copy() to extend it"
  | openingTaken key => "Prefix parselet already registered for " ++ key.shown
  | continuationTaken key =>
      "Infix/postfix parselet already registered for " ++ key.shown

/-- The openings and continuations of tokens, and whether they are fixed. -/
structure Grammar where
  openings : Table String Opening
  continuations : Table String Continuation
  frozen : Bool

namespace Grammar

/-- The grammar in which no token means anything. -/
def empty : Grammar :=
  ⟨Table.empty, Table.empty, false⟩

instance : Inhabited Grammar :=
  ⟨empty⟩

/-- What a token means at the start of an operand. -/
def opening?
    (grammar : Grammar)
    (token : Token) :
    Option Opening :=
  grammar.openings.get? (SlotKey.ofToken token).slot

/-- What a token means after an operand. -/
def continuation?
    (grammar : Grammar)
    (token : Token) :
    Option Continuation :=
  grammar.continuations.get? (SlotKey.ofToken token).slot

/-- Fill the empty opening slot of a key. -/
def registerOpening
    (grammar : Grammar)
    (key : SlotKey)
    (opening : Opening) :
    Except RegistrationError Grammar :=
  if grammar.frozen then
    .error .frozen
  else if grammar.openings.contains key.slot then
    .error (.openingTaken key)
  else
    .ok { grammar with openings := grammar.openings.insert key.slot opening }

/-- Fill the empty continuation slot of a key. -/
def registerContinuation
    (grammar : Grammar)
    (key : SlotKey)
    (continuation : Continuation) :
    Except RegistrationError Grammar :=
  if grammar.frozen then
    .error .frozen
  else if grammar.continuations.contains key.slot then
    .error (.continuationTaken key)
  else
    .ok {
      grammar with
      continuations := grammar.continuations.insert key.slot continuation
    }

/-- Register an operator before its operand. -/
def registerBefore
    (grammar : Grammar)
    (key : SlotKey)
    (operation : UnaryOperation)
    (precedence : Precedence) :
    Except RegistrationError Grammar :=
  grammar.registerOpening key (.operator operation precedence)

/-- Register an operator after its operand. -/
def registerAfter
    (grammar : Grammar)
    (key : SlotKey)
    (operation : UnaryOperation)
    (precedence : Precedence) :
    Except RegistrationError Grammar :=
  grammar.registerContinuation key (.trailing operation precedence)

/-- Register an operator between two operands, which groups to a side. -/
def registerBetween
    (grammar : Grammar)
    (key : SlotKey)
    (operation : BinaryOperation)
    (precedence : Precedence)
    (associativity : Associativity) :
    Except RegistrationError Grammar :=
  grammar.registerContinuation key (.binary operation precedence associativity)

/-- Fix the tables of a grammar. -/
def freeze
    (grammar : Grammar) :
    Grammar :=
  { grammar with frozen := true }

/-- The same tables, open for registrations. -/
def copy
    (grammar : Grammar) :
    Grammar :=
  { grammar with frozen := false }

/-- The grammar of the calculator, open for registrations. -/
def standard : Grammar where
  openings := Table.ofList [
    ("(", .group),
    (TokenKind.number.name, .literal Arithmetic.number),
    (TokenKind.identifier.name, .name),
    ("-", .operator Arithmetic.negate .beforeOperand)
  ]
  continuations := Table.ofList [
    ("-", .binary Arithmetic.subtract .sum .left),
    ("+", .binary Arithmetic.add .sum .left),
    ("*", .binary Arithmetic.multiply .product .left),
    ("/", .binary Arithmetic.divide .product .left),
    ("%", .binary Arithmetic.modulo .product .left),
    ("^", .binary Arithmetic.power .exponent .right),
    ("!", .trailing Arithmetic.factorial .factorial)
  ]
  frozen := false

/-- The grammar of the calculator, fixed. -/
def frozenStandard : Grammar :=
  standard.freeze

end Grammar

end Reckoner
