import Reckoner.Proofs.Token.Lexeme

namespace Reckoner

/-!
# The slots of the standard grammar

What a token means in the standard grammar is known from its slot. The two relations
below list the meanings, so that a statement about all of them is proved by cases.
-/

/-- The operators of sums. -/
def sumOperators : List (String × BinaryOperation) :=
  [("+", Arithmetic.add), ("-", Arithmetic.subtract)]

/-- The operators of products. -/
def productOperators : List (String × BinaryOperation) :=
  [
    ("*", Arithmetic.multiply),
    ("/", Arithmetic.divide),
    ("%", Arithmetic.modulo)
  ]

namespace Grammar

/-- A token whose slot is a symbol is that symbol, unless it names a kind. -/
theorem isSymbol_of_slot
    {token : Token}
    {symbol : String}
    (slot : (SlotKey.ofToken token).slot = symbol)
    (notNumber : symbol ≠ TokenKind.number.name)
    (notIdentifier : symbol ≠ TokenKind.identifier.name) :
    token.isSymbol symbol = true := by
  rcases token with ⟨kind, lexeme, position⟩
  cases kind with
  | number => exact absurd slot.symm notNumber
  | identifier => exact absurd slot.symm notIdentifier
  | symbol =>
      have same : lexeme = symbol := slot
      simp [Token.isSymbol, same]

/-- A token whose slot is that of numbers is one, unless a symbol has the name. -/
theorem isNumber_of_slot
    {token : Token}
    (named : token.NamesNoKind)
    (slot : (SlotKey.ofToken token).slot = TokenKind.number.name) :
    token.kind = .number := by
  rcases token with ⟨kind, lexeme, position⟩
  cases kind with
  | number => rfl
  | identifier =>
      have clash : TokenKind.identifier.name = TokenKind.number.name := slot
      exact absurd clash (by decide)
  | symbol => exact absurd slot (named rfl).1

/-- A token whose slot is that of names is one, unless a symbol has the name. -/
theorem isIdentifier_of_slot
    {token : Token}
    (named : token.NamesNoKind)
    (slot : (SlotKey.ofToken token).slot = TokenKind.identifier.name) :
    token.kind = .identifier := by
  rcases token with ⟨kind, lexeme, position⟩
  cases kind with
  | number =>
      have clash : TokenKind.number.name = TokenKind.identifier.name := slot
      exact absurd clash (by decide)
  | identifier => rfl
  | symbol => exact absurd slot (named rfl).2

/-- The openings of the standard grammar and the tokens that have them. -/
inductive StandardOpening
    (token : Token) :
    Opening →
    Prop where
  | group
      (isOpened : token.isSymbol "(" = true) :
      StandardOpening token .group
  | literal
      (slot : (SlotKey.ofToken token).slot = TokenKind.number.name) :
      StandardOpening token (.literal Arithmetic.number)
  | name
      (slot : (SlotKey.ofToken token).slot = TokenKind.identifier.name) :
      StandardOpening token .name
  | sign
      (isSign : token.isSymbol "-" = true) :
      StandardOpening token (.operator Arithmetic.negate .beforeOperand)

/-- The continuations of the standard grammar and the tokens that have them. -/
inductive StandardContinuation
    (token : Token) :
    Continuation →
    Prop where
  | sum
      {symbol : String}
      {operation : BinaryOperation}
      (known : (symbol, operation) ∈ sumOperators)
      (isOperator : token.isSymbol symbol = true) :
      StandardContinuation token (.binary operation .sum .left)
  | product
      {symbol : String}
      {operation : BinaryOperation}
      (known : (symbol, operation) ∈ productOperators)
      (isOperator : token.isSymbol symbol = true) :
      StandardContinuation token (.binary operation .product .left)
  | power
      (isOperator : token.isSymbol "^" = true) :
      StandardContinuation token
        (.binary Arithmetic.power .exponent .right)
  | factorial
      (isSign : token.isSymbol "!" = true) :
      StandardContinuation token
        (.trailing Arithmetic.factorial .factorial)

/-- A token opens an operand in the standard grammar as its slot says. -/
theorem standardOpening
    {token : Token}
    {opening : Opening}
    (known : frozenStandard.opening? token = some opening) :
    StandardOpening token opening := by
  have member := Table.mem_of_get?_ofList known
  simp only [List.mem_cons, Prod.mk.injEq, List.not_mem_nil,
    or_false] at member
  rcases member with ⟨slot, rfl⟩ | ⟨slot, rfl⟩ | ⟨slot, rfl⟩ | ⟨slot, rfl⟩
  · exact .group (isSymbol_of_slot slot (by decide) (by decide))
  · exact .literal slot
  · exact .name slot
  · exact .sign (isSymbol_of_slot slot (by decide) (by decide))

/-- What opens a name in the standard grammar is an identifier. -/
theorem isIdentifier_of_opening
    {token : Token}
    (named : token.NamesNoKind)
    (opens : frozenStandard.opening? token = some .name) :
    token.kind = .identifier := by
  cases standardOpening opens with
  | name slot => exact isIdentifier_of_slot named slot

/-- A token continues an operand in the standard grammar as its text says. -/
theorem standardContinuation
    {token : Token}
    {continuation : Continuation}
    (known : frozenStandard.continuation? token = some continuation) :
    StandardContinuation token continuation := by
  have member := Table.mem_of_get?_ofList known
  simp only [List.mem_cons, Prod.mk.injEq, List.not_mem_nil,
    or_false] at member
  rcases member with ⟨slot, rfl⟩ | ⟨slot, rfl⟩ | ⟨slot, rfl⟩ |
    ⟨slot, rfl⟩ | ⟨slot, rfl⟩ | ⟨slot, rfl⟩ | ⟨slot, rfl⟩
  all_goals have isSymbol := isSymbol_of_slot slot (by decide) (by decide)
  · exact .sum (by simp [sumOperators]) isSymbol
  · exact .sum (by simp [sumOperators]) isSymbol
  · exact .product (by simp [productOperators]) isSymbol
  · exact .product (by simp [productOperators]) isSymbol
  · exact .product (by simp [productOperators]) isSymbol
  · exact .power isSymbol
  · exact .factorial isSymbol

end Grammar

end Reckoner
