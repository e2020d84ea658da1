import Reckoner.Grammar.Basic

namespace Reckoner

/-!
# A shelf of grammars

Grammars are kept by name. A command makes a grammar, copies one, freezes one or
registers a meaning in one; a refused command changes nothing on the shelf.
-/

/-- The grammars known by name. -/
abbrev Shelf :=
  Table String Grammar

/-- What can be done with the grammars of a shelf. -/
inductive ShelfCommand where
  /-- Put an empty grammar on the shelf. -/
  | makeEmpty (name : String)
  /-- Put the open grammar of the calculator on the shelf. -/
  | makeStandard (name : String)
  /-- Put a copy of a grammar on the shelf. -/
  | copy (name copyName : String)
  | freeze (name : String)
  | registerOpening (name : String) (key : SlotKey) (opening : Opening)
  | registerContinuation
      (name : String)
      (key : SlotKey)
      (continuation : Continuation)
  /-- Register an operator before its operand. -/
  | registerBefore
      (name : String)
      (key : SlotKey)
      (operation : UnaryOperation)
      (precedence : Precedence)
  /-- Register an operator after its operand. -/
  | registerAfter
      (name : String)
      (key : SlotKey)
      (operation : UnaryOperation)
      (precedence : Precedence)
  /-- Register an operator between two operands. -/
  | registerBetween
      (name : String)
      (key : SlotKey)
      (operation : BinaryOperation)
      (precedence : Precedence)
      (associativity : Associativity)

namespace Shelf

/-- The shelf with the fixed grammar of the calculator under a name. -/
def withStandard
    (name : String) :
    Shelf :=
  Table.empty.insert name Grammar.frozenStandard

/-- The grammar of a name; an unknown name has the empty grammar. -/
def grammar
    (shelf : Shelf)
    (name : String) :
    Grammar :=
  (Table.get? shelf name).getD Grammar.empty

/-- The shelf after a command, or why the command is refused. -/
def apply
    (shelf : Shelf) :
    ShelfCommand →
    Except RegistrationError Shelf
  | .makeEmpty name => .ok (Table.insert shelf name Grammar.empty)
  | .makeStandard name => .ok (Table.insert shelf name Grammar.standard)
  | .copy name copyName =>
      .ok (Table.insert shelf copyName (shelf.grammar name).copy)
  | .freeze name => .ok (Table.insert shelf name (shelf.grammar name).freeze)
  | .registerOpening name key opening =>
      ((shelf.grammar name).registerOpening key opening).map
        (Table.insert shelf name)
  | .registerContinuation name key continuation =>
      ((shelf.grammar name).registerContinuation key continuation).map
        (Table.insert shelf name)
  | .registerBefore name key operation precedence =>
      ((shelf.grammar name).registerBefore key operation precedence).map
        (Table.insert shelf name)
  | .registerAfter name key operation precedence =>
      ((shelf.grammar name).registerAfter key operation precedence).map
        (Table.insert shelf name)
  | .registerBetween name key operation precedence associativity =>
      ((shelf.grammar name).registerBetween key operation precedence
        associativity).map (Table.insert shelf name)

end Shelf

end Reckoner
