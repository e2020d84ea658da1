namespace Reckoner

/-!
# Tokens

A token is a piece of the source with a kind and the offset where it starts.
Offsets and lengths count characters.
-/

/-- The kinds of token. -/
inductive TokenKind where
  | number
  | identifier
  | symbol
  deriving Repr, DecidableEq

/-- The name of a kind of token. -/
def TokenKind.name : TokenKind → String
  | .number => "number"
  | .identifier => "identifier"
  | .symbol => "symbol"

/-- A piece of the source: its kind, its text and its offset. -/
structure Token where
  kind : TokenKind
  lexeme : String
  position : Nat
  deriving Repr, DecidableEq

namespace Token

/-- The offset just past a token. -/
def endPosition
    (token : Token) :
    Nat :=
  token.position + token.lexeme.length

/-- The offset just past the last of the tokens. -/
def endOfAll
    (tokens : List Token) :
    Nat :=
  match tokens.getLast? with
  | none => 0
  | some last => last.endPosition

/-- Whether a token is the given operator or punctuation symbol. -/
def isSymbol
    (token : Token)
    (symbol : String) :
    Bool :=
  token.kind = .symbol && token.lexeme = symbol

end Token

end Reckoner
