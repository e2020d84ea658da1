import Reckoner.Failure
import Reckoner.Token.Basic

namespace Reckoner

/-!
# Token streams

A stream is a cursor in a list of tokens that only moves forward. It keeps the
tokens still to come, the number of those passed, and the offset just past the
last token of the whole list, where errors at the end of the input are reported.
-/

/-- A forward cursor in a list of tokens. -/
structure TokenStream where
  passed : Nat
  rest : List Token
  endPosition : Nat
  deriving Repr, DecidableEq

namespace TokenStream

/-- The stream at the first of the tokens. -/
def ofTokens
    (tokens : List Token) :
    TokenStream :=
  ⟨0, tokens, Token.endOfAll tokens⟩

/-- Whether all tokens have been passed. -/
def isExhausted
    (stream : TokenStream) :
    Bool :=
  stream.rest.isEmpty

/-- The next token, if there is one. -/
def peek?
    (stream : TokenStream) :
    Option Token :=
  stream.rest.head?

/-- Pass the next token; there must be one. -/
def consume
    (stream : TokenStream) :
    Except Fault (Token × TokenStream) :=
  match stream.rest with
  | [] => .error .exhausted
  | token :: rest =>
      .ok (token, { stream with passed := stream.passed + 1, rest := rest })

/-- Whether the next token is the given symbol. -/
def nextIs
    (stream : TokenStream)
    (symbol : String) :
    Bool :=
  match stream.peek? with
  | none => false
  | some token => token.isSymbol symbol

/-- The offset of the next token, or the end of the input. -/
def position
    (stream : TokenStream) :
    Nat :=
  match stream.peek? with
  | none => stream.endPosition
  | some token => token.position

/-- A stream has a next token exactly when it is not exhausted. -/
theorem isSome_peek?
    (stream : TokenStream) :
    stream.peek?.isSome = !stream.isExhausted := by
  cases stream with
  | mk passed rest endPosition => cases rest <;> rfl

end TokenStream

end Reckoner
