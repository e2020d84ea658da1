namespace Reckoner.Toml

/-!
# Reading parts of a document

A reader takes a part of a document from the front of a text and gives what it
denotes and the text that follows. Where a reader repeats, its first argument
bounds the number of rounds; the number of characters left is always enough.
-/

/-- Why a document cannot be read. -/
inductive Error where
  /-- The text is not a document. -/
  | invalid
  /-- A decimal integer has more digits than an integer may have. -/
  | integerTooLong (digits : Nat)
  /-- Arrays and inline tables are nested too deeply. -/
  | nesting
  deriving Repr, DecidableEq

/--
The stack that a reader of documents works on.

How much of it is left for a value depends on who asks for the document, and how much a
value takes depends on the reader.
-/
structure Stack where
  /-- The frames there are for a value outside of arrays and inline tables. -/
  frames : Nat
  /--
  The frames that the value at the front of a text takes at most, beyond the first three
  and those of the values in it.
  -/
  needed : List Char → Nat

/-- A stack with about as many frames as there mostly are, and values that take few. -/
def Stack.standard : Stack :=
  ⟨960, fun _ => 0⟩

/-- What a part of a document denotes, and the text after it. -/
abbrev Reading (α : Type) :=
  Except Error (α × List Char)

/-- Reads a part of a document from the front of a text. -/
abbrev Reader (α : Type) :=
  List Char → Except Error (α × List Char)

/-- Whether a character is a space or a tab. -/
def isSpace
    (character : Char) :
    Bool :=
  character = ' ' || character = '\t'

/-- Whether a character is a space, a tab or a line end. -/
def isSpaceOrLineEnd
    (character : Char) :
    Bool :=
  isSpace character || character = '\n'

/-- The text after its leading spaces and tabs. -/
def skipSpaces
    (text : List Char) :
    List Char :=
  text.dropWhile isSpace

/-- Whether a control character, other than the tab, may not be written as it is. -/
def isIllegal
    (character : Char) :
    Bool :=
  (character.toNat < 32 && character ≠ '\t') || character.toNat = 127

/-- The text after a comment at its front, if one starts there. -/
def skipComment : List Char → Except Error (List Char)
  | '#' :: rest =>
      if (rest.takeWhile (· ≠ '\n')).any isIllegal then
        .error .invalid
      else
        .ok (rest.dropWhile (· ≠ '\n'))
  | rest => .ok rest

/-- The text after spaces, line ends and comments. -/
def skipCommentsAndLines :
    Nat →
    List Char →
    Except Error (List Char)
  | 0, text => .ok text
  | rounds + 1, text =>
      match text.dropWhile isSpaceOrLineEnd with
      | '#' :: rest =>
          (skipComment ('#' :: rest)).bind (skipCommentsAndLines rounds)
      | rest => .ok rest

/-- The text after an expected word at its front. -/
def dropWord? :
    List Char →
    List Char →
    Option (List Char)
  | [], text => some text
  | _ :: _, [] => none
  | expected :: word, character :: text =>
      if expected = character then dropWord? word text else none

/-- The value of a hexadecimal digit. -/
def hexValue?
    (character : Char) :
    Option Nat :=
  if '0' ≤ character ∧ character ≤ '9' then
    some (character.toNat - '0'.toNat)
  else if 'a' ≤ character ∧ character ≤ 'f' then
    some (character.toNat - 'a'.toNat + 10)
  else if 'A' ≤ character ∧ character ≤ 'F' then
    some (character.toNat - 'A'.toNat + 10)
  else
    none

/-- The number written by digits in a base. -/
def ofDigits
    (base : Nat)
    (digits : List Nat) :
    Nat :=
  digits.foldl (fun value digit => base * value + digit) 0

end Reckoner.Toml
