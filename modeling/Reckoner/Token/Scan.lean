import Reckoner.Token.Run

namespace Reckoner

/-!
# Scanning

A source is scanned once from left to right. The characters of a number or a word are
held back until a character of another class or the end of the source closes it; only
then it becomes a token, or stops the scan as a malformed number.
-/

/-- What a scan is in the middle of. -/
inductive ScanPhase where
  | start
  | number
  | operator
  | identifier
  deriving Repr, DecidableEq

/-- How far a scan has come. Characters and tokens are kept newest first. -/
structure Scan where
  phase : ScanPhase
  /-- The characters of the number or word that may still grow. -/
  held : List Char
  /-- The offset where the characters held back start. -/
  heldFrom : Nat
  tokens : List Token
  deriving Repr, DecidableEq

namespace Scan

/-- The scan before the first character. -/
def initial : Scan :=
  ⟨.start, [], 0, []⟩

/-- The token of a complete lexeme, according to the phase that collected it. -/
def classify
    (phase : ScanPhase)
    (lexeme : List Char)
    (position : Nat) :
    Except Failure Token :=
  if phase = .number then
    if Run.isNumeral lexeme then
      .ok ⟨.number, String.ofList lexeme, position⟩
    else
      .error ⟨.malformedNumber (String.ofList lexeme), some position⟩
  else
    .ok ⟨Run.wordKind lexeme, String.ofList lexeme, position⟩

/-- Make a token of the characters held back, if there are any. -/
def flush
    (scan : Scan) :
    Except Failure Scan :=
  if scan.held = [] then
    .ok scan
  else
    (classify scan.phase scan.held.reverse scan.heldFrom).map fun token =>
      { scan with held := [], tokens := token :: scan.tokens }

/-- Hold back a character at an offset, behind those of the same phase. -/
def hold
    (scan : Scan)
    (phase : ScanPhase)
    (position : Nat)
    (character : Char) :
    Except Failure Scan :=
  if scan.phase = phase then
    .ok { scan with held := character :: scan.held }
  else
    scan.flush.map fun flushed =>
      {
        flushed with
        phase := phase
        held := character :: flushed.held
        heldFrom := position
      }

/-- Take in the character at an offset. -/
def step
    (scan : Scan)
    (position : Nat)
    (character : Char) :
    Except Failure Scan :=
  match CharacterClass.of character with
  | .separator => scan.flush.map fun flushed => { flushed with phase := .start }
  | .numeric => scan.hold .number position character
  | .symbol =>
      scan.flush.map fun flushed =>
        {
          flushed with
          phase := .operator
          tokens :=
            ⟨.symbol, String.singleton character, position⟩ :: flushed.tokens
        }
  | .word => scan.hold .identifier position character

/-- Take in the characters from an offset to the end of the source. -/
def run :
    Scan →
    Nat →
    List Char →
    Except Failure Scan
  | scan, _, [] => scan.flush
  | scan, position, character :: rest =>
      (scan.step position character).bind fun next =>
        next.run (position + 1) rest

end Scan

/-- The tokens of a source, or the failure of its first malformed number. -/
def tokenize
    (source : String) :
    Except Failure (List Token) :=
  (Scan.initial.run 0 source.toList).map fun scan => scan.tokens.reverse

/-- Whether a text is read as exactly one identifier, with separators around it. -/
def isIdentifier
    (text : String) :
    Bool :=
  match tokenize text with
  | .ok [token] => token.kind = .identifier
  | _ => false

end Reckoner
