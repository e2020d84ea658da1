import Reckoner.Failure
import Reckoner.Number.Numeral
import Reckoner.Text.Letter
import Reckoner.Token.Basic

namespace Reckoner

/-!
# Runs of characters and their tokens

The characters of a source fall into four classes. A *run* is a longest stretch of
neighbours of one class, except that each operator symbol is a run by itself. The
runs cover the source in order (`flatten_runs`). Separators give no token, and
every other run gives one token, or a failure if it is a numeric run that is no
numeral.
-/

/-- The classes of characters in a source. -/
inductive CharacterClass where
  | separator
  | numeric
  | symbol
  | word
  deriving Repr, DecidableEq

namespace CharacterClass

/-- The operators and parentheses, which never join with their neighbours. -/
def symbols : List Char :=
  ['+', '-', '*', '/', '%', '^', '(', ')', '=', '!']

/-- The class of a character: blanks and controls, digits and points, symbols, others. -/
def of
    (character : Char) :
    CharacterClass :=
  if character ≤ ' ' then
    .separator
  else if Text.isDigit character || character = '.' then
    .numeric
  else if character ∈ symbols then
    .symbol
  else
    .word

end CharacterClass

/-- A stretch of neighbouring characters of one class. -/
structure Run where
  kind : CharacterClass
  text : List Char
  deriving Repr, DecidableEq

namespace Run

/-- Put a character in front of runs, into the first one if it joins that one. -/
def prepend
    (character : Char) :
    List Run →
    List Run
  | [] => [⟨.of character, [character]⟩]
  | run :: rest =>
      if run.kind = .of character ∧ run.kind ≠ .symbol then
        ⟨run.kind, character :: run.text⟩ :: rest
      else
        ⟨.of character, [character]⟩ :: run :: rest

/-- The runs of a source in order. -/
def runs
    (source : List Char) :
    List Run :=
  source.foldr prepend []

/-- The runs are the source, cut into pieces. -/
theorem flatten_runs
    (source : List Char) :
    (runs source).flatMap Run.text = source := by
  induction source with
  | nil => rfl
  | cons character rest inductionHypothesis =>
      have step :
          runs (character :: rest) = prepend character (runs rest) :=
        rfl
      rw [step]
      cases shape : runs rest with
      | nil =>
          rw [shape] at inductionHypothesis
          simp only [List.flatMap_nil] at inductionHypothesis
          simp [prepend, ← inductionHypothesis]
      | cons run others =>
          rw [shape] at inductionHypothesis
          simp only [List.flatMap_cons] at inductionHypothesis
          simp only [prepend]
          split
          · simp [inductionHypothesis]
          · simp [inductionHypothesis]

/--
A property of all runs: single characters have it, and it survives when a run grows by
a character of its class.
-/
theorem forall_mem_runs
    {motive : Run → Prop}
    (single : ∀ character, motive ⟨.of character, [character]⟩)
    (grown :
      ∀ character run,
        run.kind = .of character →
        run.kind ≠ .symbol →
        motive run →
        motive ⟨run.kind, character :: run.text⟩)
    (source : List Char) :
    ∀ run ∈ runs source, motive run := by
  induction source with
  | nil =>
      intro run member
      cases member
  | cons character rest inductionHypothesis =>
      change ∀ run ∈ prepend character (runs rest), motive run
      cases shape : runs rest with
      | nil =>
          simp only [prepend, List.forall_mem_singleton]
          exact single character
      | cons next others =>
          rw [shape] at inductionHypothesis
          obtain ⟨ofNext, ofOthers⟩ :=
            List.forall_mem_cons.1 inductionHypothesis
          simp only [prepend]
          split
          case isTrue joins =>
            exact
              List.forall_mem_cons.2
                ⟨grown character next joins.1 joins.2 ofNext, ofOthers⟩
          case isFalse =>
            exact List.forall_mem_cons.2 ⟨single character, inductionHypothesis⟩

/-- No run is empty. -/
theorem text_ne_nil
    {source : List Char}
    {run : Run}
    (member : run ∈ runs source) :
    run.text ≠ [] := by
  have nonempty : ∀ piece ∈ runs source, piece.text ≠ [] :=
    forall_mem_runs (by simp) (by simp) source
  exact nonempty run member

/-- Whether a numeric run is a numeral: decimals with at most one point. -/
def isNumeral
    (text : List Char) :
    Bool :=
  let whole := text.takeWhile Text.isDecimal
  match text.dropWhile Text.isDecimal with
  | [] => whole ≠ []
  | point :: fraction =>
      point = '.' && fraction.all Text.isDecimal &&
        (whole ≠ [] || fraction ≠ [])

/-- The kind of the token of a word: names start with a letter or an underscore. -/
def wordKind : List Char → TokenKind
  | [] => .symbol
  | first :: _ =>
      if Text.isLetter first || first = '_' then .identifier else .symbol

/-- The token of a run that starts at an offset; separators have none. -/
def token?
    (offset : Nat)
    (run : Run) :
    Except Failure (Option Token) :=
  let lexeme := String.ofList run.text
  match run.kind with
  | .separator => .ok none
  | .symbol => .ok (some ⟨.symbol, lexeme, offset⟩)
  | .word => .ok (some ⟨wordKind run.text, lexeme, offset⟩)
  | .numeric =>
      if isNumeral run.text then
        .ok (some ⟨.number, lexeme, offset⟩)
      else
        .error ⟨.malformedNumber lexeme, some offset⟩

/-- The tokens of runs that start at an offset, up to the first malformed number. -/
def tokensFrom :
    Nat →
    List Run →
    Except Failure (List Token)
  | _, [] => .ok []
  | offset, run :: rest =>
      match run.token? offset with
      | .error failure => .error failure
      | .ok none => tokensFrom (offset + run.text.length) rest
      | .ok (some token) =>
          (tokensFrom (offset + run.text.length) rest).map (token :: ·)

end Run

end Reckoner
