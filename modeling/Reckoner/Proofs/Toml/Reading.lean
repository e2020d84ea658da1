import Mathlib.Data.List.Infix
import Reckoner.Number.Basic
import Reckoner.Toml.Quoting

namespace Reckoner.Toml

/-!
# What readers leave over, and why they fail

A reader takes something from the front of a text, so what follows is an end of the
text. If it fails for another reason than that the text is no document, the reason
can be seen in the text: there are more digits side by side than an integer may have,
or so many opening brackets and braces that the stack has too few frames for a value.

The rules of this module carry both facts through readers that are put together. A
reason that is seen in the end of a text is seen in the whole text.
-/

/-- The frames further on that a value is read behind a character. -/
def framesBehind
    (character : Char) :
    Nat :=
  if character = '[' then
    2
  else if character = '\x7b' then
    3
  else
    0

/-- The frames that all arrays and inline tables of a text take, one inside the other. -/
def framesOf : List Char → Nat
  | [] => 0
  | character :: rest => framesBehind character + framesOf rest

/-- Whether some digits and underscores side by side hold a number of digits. -/
def HasDigits
    (count : Nat)
    (text : List Char) :
    Prop :=
  ∃ run,
    run <:+: text ∧
      (∀ character ∈ run, character.isDigit = true ∨ character = '_') ∧
      run.countP Char.isDigit = count

/-- Some value in a text may be too much for a stack, by the brackets around it. -/
def Stack.MayOverflow
    (stack : Stack)
    (text : List Char) :
    Prop :=
  ∃ rest,
    rest <:+ text ∧
      stack.frames < framesOf text + 3 + stack.needed rest

/-- An error that a text gives reason for, where values are read on a stack. -/
def Error.FoundedOn
    (stack : Stack)
    (text : List Char) :
    Error →
    Prop
  | .invalid => True
  | .integerTooLong digits => digitLimit < digits ∧ HasDigits digits text
  | .nesting => stack.MayOverflow text

/-- Digits in the end of a text are in the text. -/
theorem HasDigits.of_suffix
    {count : Nat}
    {text rest : List Char}
    (has : HasDigits count rest)
    (isEnd : rest <:+ text) :
    HasDigits count text := by
  obtain ⟨run, inside, ofDigits, counted⟩ := has
  exact ⟨run, inside.trans isEnd.isInfix, ofDigits, counted⟩

/-- The end of a text takes no more frames than the text. -/
theorem framesOf_le_of_suffix
    {text rest : List Char}
    (isEnd : rest <:+ text) :
    framesOf rest ≤ framesOf text := by
  obtain ⟨before, rfl⟩ := isEnd
  induction before with
  | nil => exact Nat.le_refl _
  | cons character later inductionHypothesis =>
      exact Nat.le_trans inductionHypothesis (Nat.le_add_left _ _)

/-- A stack that is too small for the end of a text is so for the text. -/
theorem Stack.MayOverflow.of_suffix
    {stack : Stack}
    {text rest : List Char}
    (overflows : stack.MayOverflow rest)
    (isEnd : rest <:+ text) :
    stack.MayOverflow text := by
  obtain ⟨value, valueEnd, tooMuch⟩ := overflows
  have more := framesOf_le_of_suffix isEnd
  exact ⟨value, valueEnd.trans isEnd, by omega⟩

/-- An error founded on the end of a text is founded on the text. -/
theorem Error.FoundedOn.of_suffix
    {stack : Stack}
    {text rest : List Char}
    {error : Error}
    (founded : error.FoundedOn stack rest)
    (isEnd : rest <:+ text) :
    error.FoundedOn stack text := by
  cases error with
  | invalid => trivial
  | integerTooLong digits =>
      exact ⟨founded.1, founded.2.of_suffix isEnd⟩
  | nesting => exact Stack.MayOverflow.of_suffix founded isEnd

/-- Of a result something is known, and an error is founded on the text. -/
inductive Yields
    {α : Type}
    (stack : Stack)
    (text : List Char)
    (known : α → Prop) :
    Except Error α →
    Prop where
  | ok
      {result : α}
      (isKnown : known result) :
      Yields stack text known (.ok result)
  | error
      {error : Error}
      (founded : error.FoundedOn stack text) :
      Yields stack text known (.error error)

/-- A reading leaves over an end of the text, or its error is founded on the text. -/
def Reads
    {α : Type}
    (stack : Stack)
    (text : List Char)
    (reading : Reading α) :
    Prop :=
  Yields stack text (fun given => given.2 <:+ text) reading

namespace Yields

variable {α β : Type}
variable {stack : Stack}
variable {text : List Char}
variable {known : α → Prop}
variable {next : β → Prop}

/-- A text that is no document needs no further reason. -/
theorem invalid : Yields stack text known (.error .invalid) :=
  .error trivial

/-- What follows a result may use what is known of it. -/
theorem bind
    {first : Except Error α}
    {following : α → Except Error β}
    (yields : Yields stack text known first)
    (follows :
      ∀ given,
        known given →
        Yields stack text next (following given)) :
    Yields stack text next (first.bind following) := by
  cases yields with
  | ok isKnown => exact follows _ isKnown
  | error founded => exact .error founded

/-- What is no document under a condition is otherwise what it is. -/
theorem rejecting
    {condition : Prop}
    [Decidable condition]
    {result : Except Error α}
    (yields : Yields stack text known result) :
    Yields stack text known (if condition then .error .invalid else result) := by
  split
  case isTrue => exact .invalid
  case isFalse => exact yields

/-- A changed result satisfies what follows from the result. -/
theorem map
    {first : Except Error α}
    {change : α → β}
    (yields : Yields stack text known first)
    (implies : ∀ given, known given → next (change given)) :
    Yields stack text next (first.map change) := by
  cases yields with
  | ok isKnown => exact .ok (implies _ isKnown)
  | error founded => exact .error founded

/-- What is known of the end of a text is known of the text. -/
theorem of_suffix
    {rest : List Char}
    {result : Except Error α}
    {weaker : α → Prop}
    (yields : Yields stack rest known result)
    (isEnd : rest <:+ text)
    (implies : ∀ given, known given → weaker given) :
    Yields stack text weaker result := by
  cases yields with
  | ok isKnown => exact .ok (implies _ isKnown)
  | error founded => exact .error (founded.of_suffix isEnd)

end Yields

namespace Reads

variable {α β : Type}
variable {stack : Stack}
variable {text rest : List Char}

/-- What is left over by the end of a text is left over by the text. -/
theorem of_suffix
    {reading : Reading α}
    (reads : Reads stack rest reading)
    (isEnd : rest <:+ text) :
    Reads stack text reading :=
  Yields.of_suffix reads isEnd fun _ => (·.trans isEnd)

/-- What is read may be changed as long as what is left over is not. -/
theorem map
    {reading : Reading α}
    {change : α × List Char → β × List Char}
    (reads : Reads stack text reading)
    (leaves : ∀ given, (change given).2 <:+ given.2) :
    Reads stack text (reading.map change) :=
  Yields.map reads fun given isEnd => (leaves given).trans isEnd

end Reads

/-- Skipping spaces leaves over an end of the text. -/
theorem skipSpaces_suffix
    (text : List Char) :
    skipSpaces text <:+ text :=
  List.dropWhile_suffix _

/-- Skipping a comment leaves over an end of the text. -/
theorem yields_skipComment
    (stack : Stack)
    (text : List Char) :
    Yields stack text (· <:+ text) (skipComment text) := by
  unfold skipComment
  split
  case h_1 rest =>
    have restEnd : rest.dropWhile (· ≠ '\n') <:+ '#' :: rest :=
      (List.dropWhile_suffix _).trans (List.suffix_cons '#' rest)
    exact Yields.rejecting (.ok restEnd)
  case h_2 => exact .ok (List.suffix_refl text)

/-- Skipping lines and comments leaves over an end of the text. -/
theorem yields_skipCommentsAndLines
    (stack : Stack)
    (rounds : Nat)
    (text : List Char) :
    Yields stack text (· <:+ text) (skipCommentsAndLines rounds text) := by
  induction rounds generalizing text with
  | zero => exact .ok (List.suffix_refl text)
  | succ rounds inductionHypothesis =>
      have blanksEnd : text.dropWhile isSpaceOrLineEnd <:+ text :=
        List.dropWhile_suffix _
      unfold skipCommentsAndLines
      split
      case h_1 rest starts =>
        rw [starts] at blanksEnd
        have comment :=
          (yields_skipComment stack ('#' :: rest)).of_suffix blanksEnd
            fun behind isEnd => isEnd.trans blanksEnd
        refine comment.bind fun behind isEnd => ?_
        exact
          (inductionHypothesis behind).of_suffix isEnd
            fun later laterEnd => laterEnd.trans isEnd
      case h_2 => exact .ok blanksEnd

/-- A character with a code leaves over the text after its digits. -/
theorem reads_codePoint
    (stack : Stack)
    (width : Nat)
    (text : List Char) :
    Reads stack text (codePoint width text) := by
  unfold codePoint
  split
  case h_1 => exact .invalid
  case h_2 =>
    split
    case isTrue => exact .ok (List.drop_suffix width text)
    case isFalse => exact .invalid

/-- An escape leaves over an end of the text. -/
theorem reads_escape
    (stack : Stack)
    (multiline : Bool)
    (text : List Char) :
    Reads stack text (escape multiline text) := by
  unfold escape
  split
  case h_1 => exact .invalid
  case h_2 character rest =>
    have restEnd : rest <:+ character :: rest := List.suffix_cons character rest
    split
    case isTrue =>
      have blanksEnd :
          (character :: rest).dropWhile isSpace <:+ character :: rest :=
        List.dropWhile_suffix _
      split
      case h_1 => exact .ok (List.nil_suffix)
      case h_2 following starts =>
        rw [starts] at blanksEnd
        exact
          .ok
            ((List.dropWhile_suffix _).trans
              ((List.suffix_cons _ following).trans blanksEnd))
      case h_3 => exact .invalid
    case isFalse =>
      split
      case isTrue => exact (reads_codePoint stack 4 rest).of_suffix restEnd
      case isFalse =>
        split
        case isTrue => exact (reads_codePoint stack 8 rest).of_suffix restEnd
        case isFalse =>
          split
          case h_1 => exact .ok restEnd
          case h_2 => exact .invalid

/-- Characters in front of what was read leave over the same. -/
theorem Reads.prepended
    {stack : Stack}
    {text : List Char}
    {characters : List Char}
    {reading : Reading (List Char)}
    (reads : Reads stack text reading) :
    Reads stack text (prepended characters reading) :=
  reads.map fun _ => List.suffix_refl _

/-- The rest of a basic string leaves over an end of the text. -/
theorem reads_basicRest
    (stack : Stack)
    (multiline : Bool)
    (rounds : Nat)
    (text : List Char) :
    Reads stack text (basicRest multiline rounds text) := by
  induction rounds generalizing text with
  | zero => exact .invalid
  | succ rounds inductionHypothesis =>
      unfold basicRest
      split
      case h_1 => exact .invalid
      case h_2 rest => exact .ok (List.suffix_cons _ rest)
      case h_3 rest =>
        exact .ok (List.suffix_append ['"', '"', '"'] rest)
      case h_4 rest =>
        have restEnd : rest <:+ '\\' :: rest := List.suffix_cons _ rest
        refine Yields.bind ((reads_escape stack multiline rest).of_suffix restEnd) ?_
        intro given isEnd
        exact (inductionHypothesis given.2).prepended.of_suffix isEnd
      case h_5 character rest _ _ _ =>
        split
        case isTrue =>
          exact
            (inductionHypothesis rest).prepended.of_suffix
              (List.suffix_cons character rest)
        case isFalse => exact .invalid

/-- The rest of a literal string leaves over an end of the text. -/
theorem reads_literalRest
    (stack : Stack)
    (text : List Char) :
    Reads stack text (literalRest text) := by
  induction text with
  | nil => exact .invalid
  | cons character rest inductionHypothesis =>
      have restEnd : rest <:+ character :: rest := List.suffix_cons character rest
      unfold literalRest
      split
      case isTrue => exact .ok restEnd
      case isFalse =>
        split
        case isTrue => exact inductionHypothesis.prepended.of_suffix restEnd
        case isFalse => exact .invalid

/-- The rest of a literal string of several lines leaves over an end of the text. -/
theorem reads_literalLinesRest
    (stack : Stack)
    (text : List Char) :
    Reads stack text (literalLinesRest text) := by
  fun_induction literalLinesRest text with
  | case1 => exact .invalid
  | case2 rest => exact .ok (List.suffix_append ['\'', '\'', '\''] rest)
  | case3 character rest _ _ inductionHypothesis =>
      exact
        inductionHypothesis.prepended.of_suffix
          (List.suffix_cons character rest)
  | case4 => exact .invalid

/-- A text without a line end at its front is an end of the text. -/
theorem withoutLineEnd_suffix
    (text : List Char) :
    withoutLineEnd text <:+ text := by
  unfold withoutLineEnd
  split
  case h_1 rest => exact List.suffix_cons '\n' rest
  case h_2 => exact List.suffix_refl text

/-- Quotes that belong to a string are taken from what it leaves over. -/
theorem Reads.withExtraQuotes
    {stack : Stack}
    {text : List Char}
    {quote : Char}
    {reading : Reading (List Char)}
    (reads : Reads stack text reading) :
    Reads stack text (withExtraQuotes quote reading) := by
  refine reads.map fun given => ?_
  rcases given with ⟨characters, rest⟩
  dsimp only
  split
  case h_1 first second following =>
    split
    case isTrue => exact List.suffix_append [first, second] following
    case isFalse =>
      split
      case isTrue => exact List.suffix_cons first (second :: following)
      case isFalse => exact List.suffix_refl _
  case h_2 single =>
    split
    case isTrue => exact List.nil_suffix
    case isFalse => exact List.suffix_refl _
  case h_3 => exact List.suffix_refl _

/-- A string leaves over an end of the text. -/
theorem reads_quotedString
    (stack : Stack)
    (text : List Char) :
    Reads stack text (quotedString text) := by
  unfold quotedString
  split
  case h_1 rest =>
    exact
      (reads_basicRest stack true _ _).withExtraQuotes.of_suffix
        ((withoutLineEnd_suffix rest).trans
          (List.suffix_append ['"', '"', '"'] rest))
  case h_2 rest _ =>
    exact
      (reads_basicRest stack false _ rest).of_suffix (List.suffix_cons _ rest)
  case h_3 rest =>
    exact
      (reads_literalLinesRest stack _).withExtraQuotes.of_suffix
        ((withoutLineEnd_suffix rest).trans
          (List.suffix_append ['\'', '\'', '\''] rest))
  case h_4 rest _ =>
    exact (reads_literalRest stack rest).of_suffix (List.suffix_cons _ rest)
  case h_5 => exact .invalid

/-- A part of a key leaves over an end of the text. -/
theorem reads_keyPart
    (stack : Stack)
    (text : List Char) :
    Reads stack text (keyPart text) := by
  unfold keyPart
  split
  case h_1 rest =>
    have reads :=
      (reads_basicRest stack false (rest.length + 1) rest).of_suffix
        (List.suffix_cons '"' rest)
    exact reads.map fun _ => List.suffix_refl _
  case h_2 rest =>
    have reads :=
      (reads_literalRest stack rest).of_suffix (List.suffix_cons '\'' rest)
    exact reads.map fun _ => List.suffix_refl _
  case h_3 => exact Yields.rejecting (.ok (List.dropWhile_suffix _))

/-- The parts of a key leave over an end of the text. -/
theorem reads_keyParts
    (stack : Stack)
    (rounds : Nat)
    (text : List Char) :
    Reads stack text (keyParts rounds text) := by
  induction rounds generalizing text with
  | zero => exact .invalid
  | succ rounds inductionHypothesis =>
      unfold keyParts
      refine Yields.bind (reads_keyPart stack text) ?_
      rintro ⟨part, afterPart⟩ partEnd
      have spacesEnd : skipSpaces afterPart <:+ text :=
        (skipSpaces_suffix afterPart).trans partEnd
      dsimp only
      split
      case h_1 rest starts =>
        rw [starts] at spacesEnd
        have restEnd : skipSpaces rest <:+ text :=
          (skipSpaces_suffix rest).trans
            ((List.suffix_cons '.' rest).trans spacesEnd)
        have reads := (inductionHypothesis (skipSpaces rest)).of_suffix restEnd
        exact reads.map fun _ => List.suffix_refl _
      case h_2 => exact .ok spacesEnd

/-- A key leaves over an end of the text. -/
theorem reads_key
    (stack : Stack)
    (text : List Char) :
    Reads stack text (key text) :=
  reads_keyParts stack _ text

end Reckoner.Toml
