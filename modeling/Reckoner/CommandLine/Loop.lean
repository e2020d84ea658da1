import Reckoner.CommandLine.Listing
import Reckoner.Text.Blank

namespace Reckoner.CommandLine

/-!
# The interactive loop

The loop reads lines until the input ends or a line asks to leave. A line that
starts with a colon is a command about the session and never changes it; any other
line that is not blank is evaluated in the session.

`Loop.step` answers one line, so that the loop can be run on a terminal as well as
on a list of lines.
-/

namespace Loop

open Console

/-- The lines that leave the loop. -/
def quitCommands : List String :=
  [":quit", ":q", "quit", "exit"]

/-- The help of the loop. -/
def help : String :=
  "Enter an expression to evaluate it, e.g. x = 2 ^ 10 or sqrt(x).\n\n" ++
    "Operators: + - * / % ^ (right-associative) ! (factorial), unary -\n" ++
    "Commands:\n" ++
    "  :vars    list variables\n" ++
    "  :funcs   list functions\n" ++
    "  :help    show this help\n" ++
    "  :quit    leave (also exit, quit, Ctrl-D)\n"

/-- What the loop writes first. -/
def banner : String :=
  "prattcalc " ++ Version.current ++ " - :help for help\n"

/-- A line of the loop without the blanks around it. -/
def stripped
    (line : String) :
    String :=
  String.ofList (Text.trimBoth Text.isBlank line.toList)

/-- An input of the loop without the blanks around it. -/
def strippedInput
    (input : Input) :
    Input :=
  { input with text := stripped input.text }

/-- The text of an input without its blanks. -/
@[simp]
theorem text_strippedInput
    (input : Input) :
    (strippedInput input).text = stripped input.text :=
  rfl

/-- An input with nothing to be taken away stays as it is. -/
theorem strippedInput_eq_self
    {input : Input}
    (same : stripped input.text = input.text) :
    strippedInput input = input := by
  rw [strippedInput, same]

/-- What the loop writes before it reads a line. -/
def promptPiece
    (session : Session) :
    Piece :=
  .out (onScreen (literal session.settings.prompt))

/-- How the loop goes on after a line. -/
inductive Next where
  | goOn (session : Session)
  | leave
  | fault (fault : Fault)

/-- What a line makes the loop write, and how the loop goes on. -/
structure Answer where
  pieces : List Piece
  next : Next

/-- The answer to a command about the session. -/
def answerCommand
    (session : Session)
    (command : Input) :
    Answer :=
  if command.text = ":vars" then
    match variablesGrid session.values with
    | .ok grid => ⟨[.out grid.text], .goOn session⟩
    | .error fault => ⟨[], .fault fault⟩
  else if command.text = ":funcs" then
    let functions := (session.environment command.draws).functions
    ⟨[.out (functionNames functions ++ "\n")], .goOn session⟩
  else if command.text = ":help" then
    ⟨[.out help], .goOn session⟩
  else
    ⟨[.out
        (onScreen
          ("Unknown command: " ++ literal command.text ++ " (try :help)\n"))],
      .goOn session⟩

/-- Whether an evaluation fails because a number is malformed. -/
def isMalformed : Outcome → Bool
  | .failed failure => failure.kind = .malformedNumber
  | _ => false

/--
The tokens that are shown with the result of a source, if the settings ask for it.

They are left out whenever a number is malformed, even if it is only too long.
-/
def tokenPieces
    (settings : Settings)
    (report : Report) :
    List Piece :=
  match report.tokens with
  | none => []
  | some tokens =>
      if settings.showTokens && !isMalformed report.outcome then
        [.out (tokensGrid tokens).text]
      else
        []

/--
With a source its own tokens are shown. A source that has none fails, and nothing is
shown with it.
-/
theorem tokenPieces_report
    (session : Session)
    (source : Input) :
    let report := session.report source
    (∀ tokens,
        tokenize source.text = .ok tokens →
        tokenPieces session.settings report =
          if session.settings.showTokens && !isMalformed report.outcome then
            [.out (tokensGrid tokens).text]
          else
            []) ∧
      ∀ failure,
        tokenize source.text = .error failure →
        report.outcome = .failed failure ∧
          tokenPieces session.settings report = [] := by
  intro report
  have sameTokens : report.tokens = (tokenize source.text).toOption :=
    Expression.tokens_evaluateWithin _ _ _ source.text
  constructor
  · intro tokens tokenized
    rw [tokenPieces, sameTokens, tokenized]
    rfl
  · intro failure untokenized
    constructor
    · exact
        congrArg Report.outcome
          (Expression.evaluateWithin_of_untokenized untokenized _ _ _)
    · rw [tokenPieces, sameTokens, untokenized]
      rfl

/-- The answer to a source. -/
def answerSource
    (session : Session)
    (source : Input) :
    Answer :=
  let report := session.report source
  let written := session.reportPieces source.text report
  let next := Next.goOn (session.continued report)
  let shown := written ++ tokenPieces session.settings report
  match report.outcome with
  | .faulted fault => ⟨written, .fault fault⟩
  | .failed failure =>
      ⟨shown ++ [.out (onScreen ("Error: " ++ literal failure.text ++ "\n"))],
        next⟩
  | .value none => ⟨shown, next⟩
  | .value (some number) =>
      match displayed (some number) with
      | .ok text => ⟨shown ++ [.out (text ++ "\n")], next⟩
      | .error fault => ⟨shown, .fault fault⟩

/-- The answer to a line. -/
def step
    (session : Session)
    (line : Input) :
    Answer :=
  let input := strippedInput line
  if input.text = "" then
    ⟨[], .goOn session⟩
  else if input.text ∈ quitCommands then
    ⟨[], .leave⟩
  else if input.text.toList.head? = some ':' then
    answerCommand session input
  else
    answerSource session input

/-- What the loop writes when the input ends. -/
def endPieces : List Piece :=
  [.out "\n"]

/-- The loop on a list of lines. -/
def run
    (session : Session) :
    List Input →
    Transcript
  | [] => .success (promptPiece session :: endPieces)
  | line :: rest =>
      let answer := step session line
      let result : Transcript :=
        match answer.next with
        | .goOn session => run session rest
        | .leave => .success []
        | .fault fault => ⟨[], .fault fault⟩
      result.after (promptPiece session :: answer.pieces)

/-- What the loop writes before its first prompt. -/
def startPieces
    (settings : Settings) :
    List Piece :=
  Session.startPieces settings ++ [.out banner]

end Loop

/-- The interactive loop in a new session. -/
def interact
    (settings : Settings)
    (lines : List Input) :
    Transcript :=
  (Loop.run (Session.start settings) lines).after (Loop.startPieces settings)

end Reckoner.CommandLine
