import Reckoner.Expression
import Reckoner.Settings.Basic

namespace Reckoner

/-!
# The journal

An evaluation can be followed in a journal: the tokens of the source, each
assignment when it is made, and the failure if there is one. An entry has a level,
and a journal shows the entries at its own level and above. An assignment whose
number cannot be written leaves no entry.
-/

/-- The part of the calculator that writes an entry. -/
inductive JournalSource where
  | environment
  | evaluator
  deriving Repr, DecidableEq

/-- The name of the part of the calculator in an entry. -/
def JournalSource.name : JournalSource → String
  | environment => "prattcalc.core.environment"
  | evaluator => "prattcalc.core.evaluator"

/-- An entry of the journal. -/
structure JournalEntry where
  source : JournalSource
  level : LogLevel
  message : String
  deriving Repr, DecidableEq

namespace JournalEntry

/-- The entry of an assignment, if its number can be written. -/
def assigned?
    (name : String)
    (value : Number) :
    Option JournalEntry :=
  value.text?.map fun text =>
    ⟨.environment, .debug, "assign " ++ name ++ " = " ++ text⟩

/-- The entries of assignments in order. -/
def ofAssignments
    (assignments : List (String × Number)) :
    List JournalEntry :=
  assignments.filterMap fun assignment =>
    assigned? assignment.1 assignment.2

/-- A token in an entry. -/
def tokenText
    (token : Token) :
    String :=
  "Token(" ++ token.kind.name ++ ", " ++ Text.quoted token.lexeme ++
    ", pos=" ++ toString token.position ++ ")"

/-- The entry of the tokens of a source. -/
def ofTokens
    (source : String)
    (tokens : List Token) :
    JournalEntry :=
  ⟨.evaluator, .debug,
    "Tokens for " ++ Text.quoted source ++ ": [" ++
      ", ".intercalate (tokens.map tokenText) ++ "]"⟩

/-- The entry of a failure. -/
def ofFailure
    (source : String)
    (failure : Failure) :
    JournalEntry :=
  ⟨.evaluator, .info,
    "Evaluation of " ++ Text.quoted source ++ " failed: " ++ failure.message⟩

/-- The entries of an evaluation in the order they are written. -/
def ofReport
    (source : String)
    (report : Report) :
    List JournalEntry :=
  let tokens :=
    match report.tokens with
    | none => []
    | some tokens => [ofTokens source tokens]
  let failure :=
    match report.outcome with
    | .failed failure => [ofFailure source failure]
    | _ => []
  tokens ++ ofAssignments report.assigned ++ failure

/-- The line of an entry that is written at a time. -/
def line
    (time : String)
    (entry : JournalEntry) :
    String :=
  time ++ " - " ++ entry.source.name ++ " - " ++ entry.level.name ++ " - " ++
    entry.message ++ "\n"

/-- The entries that a journal of a level shows. -/
def shownAt
    (level : LogLevel)
    (entries : List JournalEntry) :
    List JournalEntry :=
  entries.filter fun entry => level.rank ≤ entry.level.rank

end JournalEntry

end Reckoner
