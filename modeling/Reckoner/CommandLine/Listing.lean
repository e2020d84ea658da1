import Reckoner.CommandLine.Session
import Reckoner.Console.Grid

namespace Reckoner.CommandLine

/-!
# Listings of tokens and variables

Tokens are listed in the order of the source, variables in the order of their names.
-/

open Console

/-- The table of tokens. -/
def tokensGrid
    (tokens : List Token) :
    Grid where
  title := some "Tokens"
  columns := [⟨"Kind", .left⟩, ⟨"Lexeme", .left⟩, ⟨"Position", .right⟩]
  rows :=
    tokens.map fun token =>
      [token.kind.name, literal token.lexeme, toString token.position]

/-- The tokens of a source as a command shows them. -/
def tokens
    (source : String) :
    Transcript :=
  match tokenize source with
  | .error failure => .reportedError failure.message
  | .ok tokens => .success [.out (tokensGrid tokens).text]

/-- Entries in the order of their names. -/
def sortedByName
    {α : Type}
    (entries : List (String × α)) :
    List (String × α) :=
  entries.mergeSort fun left right => left.1 ≤ right.1

/-- The rows of variables, if all their numbers can be written. -/
def variableRows : List (String × Number) → Except Fault (List (List String))
  | [] => .ok []
  | (name, value) :: rest =>
      match displayed (some value), variableRows rest with
      | .ok text, .ok rows => .ok ([literal name, text] :: rows)
      | .error fault, _ => .error fault
      | _, .error fault => .error fault

/-- The table of variables. -/
def variablesGrid
    (values : Variables) :
    Except Fault Grid :=
  (variableRows (sortedByName values.entries)).map fun rows =>
    {
      title := none
      columns := [⟨"Name", .left⟩, ⟨"Value", .right⟩]
      rows := rows
    }

/-- The names of functions in one line. -/
def functionNames
    (functions : Functions) :
    String :=
  ", ".intercalate ((sortedByName functions.entries).map Prod.fst)

end Reckoner.CommandLine
