import Reckoner.CommandLine.Invocation
import Std.Time.Format

namespace Reckoner.CommandLine

/-!
# The program

The program reads its arguments, its settings file and its input, and writes what the
library answers. It decides nothing by itself.
-/

/-- The code of the operating system for a directory where a file is expected. -/
def directoryCode : UInt32 :=
  21

/-- The code of the operating system for a path that is too long. -/
def tooLongCode : UInt32 :=
  36

/-- What a path of the file system leads to. -/
def readContent
    (path : String) :
    IO FileContent := do
  try
    return .bytes (← IO.FS.readBinFile path)
  catch error =>
    match error with
    | .noFileOrDirectory .. => return .absent
    | .inappropriateType _ code _ =>
        return if code = directoryCode then .directory else .absent
    | .invalidArgument _ code _ =>
        if code = tooLongCode then return .tooLong else throw error
    | other => throw other

/-- A draw from the unit interval. -/
def randomDraw : IO Float := do
  let bound := Nat.pow 2 53
  let drawn ← IO.rand 0 (bound - 1)
  return Float.ofNat drawn / Float.ofNat bound

/-- Draws for the calls in a text: one for each of its characters. -/
def randomDraws
    (text : String) :
    IO Draws := do
  let drawn ← text.toList.mapM fun _ => randomDraw
  let drawnAt := drawn.toArray
  return fun site => (site.bind fun offset => drawnAt[offset]?).getD 0.0

/-- Draws for each of some texts. -/
def randomDrawsOf
    (texts : List String) :
    IO (Nat → Draws) := do
  let drawn ← texts.mapM randomDraws
  return fun index => drawn[index]?.getD fun _ => 0.0

/-- The time that a line of the journal starts with. -/
def journalTime : IO String := do
  let now ← Std.Time.PlainDateTime.now
  return now.format "uuuu-MM-dd HH:mm:ss,SSS"

/-- The line of a complaint about the settings. -/
def complaintLine
    (complaint : Settings.Complaint) :
    String :=
  ".".intercalate complaint.location ++ ": " ++ complaint.problem.message ++ "\n"

/-- What is said about an error in a settings file after its message. -/
def errorDetails : LoadError → String
  | .invalidSettings complaints => String.join (complaints.map complaintLine)
  | _ => ""

/-- Write a piece. -/
def writePiece : Piece → IO Unit
  | .out text => do
      let output ← IO.getStdout
      output.putStr text
      output.flush
  | .err text => IO.eprint text
  | .settingsError message error =>
      IO.eprint ("Error: " ++ message ++ "\n" ++ errorDetails error)
  | .journal entry => do IO.eprint (entry.line (← journalTime))

/-- Write pieces one after another. -/
def writePieces
    (pieces : List Piece) :
    IO Unit :=
  pieces.forM writePiece

/-- The exit code of an ending, once what nothing has reported is told. -/
def exitCode : Ending → IO UInt32
  | .exit code => return code.toUInt32
  | .fault fault => do
      IO.eprintln fault.message
      return 1
  | .loadError _ => do
      IO.eprintln "The settings file cannot be read"
      return 1

/-- Write a transcript and end as it does. -/
def perform
    (transcript : Transcript) :
    IO UInt32 := do
  writePieces transcript.pieces
  exitCode transcript.ending

/-- The next lines of the input, read together; none at its end. -/
def readLines : IO (List String) :=
  return Text.inputLines (← (← IO.getStdin).getLine)

/-- Answer lines of the input until one leaves the loop or the input ends. -/
partial def answerLines
    (session : Session)
    (waiting : List String) :
    IO UInt32 := do
  writePiece (Loop.promptPiece session)
  let lines ← if waiting.isEmpty then readLines else pure waiting
  match lines with
  | [] =>
      writePieces Loop.endPieces
      return 0
  | line :: rest =>
      let answer := Loop.step session ⟨line, ← randomDraws line⟩
      writePieces answer.pieces
      match answer.next with
      | .goOn session => answerLines session rest
      | .leave => return 0
      | .fault fault => exitCode (.fault fault)

/-- Do what an invocation asks for, with the content of its settings file. -/
def performInvocation
    (content : FileContent)
    (invocation : Invocation) :
    IO UInt32 := do
  let stack := Toml.Stack.standard
  match invocation, Settings.ofFile stack content with
  | .interact _, .ok settings =>
      writePieces (Loop.startPieces settings)
      answerLines (Session.start settings) []
  | _, _ => do
      let draws ← randomDrawsOf invocation.texts
      perform (invocation.run stack draws content [])

end Reckoner.CommandLine

open Reckoner Reckoner.CommandLine in
/-- Run the program with its arguments. -/
def main
    (arguments : List String) :
    IO UInt32 := do
  let invocation := Invocation.ofArguments arguments
  let content ←
    match invocation.settingsPath? with
    | some path => readContent path
    | none => pure .absent
  performInvocation content invocation
