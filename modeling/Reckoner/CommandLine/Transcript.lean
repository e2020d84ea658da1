import Reckoner.Journal
import Reckoner.Settings.File
import Reckoner.Text.StyleCode

namespace Reckoner.CommandLine

/-!
# Transcripts

A transcript is what a command writes, piece by piece, and how the command ends.
-/

/-- A message as it is written: without the style codes that may have come into it. -/
def plainMessage
    (message : String) :
    String :=
  String.ofList (Text.withoutStyleCodes message.toList)

/-- Something that a command writes. -/
inductive Piece where
  /-- Text for the standard output. -/
  | out (text : String)
  /-- Text for the error output. -/
  | err (text : String)
  /-- An error message about the settings file at a path. -/
  | settingsError (message : String) (error : LoadError)
  /-- A line of the journal, which goes to the error output. -/
  | journal (entry : JournalEntry)

/-- How a command ends. -/
inductive Ending where
  /-- With an exit code. -/
  | exit (code : Nat)
  /-- By a fault that nothing reports. -/
  | fault (fault : Fault)
  /-- By a settings file that cannot be loaded and is not reported. -/
  | loadError (error : LoadError)

/-- What a command writes and how it ends. -/
structure Transcript where
  pieces : List Piece
  ending : Ending

namespace Transcript

/-- The transcript that starts with further pieces. -/
def after
    (pieces : List Piece)
    (transcript : Transcript) :
    Transcript :=
  { transcript with pieces := pieces ++ transcript.pieces }

/-- The transcript of a command that succeeds. -/
def success
    (pieces : List Piece) :
    Transcript :=
  ⟨pieces, .exit 0⟩

/-- The transcript of a command that reports an error. -/
def reportedError
    (message : String) :
    Transcript :=
  ⟨[.err (plainMessage ("Error: " ++ message ++ "\n"))], .exit 1⟩

end Transcript

/-- The journal entries that the settings let through. -/
def journalPieces
    (settings : Settings)
    (entries : List JournalEntry) :
    List Piece :=
  (JournalEntry.shownAt settings.logLevel entries).map .journal

end Reckoner.CommandLine
