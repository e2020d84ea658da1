import Reckoner.CommandLine.Transcript

namespace Reckoner.CommandLine

/-!
# Sessions

A session evaluates inputs one after another with the standard grammar. It starts with
the variables of the settings, set over those that every calculator has. Its functions
stay those that every calculator has.
-/

/-- The settings of a session and the variables it has come to. -/
structure Session where
  settings : Settings
  values : Variables

namespace Session

/-- A session at its start. -/
def start
    (settings : Settings) :
    Session :=
  ⟨settings, Variables.builtin.insertAll settings.presets.entries⟩

/-- The environment in which a session evaluates a text, with the draws for it. -/
def environment
    (session : Session)
    (draws : Draws) :
    Environment :=
  ⟨session.values, Functions.builtin draws⟩

/-- What the start of a session writes into the journal. -/
def startPieces
    (settings : Settings) :
    List Piece :=
  journalPieces settings
    (JournalEntry.ofAssignments settings.presets.entries)

/-- The report of an input. -/
def report
    (session : Session)
    (input : Input) :
    Report :=
  Expression.evaluate Grammar.frozenStandard (session.environment input.draws)
    input.text

/-- The session after a report. -/
def continued
    (session : Session)
    (report : Report) :
    Session :=
  { session with values := report.environment.values }

/-- What a report writes into the journal. -/
def reportPieces
    (session : Session)
    (source : String)
    (report : Report) :
    List Piece :=
  journalPieces session.settings (JournalEntry.ofReport source report)

end Session

/-- The text of a result; an integer that is too long to be written is a fault. -/
def displayed : Option Number → Except Fault String
  | none => .ok ""
  | some number =>
      match number.display? with
      | some text => .ok text
      | none => .error .beyondDigits

/-- Load settings and go on with them, or report why they cannot be loaded. -/
def withSettings
    (stack : Toml.Stack)
    (path : String)
    (content : FileContent)
    (command : Settings → Transcript) :
    Transcript :=
  if '\x00' ∈ path.toList then
    ⟨[], .loadError .nullInPath⟩
  else
    match Settings.ofFile stack content with
    | .ok settings => command settings
    | .error error =>
        match error.message? path with
        | some message =>
            ⟨[.settingsError (plainMessage message) error], .exit 1⟩
        | none => ⟨[], .loadError error⟩

end Reckoner.CommandLine
