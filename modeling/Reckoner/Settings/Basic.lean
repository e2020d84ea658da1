import Reckoner.Environment
import Reckoner.Settings.Lenient
import Reckoner.Token.Scan

namespace Reckoner

/-!
# Settings

The settings of the calculator are the prompt of the interactive loop, the level of
its log, whether it shows tokens, and variables that every session starts with.

Settings come from a table. Each setting is read on its own, so a table can give
rise to several complaints, in the order of the settings. The names of variables
are checked only once all their values are good.
-/

/-- The levels of log messages. -/
inductive LogLevel where
  | debug
  | info
  | warning
  | error
  | critical
  deriving Repr, DecidableEq

namespace LogLevel

/-- The name of a level. -/
def name : LogLevel → String
  | debug => "DEBUG"
  | info => "INFO"
  | warning => "WARNING"
  | error => "ERROR"
  | critical => "CRITICAL"

/-- The rank of a level; messages below the rank of the log are not written. -/
def rank : LogLevel → Nat
  | debug => 10
  | info => 20
  | warning => 30
  | error => 40
  | critical => 50

/-- The levels, lowest first. -/
def all : List LogLevel :=
  [debug, info, warning, error, critical]

/--
A character in upper case.

Of the letters outside ASCII only the dotless i has an upper case in ASCII that
occurs in the name of a level.
-/
def upperCase
    (character : Char) :
    Char :=
  if character = 'ı' then 'I' else character.toUpper

/-- The level that a text names, whatever its case. -/
def named?
    (text : String) :
    Option LogLevel :=
  all.find? fun level =>
    level.name.toList = text.toList.map upperCase

end LogLevel

/-- The settings of the calculator. -/
structure Settings where
  prompt : String
  logLevel : LogLevel
  showTokens : Bool
  presets : Variables

namespace Settings

/-- The settings that hold where nothing else is said. -/
def standard : Settings :=
  ⟨"> ", .warning, false, Table.empty⟩

/-- A problem and where it lies, outermost name first. -/
structure Complaint where
  location : List String
  problem : Problem
  deriving Repr, DecidableEq

/-- The level of the log, which must be named. -/
def readLevel
    (value : Toml.Value) :
    Except Problem LogLevel :=
  (readText value).bind fun name =>
    match LogLevel.named? name with
    | some level => .ok level
    | none =>
        .error (.refused
          ("log_level must be one of " ++
            ", ".intercalate (LogLevel.all.map LogLevel.name)))

/-- The numbers of variables, or all complaints about their values. -/
def readNumbers : Toml.Entries → Except (List Complaint) (List (String × Number))
  | [] => .ok []
  | (name, value) :: rest =>
      match readNumber value, readNumbers rest with
      | .ok number, .ok numbers => .ok ((name, number) :: numbers)
      | .ok _, .error complaints => .error complaints
      | .error problems, others =>
          .error
            (⟨["variables", name, "int"], problems.asInteger⟩ ::
              ⟨["variables", name, "float"], problems.asFloat⟩ ::
                (match others with
                | .ok _ => []
                | .error complaints => complaints))

/-- The variables, whose names must be identifiers. -/
def readVariables : Toml.Value → Except (List Complaint) Variables
  | .table entries =>
      (readNumbers entries).bind fun numbers =>
        match numbers.find? fun entry => !isIdentifier entry.1 with
        | none => .ok (Table.ofList numbers)
        | some (name, _) =>
            .error [⟨["variables"], .refused
              ("variable name " ++ Text.quoted name ++ " is not an identifier")⟩]
  | _ => .error [⟨["variables"], .notTable⟩]

/-- A setting of a table, or what holds if the table does not have it. -/
def setting
    {α : Type}
    (entries : Toml.Entries)
    (name : String)
    (otherwise : α)
    (read : Toml.Value → Except (List Complaint) α) :
    Except (List Complaint) α :=
  match entries.get? name with
  | none => .ok otherwise
  | some value => read value

/-- A reading whose problem lies at a name. -/
def complainingAt
    {α : Type}
    (name : String)
    (read : Toml.Value → Except Problem α)
    (value : Toml.Value) :
    Except (List Complaint) α :=
  (read value).mapError fun problem => [⟨[name], problem⟩]

/-- The complaints of a reading. -/
def complaints
    {α : Type} :
    Except (List Complaint) α →
    List Complaint
  | .ok _ => []
  | .error found => found

/-- The settings in a table, or all complaints about them. -/
def ofTable
    (entries : Toml.Entries) :
    Except (List Complaint) Settings :=
  let prompt :=
    setting entries "prompt" standard.prompt (complainingAt "prompt" readText)
  let logLevel :=
    setting entries "log_level" standard.logLevel
      (complainingAt "log_level" readLevel)
  let showTokens :=
    setting entries "show_tokens" standard.showTokens
      (complainingAt "show_tokens" readTruth)
  let presets :=
    setting entries "variables" standard.presets readVariables
  match prompt, logLevel, showTokens, presets with
  | .ok prompt, .ok logLevel, .ok showTokens, .ok presets =>
      .ok ⟨prompt, logLevel, showTokens, presets⟩
  | _, _, _, _ =>
      .error
        (complaints prompt ++ complaints logLevel ++ complaints showTokens ++
          complaints presets)

/-- The settings that a value denotes, which must be a table. -/
def ofValue : Toml.Value → Except (List Complaint) Settings
  | .table entries => ofTable entries
  | _ => .error [⟨[], .notSettings⟩]

end Settings

end Reckoner
