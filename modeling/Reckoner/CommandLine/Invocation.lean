import Reckoner.CommandLine.Evaluate
import Reckoner.CommandLine.Loop
import Reckoner.FileTree

namespace Reckoner.CommandLine

/-!
# Invocations

The arguments of the program say what it is asked to do. The options of a command
may stand before and behind its other arguments; after two hyphens everything is an
argument. An option takes the next argument as its value, or what follows it in the
same argument.
-/

/-- What the program is asked to do. -/
inductive Invocation where
  | version
  | help
  | evaluate
      (expression : String)
      (assignments : List String)
      (settingsPath : Option String)
  | tokens (source : String)
  | interact (settingsPath : Option String)
  /-- Arguments that the program does not understand. -/
  | misused (reason : String)
  deriving Repr, DecidableEq

/-- The options of commands; each takes a value. -/
inductive CommandOption where
  | assignment
  | settings
  deriving Repr, DecidableEq

namespace CommandOption

/-- The long name of an option. -/
def longName : CommandOption → String
  | assignment => "--set"
  | settings => "--config"

/-- The letter of an option. -/
def letter : CommandOption → Char
  | assignment => 's'
  | settings => 'c'

end CommandOption

/-- The arguments of a command, sorted into options and others. -/
structure Arguments where
  options : List (CommandOption × String)
  others : List String
  deriving Repr, DecidableEq

/-- An option as it stands in an argument. -/
inductive WrittenOption where
  /-- An option with its value in the same argument. -/
  | valued (option : CommandOption) (value : String)
  /-- An option whose value is the next argument. -/
  | bare (option : CommandOption)
  deriving Repr, DecidableEq

/-- The option in an argument that starts with two hyphens. -/
def longOption?
    (allowed : List CommandOption)
    (argument : String) :
    Option WrittenOption :=
  let name := String.ofList (argument.toList.takeWhile (· ≠ '='))
  (allowed.find? fun option => option.longName = name).map fun option =>
    match argument.toList.dropWhile (· ≠ '=') with
    | [] => .bare option
    | _ :: value => .valued option (String.ofList value)

/-- The option in an argument that starts with one hyphen. -/
def letterOption?
    (allowed : List CommandOption)
    (argument : String) :
    Option WrittenOption :=
  match argument.toList with
  | _ :: letter :: value =>
      (allowed.find? fun option => option.letter = letter).map fun option =>
        if value.isEmpty then
          .bare option
        else
          .valued option (String.ofList value)
  | _ => none

/-- The option in an argument. -/
def writtenOption?
    (allowed : List CommandOption)
    (argument : String) :
    Option WrittenOption :=
  match argument.toList with
  | '-' :: '-' :: _ => longOption? allowed argument
  | _ => letterOption? allowed argument

/-- Whether an argument is an option rather than a value. -/
def isOption
    (argument : String) :
    Bool :=
  match argument.toList with
  | '-' :: _ :: _ => true
  | _ => false

/-- Arguments with an option before the others. -/
def Arguments.withOption
    (option : CommandOption)
    (value : String)
    (arguments : Arguments) :
    Arguments :=
  { arguments with options := (option, value) :: arguments.options }

/-- Arguments with another one before the others. -/
def Arguments.withOther
    (argument : String)
    (arguments : Arguments) :
    Arguments :=
  { arguments with others := argument :: arguments.others }

/--
Sort the arguments of a command, of which an option may wait for its value.

The help is asked for only by arguments that are understood.
-/
def sortArguments
    (allowed : List CommandOption) :
    Option CommandOption →
    List String →
    Except Invocation Arguments
  | none, [] => .ok ⟨[], []⟩
  | some option, [] =>
      .error
        (.misused ("Option '" ++ option.longName ++ "' requires an argument."))
  | some option, value :: rest =>
      (sortArguments allowed none rest).map (.withOption option value)
  | none, argument :: rest =>
      if argument = "--" then
        .ok ⟨[], rest⟩
      else if argument = "--help" then
        match sortArguments allowed none rest with
        | .error invocation => .error invocation
        | .ok _ => .error .help
      else if isOption argument then
        match writtenOption? allowed argument with
        | none => .error (.misused ("No such option: " ++ argument))
        | some (.valued option value) =>
            (sortArguments allowed none rest).map (.withOption option value)
        | some (.bare option) => sortArguments allowed (some option) rest
      else
        (sortArguments allowed none rest).map (.withOther argument)

namespace Arguments

/-- The values of an option in the order they are given. -/
def values
    (arguments : Arguments)
    (option : CommandOption) :
    List String :=
  (arguments.options.filter fun given => given.1 = option).map Prod.snd

/-- The path of the settings; the last one given holds. -/
def settingsPath
    (arguments : Arguments) :
    Option String :=
  (arguments.values .settings).getLast?

end Arguments

namespace Invocation

/-- An invocation with exactly one argument besides the options. -/
def withOne
    (name : String)
    (arguments : Arguments)
    (make : String → Invocation) :
    Invocation :=
  match arguments.others with
  | [] => .misused ("Missing argument '" ++ name ++ "'.")
  | [only] => make only
  | _ :: extra :: _ =>
      .misused ("Got unexpected extra argument (" ++ extra ++ ")")

/-- The invocation of a command with its arguments. -/
def ofCommand
    (command : String)
    (rest : List String) :
    Invocation :=
  let sorted
      (allowed : List CommandOption)
      (make : Arguments → Invocation) :
      Invocation :=
    match sortArguments allowed none rest with
    | .ok arguments => make arguments
    | .error invocation => invocation
  if command = "eval" then
    sorted [.assignment, .settings] fun arguments =>
      withOne "EXPRESSION" arguments fun expression =>
        .evaluate expression (arguments.values .assignment)
          arguments.settingsPath
  else if command = "tokens" then
    sorted [] fun arguments => withOne "EXPRESSION" arguments .tokens
  else if command = "repl" then
    sorted [.settings] fun arguments =>
      match arguments.others with
      | [] => .interact arguments.settingsPath
      | extra :: _ =>
          .misused ("Got unexpected extra argument (" ++ extra ++ ")")
  else
    .misused ("No such command '" ++ command ++ "'.")

/-- The invocation that the arguments of the program mean. -/
def ofArguments : List String → Invocation
  | [] => .help
  | "--version" :: _ => .version
  | "--help" :: _ => .help
  | "--" :: command :: rest => ofCommand command rest
  | command :: rest =>
      if isOption command then
        .misused ("No such option: " ++ command)
      else
        ofCommand command rest

/-- The path of the settings file that an invocation reads, if it reads one. -/
def settingsPath? : Invocation → Option String
  | evaluate _ _ path => some (normalPath (path.getD Settings.defaultPath))
  | interact path => some (normalPath (path.getD Settings.defaultPath))
  | _ => none

/-- How the program is used. -/
def usage : String :=
  "Usage: prattcalc [--version] eval|tokens|repl [OPTIONS] [EXPRESSION]\n"

/-- The texts that an invocation evaluates, apart from the lines of the input. -/
def texts : Invocation → List String
  | evaluate expression assignments _ => assignments ++ [expression]
  | _ => []

/-- Texts as inputs, with the draws made for each of them. -/
def inputs
    (draws : Nat → Draws)
    (texts : List String) :
    List Input :=
  texts.mapIdx fun index text => ⟨text, draws index⟩

/--
What an invocation writes, from the content of its settings file and the lines of
the standard input. There are draws for each text that is evaluated.
-/
def run
    (stack : Toml.Stack)
    (draws : Nat → Draws)
    (content : FileContent)
    (lines : List String)
    (invocation : Invocation) :
    Transcript :=
  let path := invocation.settingsPath?.getD Settings.defaultPath
  match invocation with
  | .version => .success [.out ("prattcalc " ++ Version.current ++ "\n")]
  | .help => .success [.out usage]
  | .evaluate expression assignments _ =>
      withSettings stack path content fun settings =>
        CommandLine.evaluate settings (inputs draws assignments)
          ⟨expression, draws assignments.length⟩
  | .tokens source => CommandLine.tokens source
  | .interact _ =>
      withSettings stack path content fun settings =>
        CommandLine.interact settings (inputs draws lines)
  | .misused reason =>
      ⟨[.err (usage ++ "Error: " ++ reason ++ "\n")], .exit 2⟩

end Invocation

end Reckoner.CommandLine
