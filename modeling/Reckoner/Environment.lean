import Reckoner.Number.Functions
import Reckoner.Table

namespace Reckoner

/-!
# Environments

An environment names the variables and the functions that an expression may use.
The two have separate names: a variable never hides a function.
-/

/-- The numbers bound to names. -/
abbrev Variables :=
  Table String Number

/-- The functions bound to names. -/
abbrev Functions :=
  Table String Function

/-- The variables and functions known to an expression. -/
structure Environment where
  values : Variables
  functions : Functions

/-- The constants every calculator starts with. -/
def Variables.builtin : Variables :=
  Table.ofList [
    ("pi", .float (Float.ofBits 0x400921fb54442d18)),
    ("e", .float (Float.ofBits 0x4005bf0a8b145769))
  ]

/--
The functions every calculator starts with.

Each call of `rnd` scales the number that is drawn for it.
-/
def Functions.builtin
    (draws : Draws) :
    Functions :=
  Table.ofList [
    ("rnd", Function.scaledDraw draws),
    ("round", Function.round),
    ("floor", Function.floor),
    ("ceil", Function.ceil),
    ("log", Function.log),
    ("sign", Function.sign),
    ("sqrt", Function.ofFloats Float.sqrt),
    ("sin", Function.ofFloats Float.sin),
    ("cos", Function.ofFloats Float.cos),
    ("tan", Function.ofFloats Float.tan),
    ("asin", Function.ofFloats Float.asin),
    ("acos", Function.ofFloats Float.acos),
    ("atan", Function.ofFloats Float.atan)
  ]

namespace Environment

/-- The environment with the constants and functions every calculator has. -/
def builtin
    (draws : Draws) :
    Environment :=
  ⟨Variables.builtin, Functions.builtin draws⟩

/-- The environment without any names. -/
def empty : Environment :=
  ⟨Table.empty, Table.empty⟩

/-- Bind a variable. -/
def set
    (environment : Environment)
    (name : String)
    (value : Number) :
    Environment :=
  { environment with values := environment.values.insert name value }

/-- Bind several variables one after another. -/
def setAll
    (environment : Environment)
    (assignments : List (String × Number)) :
    Environment :=
  { environment with values := environment.values.insertAll assignments }

/-- Bind a function. -/
def define
    (environment : Environment)
    (name : String)
    (function : Function) :
    Environment :=
  { environment with functions := environment.functions.insert name function }

end Environment

namespace Functions

/-- Call a function; an unknown one gives no value. -/
def call
    (functions : Functions)
    (name : String)
    (site : CallSite)
    (argument : Option Number) :
    Except Fault (Option Number) :=
  match functions.get? name with
  | none => .ok none
  | some function => function site argument

/-- The argument of a call in a message. -/
def shownArgument : Option Number → Attempt String
  | none => .ok "None"
  | some value => Arithmetic.shown value

/--
The value of a call in an expression.

A wrong number of arguments, an argument outside the domain and an overflow are
failures of the expression; so is a function without a value. The argument of a
call must be writable, whether a message shows it or not.
-/
def value
    (functions : Functions)
    (name : String)
    (argument : Option Number)
    (position : CallSite) :
    Attempt Number :=
  match functions.call name position argument with
  | .error fault =>
      match fault.kind with
      | .arguments =>
          .error (.failure
            ⟨.argumentMismatch name (if argument.isSome then 1 else 0), position⟩)
      | .value | .overflow =>
          (shownArgument argument).bind fun text =>
            .error (.failure
              ⟨.callUndefined name text fault.message, position⟩)
      | .exhausted | .nesting => .error (.fault fault)
  | .ok none => .error (.failure ⟨.undefinedFunction name, position⟩)
  | .ok (some result) =>
      (shownArgument argument).map fun _ => result

end Functions

/-- The value of a name in an expression, once it has been looked up. -/
def boundValue
    (found : Option Number)
    (name : String)
    (position : Option Nat) :
    Attempt Number :=
  match found with
  | some number => .ok number
  | none => .error (.failure ⟨.undefinedVariable name, position⟩)

end Reckoner
