import Reckoner.Number.Basic
import Reckoner.Text.Quoted

namespace Reckoner.Toml

/-!
# Values of a TOML document

A document denotes a table: keys bound to values in the order in which they are
first bound. `Value.text?` is the text of a value on its own, where a string stands
for itself; inside an array or a table strings are quoted. An integer that is too
long to be written has no text, nor has a value that holds one.
-/

/-- A day of the calendar. -/
structure Date where
  year : Nat
  month : Nat
  day : Nat
  deriving Repr, DecidableEq

/-- A time of day, to the microsecond. -/
structure Time where
  hour : Nat
  minute : Nat
  second : Nat
  microsecond : Nat
  deriving Repr, DecidableEq

/-- A distance from universal time; zero may be written as such. -/
inductive Offset where
  | universal
  | minutes (ahead : Bool) (count : Nat)
  deriving Repr, DecidableEq

/-- A point in time, or a part of one. -/
inductive Moment where
  | date (date : Date)
  | time (time : Time)
  | dateTime (date : Date) (time : Time) (offset : Option Offset)
  deriving Repr, DecidableEq

/-- A value in a document. -/
inductive Value where
  | string (text : String)
  | integer (number : Int)
  | float (number : Float)
  | boolean (truth : Bool)
  | moment (moment : Moment)
  | array (items : List Value)
  | table (entries : List (String × Value))
  deriving Repr

/-- The bindings of a table. -/
abbrev Entries :=
  List (String × Value)

/-- The value of a key in a table. -/
def Entries.get?
    (entries : Entries)
    (key : String) :
    Option Value :=
  List.lookup key entries

/-- A number with zeros in front, up to a width. -/
def padded
    (width number : Nat) :
    String :=
  let digits := Nat.repr number
  String.ofList (List.replicate (width - digits.length) '0') ++ digits

/-- The text of a date: year, month and day with hyphens. -/
def Date.text
    (date : Date) :
    String :=
  padded 4 date.year ++ "-" ++ padded 2 date.month ++ "-" ++ padded 2 date.day

/-- The text of a time; the fraction is left out if it is zero. -/
def Time.text
    (time : Time) :
    String :=
  padded 2 time.hour ++ ":" ++ padded 2 time.minute ++ ":" ++
    padded 2 time.second ++
    (if time.microsecond = 0 then "" else "." ++ padded 6 time.microsecond)

/-- The text of an offset: a sign, hours and minutes. -/
def Offset.text : Offset → String
  | .universal => "+00:00"
  | .minutes ahead count =>
      (if ahead ∨ count = 0 then "+" else "-") ++
        padded 2 (count / 60) ++ ":" ++ padded 2 (count % 60)

/-- The text of a moment, its parts separated by a space. -/
def Moment.text : Moment → String
  | .date day => day.text
  | .time clock => clock.text
  | .dateTime day clock offset =>
      day.text ++ " " ++ clock.text ++ (offset.map Offset.text).getD ""

/-- Numbers separated by commas. -/
def numberList
    (numbers : List Nat) :
    String :=
  ", ".intercalate (numbers.map Nat.repr)

/-- The parts of a time that are written: zero seconds and fractions are left out. -/
def Time.parts
    (time : Time) :
    List Nat :=
  if time.microsecond ≠ 0 then
    [time.hour, time.minute, time.second, time.microsecond]
  else if time.second ≠ 0 then
    [time.hour, time.minute, time.second]
  else
    [time.hour, time.minute]

/-- An offset as it is written inside an array or a table. -/
def Offset.nestedText : Offset → String
  | .universal => "datetime.timezone.utc"
  | .minutes ahead count =>
      if count = 0 then
        "datetime.timezone.utc"
      else if ahead then
        "datetime.timezone(datetime.timedelta(seconds=" ++
          Nat.repr (60 * count) ++ "))"
      else
        "datetime.timezone(datetime.timedelta(days=-1, seconds=" ++
          Nat.repr (86400 - 60 * count) ++ "))"

/-- A moment as it is written inside an array or a table. -/
def Moment.nestedText : Moment → String
  | .date day =>
      "datetime.date(" ++ numberList [day.year, day.month, day.day] ++ ")"
  | .time clock => "datetime.time(" ++ numberList clock.parts ++ ")"
  | .dateTime day clock offset =>
      "datetime.datetime(" ++
        numberList ([day.year, day.month, day.day] ++ clock.parts) ++
        (match offset with
        | none => ""
        | some distance => ", tzinfo=" ++ distance.nestedText) ++ ")"

namespace Value

mutual

/-- A value as it is written inside an array or a table. -/
def nestedText? : Value → Option String
  | .string characters => some (Text.quoted characters)
  | .integer n => (Number.int n).text?
  | .float x => (Number.float x).text?
  | .boolean truth => some (if truth then "True" else "False")
  | .moment point => some point.nestedText
  | .array items =>
      (itemTexts? items).map fun texts =>
        "[" ++ ", ".intercalate texts ++ "]"
  | .table entries =>
      (entryTexts? entries).map fun texts =>
        "\x7b" ++ ", ".intercalate texts ++ "\x7d"

/-- The items of an array as they are written. -/
def itemTexts? : List Value → Option (List String)
  | [] => some []
  | item :: rest =>
      (nestedText? item).bind fun text =>
        (itemTexts? rest).map (text :: ·)

/-- The entries of a table as they are written. -/
def entryTexts? : List (String × Value) → Option (List String)
  | [] => some []
  | (key, value) :: rest =>
      (nestedText? value).bind fun text =>
        (entryTexts? rest).map ((Text.quoted key ++ ": " ++ text) :: ·)

end

/-- The text of a value on its own. -/
def text? : Value → Option String
  | .string characters => some characters
  | .moment point => some point.text
  | value => nestedText? value

end Value

end Reckoner.Toml
