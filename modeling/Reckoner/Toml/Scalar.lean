import Reckoner.Number.Numeral
import Reckoner.Toml.Reader
import Reckoner.Toml.Value

namespace Reckoner.Toml

/-!
# Numbers and moments

Digits are those of ASCII, and a single underscore may separate two of them. An
integer is decimal without leading zeros, or hexadecimal, octal or binary with a
mark in front. A fraction or an exponent makes a number a float.
-/

/-- The value of a digit in a base. -/
def digitValue?
    (base : Nat)
    (character : Char) :
    Option Nat :=
  (hexValue? character).filter (· < base)

/-- Digits in a base with single underscores between them, as many as follow. -/
def digitGroup
    (base : Nat) :
    List Char →
    List Nat × List Char
  | [] => ([], [])
  | '_' :: character :: rest =>
      match digitValue? base character with
      | none => ([], '_' :: character :: rest)
      | some digit =>
          let (digits, following) := digitGroup base rest
          (digit :: digits, following)
  | character :: rest =>
      match digitValue? base character with
      | none => ([], character :: rest)
      | some digit =>
          let (digits, following) := digitGroup base rest
          (digit :: digits, following)

/-- At least one digit in a base, without an underscore in front. -/
def digits?
    (base : Nat)
    (text : List Char) :
    Option (List Nat × List Char) :=
  match text with
  | '_' :: _ => none
  | _ =>
      let (digits, rest) := digitGroup base text
      if digits = [] then none else some (digits, rest)

/-- An integer with the mark of its base in front. -/
def markedInteger? : List Char → Option (Value × List Char)
  | '0' :: mark :: rest =>
      let base? :=
        match mark with
        | 'x' => some 16
        | 'o' => some 8
        | 'b' => some 2
        | _ => none
      base?.bind fun base =>
        (digits? base rest).map fun (digits, following) =>
          (.integer (ofDigits base digits), following)
  | _ => none

/-- The integer part of a decimal number: a zero alone, or no leading zero. -/
def wholePart? : List Char → Option (List Nat × List Char)
  | '0' :: rest => some ([0], rest)
  | text => digits? 10 text

/-- The fraction of a decimal number, if one follows. -/
def fractionPart : List Char → List Nat × List Char
  | '.' :: rest => (digits? 10 rest).getD ([], '.' :: rest)
  | rest => ([], rest)

/-- The exponent of a decimal number, if one follows. -/
def exponentPart
    (text : List Char) :
    Option Int × List Char :=
  match text with
  | mark :: rest =>
      if mark = 'e' ∨ mark = 'E' then
        let (negative, unsigned) := Numeral.splitSign rest
        match digits? 10 unsigned with
        | none => (none, text)
        | some (digits, following) =>
            let size : Int := ofDigits 10 digits
            (some (if negative then -size else size), following)
      else
        (none, text)
  | [] => (none, [])

/-- A decimal number: an integer of limited length, or a float. -/
def decimalNumber?
    (text : List Char) :
    Option (Reading Value) :=
  let (negative, unsigned) := Numeral.splitSign text
  (wholePart? unsigned).map fun (whole, afterWhole) =>
    let (fraction, afterFraction) := fractionPart afterWhole
    let (exponent, rest) := exponentPart afterFraction
    if fraction = [] ∧ exponent = none then
      if whole.length ≤ digitLimit then
        let size : Int := ofDigits 10 whole
        .ok (.integer (if negative then -size else size), rest)
      else
        .error (.integerTooLong whole.length)
    else
      .ok
        (.float
          (Binary64.ofDecimal negative (ofDigits 10 (whole ++ fraction))
            (exponent.getD 0 - fraction.length)),
          rest)

/-- A float that is written by its name. -/
def namedFloat?
    (text : List Char) :
    Option (Value × List Char) :=
  let (negative, unsigned) := Numeral.splitSign text
  match dropWord? ['i', 'n', 'f'] unsigned, dropWord? ['n', 'a', 'n'] unsigned with
  | some rest, _ => some (.float (Binary64.infinity negative), rest)
  | none, some rest => some (.float Binary64.nan, rest)
  | none, none => none

/-- A number of exactly the given count of decimal digits. -/
def fixedDigits?
    (count : Nat)
    (text : List Char) :
    Option (Nat × List Char) :=
  ((text.take count).mapM (digitValue? 10)).bind fun digits =>
    if digits.length = count then
      some (ofDigits 10 digits, text.drop count)
    else
      none

/-- The text after an expected character. -/
def after?
    (expected : Char)
    (text : List Char) :
    Option (List Char) :=
  dropWord? [expected] text

/-- The microseconds in the digits of a fraction of a second. -/
def microseconds
    (digits : List Nat) :
    Nat :=
  let leading := digits.take 6
  ofDigits 10 (leading ++ List.replicate (6 - leading.length) 0)

/-- The fraction of a second, if a point and a digit follow. -/
def secondFraction : List Char → Nat × List Char
  | '.' :: rest =>
      let digits := rest.takeWhile Char.isDigit
      if digits = [] then
        (0, '.' :: rest)
      else
        (microseconds (digits.map fun digit => digit.toNat - '0'.toNat),
          rest.dropWhile Char.isDigit)
  | rest => (0, rest)

/-- A time of day: hours, minutes and seconds, and perhaps a fraction. -/
def timeOfDay?
    (text : List Char) :
    Option (Time × List Char) := do
  let (hour, afterHour) ← fixedDigits? 2 text
  let (minute, afterMinute) ← fixedDigits? 2 (← after? ':' afterHour)
  let (second, afterSecond) ← fixedDigits? 2 (← after? ':' afterMinute)
  let (fraction, rest) := secondFraction afterSecond
  if hour < 24 ∧ minute < 60 ∧ second < 60 then
    some (⟨hour, minute, second, fraction⟩, rest)
  else
    none

/-- A distance from universal time, if one follows. -/
def offset? : List Char → Option (Offset × List Char)
  | [] => none
  | sign :: rest =>
      if sign = 'Z' ∨ sign = 'z' then
        some (.universal, rest)
      else if sign = '+' ∨ sign = '-' then do
        let (hours, afterHours) ← fixedDigits? 2 rest
        let (minutes, following) ← fixedDigits? 2 (← after? ':' afterHours)
        if hours < 24 ∧ minutes < 60 then
          some (.minutes (sign = '+') (60 * hours + minutes), following)
        else
          none
      else
        none

/-- Whether a year has a leap day. -/
def isLeapYear
    (year : Nat) :
    Bool :=
  year % 4 = 0 && (year % 100 ≠ 0 || year % 400 = 0)

/-- The number of days of a month. -/
def daysOfMonth
    (year month : Nat) :
    Nat :=
  if month = 2 then
    if isLeapYear year then 29 else 28
  else if month = 4 ∨ month = 6 ∨ month = 9 ∨ month = 11 then
    30
  else
    31

/-- Whether the calendar, which starts with the year one, has a date. -/
def Date.isValid
    (date : Date) :
    Bool :=
  1 ≤ date.year && 1 ≤ date.month && date.month ≤ 12 &&
    1 ≤ date.day && date.day ≤ daysOfMonth date.year date.month

/-- A date as it is written, valid or not. -/
def dateDigits?
    (text : List Char) :
    Option (Date × List Char) := do
  let (year, afterYear) ← fixedDigits? 4 text
  let (month, afterMonth) ← fixedDigits? 2 (← after? '-' afterYear)
  let (day, rest) ← fixedDigits? 2 (← after? '-' afterMonth)
  some (⟨year, month, day⟩, rest)

/-- A time of day after the separator that follows a date. -/
def timeAfterDate? : List Char → Option (Time × List Char)
  | separator :: rest =>
      if separator = 'T' ∨ separator = 't' ∨ separator = ' ' then
        timeOfDay? rest
      else
        none
  | [] => none

/-- A date, alone or with a time of day and an offset. -/
def dateOrDateTime?
    (text : List Char) :
    Option (Reading Value) :=
  (dateDigits? text).map fun (date, afterDate) =>
    if date.isValid then
      match timeAfterDate? afterDate with
      | none => .ok (.moment (.date date), afterDate)
      | some (time, afterTime) =>
          match offset? afterTime with
          | none => .ok (.moment (.dateTime date time none), afterTime)
          | some (offset, rest) =>
              .ok (.moment (.dateTime date time (some offset)), rest)
    else
      .error .invalid

/-- A moment or a number. -/
def momentOrNumber : Reader Value :=
  fun text =>
    match dateOrDateTime? text with
    | some reading => reading
    | none =>
        match timeOfDay? text with
        | some (time, rest) => .ok (.moment (.time time), rest)
        | none =>
            match markedInteger? text with
            | some (value, rest) => .ok (value, rest)
            | none =>
                match decimalNumber? text with
                | some reading => reading
                | none =>
                    match namedFloat? text with
                    | some (value, rest) => .ok (value, rest)
                    | none => .error .invalid

end Reckoner.Toml
