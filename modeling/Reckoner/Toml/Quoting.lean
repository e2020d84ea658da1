import Reckoner.Toml.Reader

namespace Reckoner.Toml

/-!
# Strings and keys

A basic string stands between double quotes and has escapes, a literal string
between single quotes and has none. Three quotes enclose a string of several lines;
a line end right after them is dropped, and up to two more quotes may stand before
the closing ones.
-/

/-- The character with a hexadecimal code of a given number of digits. -/
def codePoint
    (width : Nat) :
    Reader (List Char) :=
  fun text =>
    match (text.take width).mapM hexValue? with
    | none => .error .invalid
    | some digits =>
        if digits.length = width ∧ (ofDigits 16 digits).isValidChar then
          .ok ([Char.ofNat (ofDigits 16 digits)], text.drop width)
        else
          .error .invalid

/-- The character that a letter after a backslash stands for. -/
def escaped? : Char → Option Char
  | 'b' => some '\x08'
  | 't' => some '\t'
  | 'n' => some '\n'
  | 'f' => some '\x0c'
  | 'r' => some '\r'
  | '"' => some '"'
  | '\\' => some '\\'
  | _ => none

/-- What an escape stands for; the text starts after its backslash. -/
def escape
    (multiline : Bool) :
    Reader (List Char)
  | [] => .error .invalid
  | character :: rest =>
      if multiline ∧ isSpaceOrLineEnd character then
        match (character :: rest).dropWhile isSpace with
        | [] => .ok ([], [])
        | '\n' :: following => .ok ([], following.dropWhile isSpaceOrLineEnd)
        | _ => .error .invalid
      else if character = 'u' then
        codePoint 4 rest
      else if character = 'U' then
        codePoint 8 rest
      else
        match escaped? character with
        | some meant => .ok ([meant], rest)
        | none => .error .invalid

/-- Put characters in front of what was read. -/
def prepended
    (characters : List Char)
    (reading : Reading (List Char)) :
    Reading (List Char) :=
  reading.map fun (text, rest) => (characters ++ text, rest)

/-- Whether a character may stand unescaped in a string. -/
def isPlain
    (multiline : Bool)
    (character : Char) :
    Bool :=
  !isIllegal character || (multiline && character = '\n')

/-- A basic string after its opening quotes. -/
def basicRest
    (multiline : Bool) :
    Nat →
    Reader (List Char)
  | 0, _ => .error .invalid
  | rounds + 1, text =>
      match text, multiline with
      | [], _ => .error .invalid
      | '"' :: rest, false => .ok ([], rest)
      | '"' :: '"' :: '"' :: rest, true => .ok ([], rest)
      | '\\' :: rest, _ =>
          (escape multiline rest).bind fun (characters, following) =>
            prepended characters (basicRest multiline rounds following)
      | character :: rest, _ =>
          if isPlain multiline character then
            prepended [character] (basicRest multiline rounds rest)
          else
            .error .invalid

/-- A literal string of one line after its opening quote. -/
def literalRest : Reader (List Char)
  | [] => .error .invalid
  | character :: rest =>
      if character = '\'' then
        .ok ([], rest)
      else if isPlain false character then
        prepended [character] (literalRest rest)
      else
        .error .invalid

/-- A literal string of several lines after its opening quotes. -/
def literalLinesRest : Reader (List Char)
  | [] => .error .invalid
  | '\'' :: '\'' :: '\'' :: rest => .ok ([], rest)
  | character :: rest =>
      if isPlain true character then
        prepended [character] (literalLinesRest rest)
      else
        .error .invalid

/-- A text without a line end at its front. -/
def withoutLineEnd : List Char → List Char
  | '\n' :: rest => rest
  | rest => rest

/-- Up to two more quotes before the closing ones belong to the string. -/
def withExtraQuotes
    (quote : Char)
    (reading : Reading (List Char)) :
    Reading (List Char) :=
  reading.map fun (text, rest) =>
    match rest with
    | first :: second :: following =>
        if first = quote ∧ second = quote then
          (text ++ [quote, quote], following)
        else if first = quote then
          (text ++ [quote], second :: following)
        else
          (text, rest)
    | [single] =>
        if single = quote then (text ++ [quote], []) else (text, rest)
    | [] => (text, rest)

/-- A string with its quotes; the text starts with a quote. -/
def quotedString : Reader (List Char)
  | '"' :: '"' :: '"' :: rest =>
      withExtraQuotes '"'
        (basicRest true (rest.length + 1) (withoutLineEnd rest))
  | '"' :: rest => basicRest false (rest.length + 1) rest
  | '\'' :: '\'' :: '\'' :: rest =>
      withExtraQuotes '\'' (literalLinesRest (withoutLineEnd rest))
  | '\'' :: rest => literalRest rest
  | _ => .error .invalid

/-- Whether a character may stand in a key without quotes. -/
def isBareKey
    (character : Char) :
    Bool :=
  character.isAlphanum || character = '-' || character = '_'

/-- One part of a key: bare, or a string of one line. -/
def keyPart : Reader String
  | '"' :: rest =>
      (basicRest false (rest.length + 1) rest).map fun (text, following) =>
        (String.ofList text, following)
  | '\'' :: rest =>
      (literalRest rest).map fun (text, following) =>
        (String.ofList text, following)
  | text =>
      if (text.takeWhile isBareKey).isEmpty then
        .error .invalid
      else
        .ok (String.ofList (text.takeWhile isBareKey), text.dropWhile isBareKey)

/-- The parts of a key, separated by points, with spaces around them. -/
def keyParts :
    Nat →
    Reader (List String)
  | 0, _ => .error .invalid
  | rounds + 1, text =>
      (keyPart text).bind fun (part, afterPart) =>
        match skipSpaces afterPart with
        | '.' :: rest =>
            (keyParts rounds (skipSpaces rest)).map fun (parts, following) =>
              (part :: parts, following)
        | following => .ok ([part], following)

/-- A key: one or more parts. -/
def key : Reader (List String) :=
  fun text => keyParts (text.length + 1) text

end Reckoner.Toml
