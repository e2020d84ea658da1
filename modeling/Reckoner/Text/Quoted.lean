import Reckoner.Text.Printable

namespace Reckoner.Text

/-!
# Quoted text

Messages quote pieces of the source. The text stands between single quotes, or
between double quotes if it holds a single quote and no double quote. The
backslash, the enclosing quote and the line controls are escaped by a backslash,
and every other unprintable character by its code point in hexadecimal.
-/

/-- A number in lower-case hexadecimal, padded with zeros to a width. -/
def paddedHex
    (width number : Nat) :
    List Char :=
  let digits := Nat.toDigits 16 number
  List.replicate (width - digits.length) '0' ++ digits

/-- The hexadecimal escape of an unprintable character, as short as it fits. -/
def codePointEscape
    (character : Char) :
    List Char :=
  let code := character.toNat
  if code < 0x100 then
    '\\' :: 'x' :: paddedHex 2 code
  else if code < 0x10000 then
    '\\' :: 'u' :: paddedHex 4 code
  else
    '\\' :: 'U' :: paddedHex 8 code

/-- A character as it is written between a given kind of quotes. -/
def quotedCharacter
    (quote character : Char) :
    List Char :=
  if character = quote ∨ character = '\\' then
    ['\\', character]
  else if character = '\n' then
    ['\\', 'n']
  else if character = '\r' then
    ['\\', 'r']
  else if character = '\t' then
    ['\\', 't']
  else if isPrintable character then
    [character]
  else
    codePointEscape character

/-- The quote that encloses a text. -/
def enclosingQuote
    (text : List Char) :
    Char :=
  if '\'' ∈ text ∧ '"' ∉ text then '"' else '\''

/-- A text between quotes, with escapes where they are needed. -/
def quoted
    (text : String) :
    String :=
  let quote := enclosingQuote text.toList
  String.ofList
    (quote :: text.toList.flatMap (quotedCharacter quote) ++ [quote])

end Reckoner.Text
