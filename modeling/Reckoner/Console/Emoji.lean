import Reckoner.Console.EmojiName
import Reckoner.Number.Numeral
import Reckoner.Text.Blank

namespace Reckoner.Console

/-!
# Emoji on the console

The console shows a name between colons as the emoji of that name. The name may end
in a hyphen and the word `emoji` or `text`, which ask for the coloured or the plain
form. What stands between the colons has no blanks; if it names no emoji, it stays as
it is and its second colon starts no other name.
-/

/-- The value of a digit in base sixteen. -/
def hexDigit
    (character : Char) :
    Nat :=
  if character.isDigit then
    character.toNat - '0'.toNat
  else
    character.toNat - 'A'.toNat + 10

/-- The characters whose code points are written in base sixteen, joined by hyphens. -/
def ofCodePoints
    (codes : String) :
    List Char :=
  (codes.splitOn "-").map fun code =>
    Char.ofNat (code.toList.foldl (fun n digit => 16 * n + hexDigit digit) 0)

/-- The emoji whose name stands in alternating names and code points. -/
def emojiAmong?
    (name : String) :
    List String →
    Option (List Char)
  | candidate :: codes :: rest =>
      if candidate = name then
        some (ofCodePoints codes)
      else
        emojiAmong? name rest
  | _ => none

/-- The emoji of a name. -/
def emoji?
    (name : String) :
    Option (List Char) :=
  emojiAmong? name
    ((emojiNames.splitOn "\n").flatMap fun line => line.splitOn " ")

/-- A letter in lower case, as far as it can occur in the name of an emoji. -/
def loweredLetter
    (character : Char) :
    Char :=
  if character = '\u212a' then
    'k'
  else if character = '\u212b' then
    'å'
  else if 'À' ≤ character && character ≤ 'Ö' then
    Char.ofNat (character.toNat + 32)
  else
    character.toLower

/-- The ends of a name that choose a form of its emoji, and what they add to it. -/
def emojiForms : List (List Char × List Char) :=
  [("-emoji".toList, ['\ufe0f']), ("-text".toList, ['\ufe0e'])]

/-- What is shown for the text between two colons, if it names an emoji. -/
def shownBetweenColons?
    (text : List Char) :
    Option (List Char) :=
  let (name, form) :=
    match emojiForms.find? fun form => form.1.isSuffixOf text with
    | some form => (text.take (text.length - form.1.length), form.2)
    | none => (text, [])
  (emoji? (String.ofList (name.map loweredLetter))).map (· ++ form)

/--
Replace names between colons, where the characters after the last colon that can
start a name have been read.
-/
def replaceEmojiAfter :
    Option (List Char) →
    List Char →
    List Char
  | none, [] => []
  | some between, [] => ':' :: between
  | none, character :: rest =>
      if character = ':' then
        replaceEmojiAfter (some []) rest
      else
        character :: replaceEmojiAfter none rest
  | some between, character :: rest =>
      if character = ':' then
        (shownBetweenColons? between).getD (':' :: between ++ [':']) ++
          replaceEmojiAfter none rest
      else if Text.isBlank character then
        ':' :: between ++ character :: replaceEmojiAfter none rest
      else
        replaceEmojiAfter (some (between ++ [character])) rest

/-- A text with the emoji that it names. -/
def replaceEmoji
    (text : List Char) :
    List Char :=
  replaceEmojiAfter none text

end Reckoner.Console
