namespace Reckoner.Text

/-!
# Style codes

A style code tells a terminal how to show the text after it. It starts with the escape
character and an opening bracket, has numbers for parameters and ends with a letter.
Text that goes to no terminal is written without them.
-/

/-- Whether a character may stand among the parameters of a style code. -/
def isCodeParameter
    (character : Char) :
    Bool :=
  character.isDigit || character = ';' || character = '?'

/-- What follows a style code, from the characters after its bracket. -/
def afterStyleCode?
    (text : List Char) :
    Option (List Char) :=
  match text.dropWhile isCodeParameter with
  | [] => none
  | last :: rest => if last.isAlpha then some rest else none

/-- What follows a style code is shorter than the code with it. -/
theorem length_lt_of_afterStyleCode?
    {text rest : List Char}
    (found : afterStyleCode? text = some rest) :
    rest.length < text.length := by
  have dropped : (text.dropWhile isCodeParameter).length ≤ text.length :=
    (List.dropWhile_sublist _).length_le
  unfold afterStyleCode? at found
  split at found
  · contradiction
  · next last others dropEquation =>
    split at found
    · simp only [Option.some.injEq] at found
      subst found
      rw [dropEquation] at dropped
      simp only [List.length_cons] at dropped
      omega
    · contradiction

/-- A text without its style codes. -/
def withoutStyleCodes : List Char → List Char
  | '\x1b' :: '[' :: rest =>
      match found : afterStyleCode? rest with
      | some after =>
          have := length_lt_of_afterStyleCode? found
          withoutStyleCodes after
      | none => '\x1b' :: withoutStyleCodes ('[' :: rest)
  | character :: rest => character :: withoutStyleCodes rest
  | [] => []
termination_by text => text.length
decreasing_by
  all_goals
    simp only [List.length_cons]
    omega

end Reckoner.Text
