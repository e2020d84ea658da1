import Reckoner.Token.Run

namespace Reckoner.Run

/-!
# The forms of a numeral

A numeral has decimals and at most one point, which may stand before, between or behind
them. Recognizing one is a matter of looking at what follows the first decimals.
-/

/-- Digits that are decimals of any script. -/
def Decimals
    (text : List Char) :
    Prop :=
  ∀ digit ∈ text, Text.isDecimal digit = true

/-- The four ways to write a numeral. -/
inductive Numeral : List Char → Prop where
  | whole
      {digits : List Char}
      (decimals : Decimals digits)
      (nonempty : digits ≠ []) :
      Numeral digits
  | pointed
      {digits : List Char}
      (decimals : Decimals digits)
      (nonempty : digits ≠ []) :
      Numeral (digits ++ ['.'])
  | mixed
      {digits fraction : List Char}
      (decimals : Decimals digits)
      (nonempty : digits ≠ [])
      (fractionDecimals : Decimals fraction)
      (fractionNonempty : fraction ≠ []) :
      Numeral (digits ++ '.' :: fraction)
  | fraction
      {digits : List Char}
      (decimals : Decimals digits)
      (nonempty : digits ≠ []) :
      Numeral ('.' :: digits)

/-- Decimals in front of a point, or of nothing, are taken as a whole. -/
theorem span_decimals
    {digits rest : List Char}
    (decimals : Decimals digits)
    (stops : rest.head?.all (· = '.') = true) :
    (digits ++ rest).takeWhile Text.isDecimal = digits ∧
      (digits ++ rest).dropWhile Text.isDecimal = rest := by
  have stopped :
      rest.takeWhile Text.isDecimal = [] ∧
        rest.dropWhile Text.isDecimal = rest := by
    cases rest with
    | nil => exact ⟨rfl, rfl⟩
    | cons next later =>
        have isPoint : next = '.' := by simpa using stops
        rw [isPoint]
        exact ⟨rfl, rfl⟩
  rw [List.takeWhile_append_of_pos decimals,
    List.dropWhile_append_of_pos decimals, stopped.1, stopped.2]
  exact ⟨List.append_nil digits, rfl⟩

/-- Decimals alone are recognized unless there are none. -/
theorem isNumeral_decimals
    {digits : List Char}
    (decimals : Decimals digits)
    (nonempty : digits ≠ []) :
    isNumeral digits = true := by
  have span := span_decimals decimals (show [].head?.all _ = true from rfl)
  rw [List.append_nil] at span
  simp [isNumeral, span, nonempty]

/-- Decimals with a point are recognized unless there are none on either side of it. -/
theorem isNumeral_point
    {digits fraction : List Char}
    (decimals : Decimals digits)
    (fractionDecimals : Decimals fraction)
    (nonempty : digits ≠ [] ∨ fraction ≠ []) :
    isNumeral (digits ++ '.' :: fraction) = true := by
  have span :=
    span_decimals decimals
      (show ('.' :: fraction).head?.all (· = '.') = true from rfl)
  have all : fraction.all Text.isDecimal = true :=
    List.all_eq_true.2 fractionDecimals
  simpa [isNumeral, span, all] using nonempty

/-- There are no other numerals than those that are recognized. -/
theorem isNumeral_iff
    (text : List Char) :
    isNumeral text = true ↔ Numeral text := by
  constructor
  · intro recognized
    have decimals : Decimals (text.takeWhile Text.isDecimal) :=
      List.all_eq_true.1 List.all_takeWhile
    have parts :
        text.takeWhile Text.isDecimal ++ text.dropWhile Text.isDecimal =
          text :=
      List.takeWhile_append_dropWhile
    unfold isNumeral at recognized
    generalize text.takeWhile Text.isDecimal = digits at *
    generalize text.dropWhile Text.isDecimal = rest at *
    subst parts
    cases rest with
    | nil =>
        rw [List.append_nil]
        exact .whole decimals (by simpa using recognized)
    | cons point fraction =>
        simp only [Bool.and_eq_true, decide_eq_true_eq, List.all_eq_true,
          Bool.or_eq_true] at recognized
        obtain ⟨⟨rfl, fractionDecimals⟩, nonempty⟩ := recognized
        by_cases noDigits : digits = []
        · subst noDigits
          exact .fraction fractionDecimals (by simpa using nonempty)
        · by_cases noFraction : fraction = []
          · subst noFraction
            exact .pointed decimals noDigits
          · exact .mixed decimals noDigits fractionDecimals noFraction
  · intro numeral
    cases numeral with
    | whole decimals nonempty => exact isNumeral_decimals decimals nonempty
    | pointed decimals nonempty =>
        exact
          isNumeral_point decimals (fun _ impossible => nomatch impossible)
            (.inl nonempty)
    | mixed decimals nonempty fractionDecimals _ =>
        exact isNumeral_point decimals fractionDecimals (.inl nonempty)
    | fraction decimals nonempty =>
        have noDigits : Decimals [] := fun _ impossible => nomatch impossible
        exact isNumeral_point noDigits decimals (.inr nonempty)

end Reckoner.Run
