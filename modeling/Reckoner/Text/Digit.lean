import Reckoner.Text.CodeRange

namespace Reckoner.Text

/-!
# Digits

Two classes of digits meet in a calculator. A *decimal* is a character of the
general category Nd: it stands for a value from 0 to 9 in a positional numeral,
and the decimals of a script follow each other in value order. A *digit* is a
decimal or one of the digits with a typographic context, such as a superscript
or a circled digit, which cannot be part of a positional numeral.

The tables hold the characters of Unicode 14 beyond ASCII.
-/

/-- The zeros of the decimal digits beyond ASCII; nine successors follow each. -/
def decimalZeros : List Nat :=
  [
    0x660, 0x6f0, 0x7c0, 0x966, 0x9e6, 0xa66, 0xae6, 0xb66, 0xbe6, 0xc66, 0xce6, 0xd66, 0xde6,
    0xe50, 0xed0, 0xf20, 0x1040, 0x1090, 0x17e0, 0x1810, 0x1946, 0x19d0, 0x1a80, 0x1a90, 0x1b50,
    0x1bb0, 0x1c40, 0x1c50, 0xa620, 0xa8d0, 0xa900, 0xa9d0, 0xa9f0, 0xaa50, 0xabf0, 0xff10,
    0x104a0, 0x10d30, 0x11066, 0x110f0, 0x11136, 0x111d0, 0x112f0, 0x11450, 0x114d0, 0x11650,
    0x116c0, 0x11730, 0x118e0, 0x11950, 0x11c50, 0x11d50, 0x11da0, 0x16a60, 0x16ac0, 0x16b50,
    0x1d7ce, 0x1d7d8, 0x1d7e2, 0x1d7ec, 0x1d7f6, 0x1e140, 0x1e2f0, 0x1e950, 0x1fbf0
  ]

/-- The digits that are not decimals: superscripts, circled digits and the like. -/
def typographicDigits : List CodeRange :=
  CodeRange.ofPairs [
    (0xb2, 0xb3), (0xb9, 0xb9), (0x1369, 0x1371), (0x19da, 0x19da), (0x2070, 0x2070),
    (0x2074, 0x2079), (0x2080, 0x2089), (0x2460, 0x2468), (0x2474, 0x247c), (0x2488, 0x2490),
    (0x24ea, 0x24ea), (0x24f5, 0x24fd), (0x24ff, 0x24ff), (0x2776, 0x277e), (0x2780, 0x2788),
    (0x278a, 0x2792), (0x10a40, 0x10a43), (0x10e60, 0x10e68), (0x11052, 0x1105a),
    (0x1f100, 0x1f10a)
  ]

/-- The value of a decimal digit of any script. -/
def decimalValue?
    (character : Char) :
    Option Nat :=
  if character.toNat < 128 then
    if character.isDigit then some (character.toNat - '0'.toNat) else none
  else
    (decimalZeros.find? fun start =>
        start ≤ character.toNat && character.toNat ≤ start + 9).map
      (character.toNat - ·)

/-- Whether a character is a decimal digit of any script. -/
def isDecimal
    (character : Char) :
    Bool :=
  (decimalValue? character).isSome

/-- Whether a character is a digit: a decimal or a typographic digit. -/
def isDigit
    (character : Char) :
    Bool :=
  isDecimal character || CodeRange.covers typographicDigits character

/-- Every decimal is a digit. -/
theorem isDigit_of_isDecimal
    {character : Char}
    (decimal : isDecimal character = true) :
    isDigit character = true := by
  simp [isDigit, decimal]

/-- The value of a decimal is a single digit. -/
theorem decimalValue?_lt_ten
    {character : Char}
    {value : Nat}
    (found : decimalValue? character = some value) :
    value < 10 := by
  unfold decimalValue? at found
  split at found
  · split at found
    case isTrue isAsciiDigit =>
      have digit : 48 ≤ character.toNat ∧ character.toNat ≤ 57 := by
        simpa [Char.isDigit, UInt32.le_iff_toNat_le] using isAsciiDigit
      have codeOfZero : '0'.toNat = 48 := rfl
      simp only [Option.some.injEq, codeOfZero] at found
      omega
    case isFalse => simp at found
  · obtain ⟨start, isZero, difference⟩ := Option.map_eq_some_iff.1 found
    have inside := List.find?_some isZero
    simp only [Bool.and_eq_true, decide_eq_true_eq] at inside
    omega

end Reckoner.Text
