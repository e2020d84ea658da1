namespace Reckoner

/-!
# Ranges of code points

A character property beyond ASCII is a table of inclusive code point ranges.
-/

/-- An inclusive range of code points. -/
structure CodeRange where
  first : Nat
  last : Nat
  deriving Repr, DecidableEq

namespace CodeRange

/-- Whether a character lies in the range. -/
def contains
    (range : CodeRange)
    (character : Char) :
    Bool :=
  range.first ≤ character.toNat && character.toNat ≤ range.last

/-- The ranges written as pairs of their first and last code point. -/
def ofPairs
    (pairs : List (Nat × Nat)) :
    List CodeRange :=
  pairs.map fun pair => ⟨pair.1, pair.2⟩

/-- Whether some range of a table contains the character. -/
def covers
    (ranges : List CodeRange)
    (character : Char) :
    Bool :=
  ranges.any (·.contains character)

/-- A table covers a character exactly when one of its ranges does. -/
theorem covers_eq_true_iff
    {ranges : List CodeRange}
    {character : Char} :
    covers ranges character = true ↔
      ∃ range ∈ ranges,
        range.first ≤ character.toNat ∧
          character.toNat ≤ range.last := by
  simp [covers, contains]

end CodeRange

end Reckoner
