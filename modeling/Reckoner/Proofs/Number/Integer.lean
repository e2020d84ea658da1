import Reckoner.Proofs.Number.Addition

namespace Reckoner.Binary64

/-!
# Integers as doubles

A double has an integer as its value if it is finite and its units are those of the
integer. The double of an integer is the nearest one, so its value is the rounded integer.
An integer that is the value of some double is not rounded; beyond 53 bits all of these
are even.
-/

/-- A finite double has the units of an integer. -/
structure HasValue
    (x : Float)
    (n : Int) :
    Prop where
  finite : isFinite x = true
  signedUnits_eq : signedUnits x = n * unitsPerOne

/-- The value of some finite double. -/
def IsDoubleValue
    (n : Int) :
    Prop :=
  ∃ x, HasValue x n

section NearestSigned

/-- Rounding does not change the sign. -/
theorem natAbs_nearestSigned
    (n : Int) :
    (nearestSigned n).natAbs = nearest n.natAbs := by
  rcases Int.lt_trichotomy n 0 with negative | rfl | positive
  case inl =>
    rw [nearestSigned, Int.sign_eq_neg_one_of_neg negative, Int.neg_one_mul,
      Int.natAbs_neg, Int.natAbs_natCast]
  case inr.inl => simp [nearestSigned, nearest_of_lt]
  case inr.inr =>
    rw [nearestSigned, Int.sign_eq_one_of_pos positive, Int.one_mul,
      Int.natAbs_natCast]

/-- Integers of at most 53 bits are not rounded. -/
theorem nearestSigned_of_natAbs_le
    {n : Int}
    (small : n.natAbs ≤ 2 ^ 53) :
    nearestSigned n = n := by
  have same := nearest_of_significand small 0
  rw [Nat.pow_zero, Nat.mul_one] at same
  rw [nearestSigned, same, Int.sign_mul_natAbs]

/-- An integer is not rounded exactly if its size is not. -/
theorem nearestSigned_eq_self_iff
    (n : Int) :
    nearestSigned n = n ↔ nearest n.natAbs = n.natAbs := by
  constructor
  · intro same
    rw [← natAbs_nearestSigned, same]
  · intro same
    rw [nearestSigned, same, Int.sign_mul_natAbs]

/-- A positive factor keeps the sign and multiplies the size. -/
theorem sign_natAbs_mul
    (n : Int)
    {scale : Nat}
    (positive : 0 < scale) :
    (n * scale).sign = n.sign ∧ (n * scale).natAbs = n.natAbs * scale := by
  constructor
  · rw [Int.sign_mul, Int.sign_natCast_of_ne_zero positive.ne', Int.mul_one]
  · rw [Int.natAbs_mul, Int.natAbs_natCast]

/-- A factor that is a power of two comes out of the rounding of signed numbers. -/
theorem nearestSigned_mul_two_pow
    (n : Int)
    (shift : Nat) :
    nearestSigned (n * (2 ^ shift : Nat)) =
      nearestSigned n * (2 ^ shift : Nat) := by
  obtain ⟨sign, size⟩ := sign_natAbs_mul n (Nat.two_pow_pos shift)
  rw [nearestSigned, sign, size, nearest_mul_two_pow, Int.natCast_mul,
    ← Int.mul_assoc, nearestSigned]

/-- It does not matter whether ones or least units are rounded to a signed number. -/
theorem nearestSigned_mul_unitsPerOne
    (n : Int) :
    nearestSigned (n * unitsPerOne) = nearestSigned n * unitsPerOne := by
  rw [unitsPerOne_eq, nearestSigned_mul_two_pow]

end NearestSigned

/-- The number of bits that lie before the point of the largest double. -/
def integerBits : Nat :=
  1024

/-- The first power of two beyond the finite doubles, in least units. -/
theorem two_pow_largestBits :
    2 ^ largestBits = 2 ^ integerBits * unitsPerOne := by
  have bits : largestBits = integerBits + unitBits := rfl
  rw [bits, Nat.pow_add, unitsPerOne_eq]

namespace HasValue

variable {x : Float} {n : Int} (hasValue : HasValue x n)

include hasValue

/-- The units of a double are those of the size of its value. -/
theorem units_eq :
    units x = n.natAbs * unitsPerOne := by
  rw [← natAbs_signedUnits, hasValue.signedUnits_eq, Int.natAbs_mul,
    Int.natAbs_natCast]

/-- The floor of a double with an integer as its value is the integer. -/
theorem floor_eq :
    floor x = n := by
  rw [floor, hasValue.signedUnits_eq]
  exact Int.mul_ediv_cancel n (Int.natCast_ne_zero.2 unitsPerOne_pos.ne')

/-- A double with an integer as its value is whole. -/
theorem isWhole :
    isWhole x = true := by
  have whole : units x % unitsPerOne = 0 := by
    rw [hasValue.units_eq, Nat.mul_mod_left]
  rw [Binary64.isWhole, hasValue.finite, whole]
  rfl

/-- The value of a double is below the first power of two beyond all of them. -/
theorem natAbs_lt :
    n.natAbs < 2 ^ integerBits := by
  have below := units_lt hasValue.finite
  rw [hasValue.units_eq, two_pow_largestBits] at below
  exact Nat.lt_of_mul_lt_mul_right below

/-- The value of a double is not rounded. -/
theorem nearestSigned_eq :
    nearestSigned n = n := by
  have itself :=
    (IsNearest.of_finite hasValue.finite).signedUnits_eq hasValue.finite
  have scaled : nearestSigned n * unitsPerOne = n * unitsPerOne := by
    rw [← hasValue.signedUnits_eq, itself, hasValue.signedUnits_eq]
    exact (nearestSigned_mul_unitsPerOne n).symm
  exact
    Int.eq_of_mul_eq_mul_right
      (Int.natCast_ne_zero.2 unitsPerOne_pos.ne') scaled

/-- Beyond 53 bits the values of doubles are even. -/
theorem emod_two_eq_zero
    (many : 2 ^ 53 ≤ n.natAbs) :
    n % 2 = 0 := by
  have isEven := two_dvd_nearest many
  rw [(nearestSigned_eq_self_iff n).1 hasValue.nearestSigned_eq] at isEven
  omega

end HasValue

section OfInt

variable {n : Int} {x : Float}

/-- The double of an integer is the one with the pattern of its units, if finite. -/
theorem ofInt?_eq
    (n : Int) :
    ofInt? n =
      if patternOfUnits (n.natAbs * unitsPerOne) < infinityPattern then
        some
          (ofPattern (decide (n < 0)) (patternOfUnits (n.natAbs * unitsPerOne)))
      else
        none := by
  rw [ofInt?, ofQuotient?, roundedPattern_one]

/-- The double of an integer has the value that the integer is rounded to. -/
theorem hasValue_of_ofInt?
    (converted : ofInt? n = some x) :
    HasValue x (nearestSigned n) := by
  obtain ⟨sameSign, size⟩ := sign_natAbs_mul n unitsPerOne_pos
  rw [ofInt?_eq, ← size] at converted
  split at converted
  case isFalse => cases converted
  case isTrue below =>
    cases converted
    obtain ⟨sign, bits⟩ :=
      bits_ofPattern (decide (n < 0)) (Nat.le_of_lt below)
    have finite :
        isFinite
            (ofPattern (decide (n < 0))
              (patternOfUnits (n * unitsPerOne).natAbs)) =
          true := by
      rw [isFinite, bits, decide_eq_true below]
    refine ⟨finite, ?_⟩
    rw [← nearestSigned_mul_unitsPerOne]
    refine IsNearest.signedUnits_eq ⟨?_, fun _ => ?_⟩ finite
    · rw [bits, Nat.min_eq_right (Nat.le_of_lt below)]
    · rw [sign]
      apply decide_eq_decide.2
      rw [← Int.sign_eq_neg_one_iff_neg, ← sameSign,
        Int.sign_eq_neg_one_iff_neg]

/-- An integer has a double unless it is rounded to the first power of two beyond. -/
theorem exists_ofInt?_iff
    (n : Int) :
    (∃ x, ofInt? n = some x) ↔ nearest n.natAbs < 2 ^ integerBits := by
  have few :
      patternOfUnits (n.natAbs * unitsPerOne) < infinityPattern ↔
        nearest n.natAbs < 2 ^ integerBits := by
    rw [patternOfUnits_lt_iff, nearest_mul_unitsPerOne, two_pow_largestBits,
      Nat.mul_lt_mul_right unitsPerOne_pos]
  rw [ofInt?_eq, ← few]
  split
  case isTrue below => exact iff_of_true ⟨_, rfl⟩ below
  case isFalse beyond => exact iff_of_false (by simp) beyond

/-- The double of an integer other than zero is at least its leading bit. -/
theorem two_pow_log2_le_units
    (nonzero : n ≠ 0)
    (converted : ofInt? n = some x) :
    2 ^ n.natAbs.log2 * unitsPerOne ≤ units x := by
  rw [(hasValue_of_ofInt? converted).units_eq, natAbs_nearestSigned]
  exact
    Nat.mul_le_mul_right _
      (two_pow_log2_le_nearest (Int.natAbs_ne_zero.2 nonzero))

/-- The double of an integer other than zero is not zero. -/
theorem pattern_ne_zero_of_ofInt?
    (nonzero : n ≠ 0)
    (converted : ofInt? n = some x) :
    pattern x ≠ 0 := by
  intro isZero
  have leading := two_pow_log2_le_units nonzero converted
  rw [← natAbs_signedUnits, signedUnits_of_zero isZero] at leading
  exact
    Nat.not_le.2 (Nat.mul_pos (Nat.two_pow_pos _) unitsPerOne_pos) leading

end OfInt

end Reckoner.Binary64
