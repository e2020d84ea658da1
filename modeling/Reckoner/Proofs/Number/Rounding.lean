import Mathlib.Algebra.Order.Ring.Nat
import Mathlib.Tactic.Ring
import Reckoner.Proofs.Number.Size

namespace Reckoner.Binary64

/-!
# Rounding to the bits of a double

A double keeps 53 significant bits. `nearest` rounds a natural number to so many bits,
ties to an even significand. It does not matter which unit the number counts: a factor
that is a power of two comes out of the rounding as it went in. So the nearest double
of an integer and the sum of two doubles are rounded by the same function, one in ones
and the other in least units.

At the end the function is tied to bit patterns: the pattern that belongs to a number of
units is that of a double with the nearest number of units.
-/

section RoundedQuotient

variable {numerator denominator : Nat}

/-- A quotient without a remainder is not rounded. -/
theorem roundedQuotient_of_dvd
    (positive : 0 < denominator)
    (divides : denominator ∣ numerator) :
    roundedQuotient numerator denominator = numerator / denominator := by
  simp [roundedQuotient, Nat.mod_eq_zero_of_dvd divides, positive]

/-- A quotient is rounded to one of the two whole numbers around it. -/
theorem roundedQuotient_mem
    (numerator denominator : Nat) :
    numerator / denominator ≤ roundedQuotient numerator denominator ∧
      roundedQuotient numerator denominator ≤
        numerator / denominator + 1 := by
  unfold roundedQuotient
  simp only
  split
  · omega
  · split
    · omega
    · omega

/-- A common factor does not change how a quotient is rounded. -/
theorem roundedQuotient_mul_right
    {factor : Nat}
    (positive : 0 < factor)
    (numerator denominator : Nat) :
    roundedQuotient (numerator * factor) (denominator * factor) =
      roundedQuotient numerator denominator := by
  have scaled :
      2 * (numerator * factor % (denominator * factor)) =
        2 * (numerator % denominator) * factor := by
    rw [Nat.mul_mod_mul_right, Nat.mul_assoc]
  simp only [roundedQuotient, scaled,
    Nat.mul_div_mul_right _ _ positive, Nat.mul_lt_mul_right positive]

end RoundedQuotient

/-- The number of bits of a natural number that a double does not keep. -/
def surplus
    (n : Nat) :
    Nat :=
  n.log2 - 52

/-- The number of 53 significant bits that is nearest to a natural number. -/
def nearest
    (n : Nat) :
    Nat :=
  roundedQuotient n (2 ^ surplus n) * 2 ^ surplus n

variable {n : Nat}

/-- A number of fewer than 53 bits is below the power of two that needs more. -/
theorem lt_of_log2_lt
    (few : n.log2 < 52) :
    n < 2 ^ 53 :=
  Nat.lt_of_lt_of_le Nat.lt_log2_self
    (Nat.pow_le_pow_right (by decide) (by omega))

/-- A number beyond 53 bits has that many. -/
theorem le_log2_of_le
    (enough : 2 ^ 53 ≤ n) :
    53 ≤ n.log2 := by
  have nonzero : n ≠ 0 := by
    rintro rfl
    simp at enough
  exact (Nat.le_log2 nonzero).2 enough

/-- A number of at most 53 bits has none to lose. -/
theorem surplus_eq_zero
    (few : n < 2 ^ 53) :
    surplus n = 0 := by
  unfold surplus
  by_cases isZero : n = 0
  · simp [isZero]
  · have small : n.log2 < 53 := (Nat.log2_lt isZero).2 few
    omega

/-- A number whose surplus bits are zeros is not rounded. -/
theorem nearest_of_dvd
    (divides : 2 ^ surplus n ∣ n) :
    nearest n = n := by
  rw [nearest, roundedQuotient_of_dvd (Nat.two_pow_pos _) divides,
    Nat.div_mul_cancel divides]

/-- A number of at most 53 bits is not rounded. -/
theorem nearest_of_lt
    (few : n < 2 ^ 53) :
    nearest n = n := by
  refine nearest_of_dvd ?_
  rw [surplus_eq_zero few]
  exact Nat.one_dvd n

/-- The bits that are kept of a number with enough bits are 53. -/
theorem significand_mem
    (many : 52 ≤ n.log2) :
    2 ^ 52 ≤ n / 2 ^ surplus n ∧ n / 2 ^ surplus n < 2 ^ 53 := by
  have nonzero : n ≠ 0 := by
    rintro rfl
    simp at many
  have lower : 2 ^ 52 * 2 ^ surplus n ≤ n := by
    rw [← Nat.pow_add, surplus, Nat.add_sub_cancel' many]
    exact Nat.log2_self_le nonzero
  have upper : n < 2 ^ 53 * 2 ^ surplus n := by
    have exponent : 53 + surplus n = n.log2 + 1 := by
      unfold surplus
      omega
    rw [← Nat.pow_add, exponent]
    exact Nat.lt_log2_self
  exact
    ⟨(Nat.le_div_iff_mul_le (Nat.two_pow_pos _)).2 lower,
      (Nat.div_lt_iff_lt_mul (Nat.two_pow_pos _)).2 upper⟩

/-- Rounding leaves a significand of 53 bits, or the power of two above them. -/
theorem roundedSignificand_mem
    (many : 52 ≤ n.log2) :
    2 ^ 52 ≤ roundedQuotient n (2 ^ surplus n) ∧
      roundedQuotient n (2 ^ surplus n) ≤ 2 ^ 53 := by
  have kept := significand_mem many
  have rounded := roundedQuotient_mem n (2 ^ surplus n)
  omega

/-- The significand after rounding, whatever the number of bits. -/
theorem roundedSignificand_le
    (n : Nat) :
    roundedQuotient n (2 ^ surplus n) ≤ 2 ^ 53 := by
  rcases Nat.lt_or_ge n.log2 52 with few | many
  · have small : n < 2 ^ 53 := lt_of_log2_lt few
    rw [surplus_eq_zero small, Nat.pow_zero,
      roundedQuotient_of_dvd Nat.one_pos (Nat.one_dvd n), Nat.div_one]
    exact Nat.le_of_lt small
  · exact (roundedSignificand_mem many).2

/-- A factor that is a power of two adds its exponent to the number of bits. -/
theorem log2_mul_two_pow
    (nonzero : n ≠ 0)
    (shift : Nat) :
    (n * 2 ^ shift).log2 = n.log2 + shift := by
  have product : n * 2 ^ shift ≠ 0 :=
    Nat.mul_ne_zero nonzero (Nat.two_pow_pos shift).ne'
  rw [Nat.log2_eq_iff product]
  constructor
  · rw [Nat.pow_add]
    exact Nat.mul_le_mul_right _ (Nat.log2_self_le nonzero)
  · rw [Nat.add_right_comm, Nat.pow_add]
    exact
      Nat.mul_lt_mul_of_pos_right Nat.lt_log2_self (Nat.two_pow_pos shift)

/-- A factor that is a power of two comes out of the rounding as it went in. -/
theorem nearest_mul_two_pow
    (n shift : Nat) :
    nearest (n * 2 ^ shift) = nearest n * 2 ^ shift := by
  by_cases isZero : n = 0
  · simp [isZero, nearest_of_lt]
  · have bits := log2_mul_two_pow isZero shift
    rcases Nat.lt_or_ge n.log2 52 with few | many
    · have small : n < 2 ^ 53 := lt_of_log2_lt few
      -- The surplus bits of the product are among the zeros that the factor adds.
      have within : surplus (n * 2 ^ shift) ≤ shift := by
        unfold surplus
        omega
      rw [nearest_of_lt small,
        nearest_of_dvd
          (Nat.dvd_trans (Nat.pow_dvd_pow 2 within) (Nat.dvd_mul_left _ n))]
    · have shifted : surplus (n * 2 ^ shift) = surplus n + shift := by
        unfold surplus
        omega
      rw [nearest, shifted, Nat.pow_add,
        roundedQuotient_mul_right (Nat.two_pow_pos shift), ← Nat.mul_assoc,
        nearest]

/-- The number of bits that lie behind the point of a double. -/
def unitBits : Nat :=
  1074

/-- One is a power of two in least units. -/
theorem unitsPerOne_eq :
    unitsPerOne = 2 ^ unitBits :=
  rfl

/-- One has some least units. -/
theorem unitsPerOne_pos :
    0 < unitsPerOne := by
  rw [unitsPerOne_eq]
  exact Nat.two_pow_pos unitBits

/-- It does not matter whether ones or least units are rounded. -/
theorem nearest_mul_unitsPerOne
    (n : Nat) :
    nearest (n * unitsPerOne) = nearest n * unitsPerOne := by
  rw [unitsPerOne_eq, nearest_mul_two_pow]

/-- A significand that fits is not rounded, nor is the power of two above. -/
theorem nearest_of_significand
    {significand : Nat}
    (fits : significand ≤ 2 ^ 53)
    (shift : Nat) :
    nearest (significand * 2 ^ shift) = significand * 2 ^ shift := by
  rw [nearest_mul_two_pow]
  rcases Nat.lt_or_eq_of_le fits with few | rfl
  · rw [nearest_of_lt few]
  · rw [← Nat.one_mul (2 ^ 53), nearest_mul_two_pow,
      nearest_of_lt (by decide)]

/-- A number is rounded to no less than the power of two below it. -/
theorem two_pow_log2_le_nearest
    (nonzero : n ≠ 0) :
    2 ^ n.log2 ≤ nearest n := by
  rcases Nat.lt_or_ge n.log2 52 with few | many
  · have small : n < 2 ^ 53 := lt_of_log2_lt few
    rw [nearest_of_lt small]
    exact Nat.log2_self_le nonzero
  · calc
      2 ^ n.log2 = 2 ^ 52 * 2 ^ surplus n := by
        rw [← Nat.pow_add, surplus, Nat.add_sub_cancel' many]
      _ ≤ nearest n := Nat.mul_le_mul_right _ (roundedSignificand_mem many).1

/-- A number is rounded to no more than the power of two above it. -/
theorem nearest_le_two_pow
    {bits : Nat}
    (within : n ≤ 2 ^ bits) :
    nearest n ≤ 2 ^ bits := by
  rcases Nat.lt_or_eq_of_le within with below | rfl
  case inr =>
    rw [← Nat.one_mul (2 ^ bits), nearest_mul_two_pow,
      nearest_of_lt (by decide)]
  case inl =>
    rcases Nat.lt_or_ge n (2 ^ 53) with few | enough
    · rw [nearest_of_lt few]
      exact within
    · have many : 53 ≤ n.log2 := le_log2_of_le enough
      have nonzero : n ≠ 0 := by
        rintro rfl
        simp at many
      have fewer : n.log2 < bits := (Nat.log2_lt nonzero).2 below
      calc
        nearest n ≤ 2 ^ 53 * 2 ^ surplus n :=
          Nat.mul_le_mul_right _ (roundedSignificand_le n)
        _ = 2 ^ (53 + surplus n) := (Nat.pow_add 2 53 _).symm
        _ ≤ 2 ^ bits :=
          Nat.pow_le_pow_right (by decide) (by unfold surplus; omega)

/-- A number beyond 53 bits is rounded to an even one. -/
theorem two_dvd_nearest
    (many : 2 ^ 53 ≤ n) :
    2 ∣ nearest n := by
  have bits : 53 ≤ n.log2 := le_log2_of_le many
  have lost : 1 ≤ surplus n := by
    unfold surplus
    omega
  exact
    Nat.dvd_trans (Nat.pow_dvd_pow 2 lost) (Nat.dvd_mul_left _ _)

/-- The bit pattern of the double that is nearest to a number of units. -/
def patternOfUnits
    (units : Nat) :
    Nat :=
  surplus units * 2 ^ 52 + roundedQuotient units (2 ^ surplus units)

/-- The pattern of a whole number is that of its units. -/
theorem roundedPattern_one
    (n : Nat) :
    roundedPattern n 1 = patternOfUnits (n * unitsPerOne) := by
  simp only [roundedPattern, patternOfUnits, surplus, Nat.div_one,
    Nat.one_mul, Nat.pow_eq]

/-- A pattern of at most 53 bits is a significand without a shift. -/
theorem ofPattern_of_lt
    {bits : Nat}
    (few : bits < 2 ^ 53) :
    Magnitude.ofPattern bits = ⟨bits, 0⟩ :=
  if_pos few

/-- An exponent in a pattern stands for the leading bit of the significand. -/
theorem ofPattern_of_exponent
    {exponent fraction : Nat}
    (positive : 0 < exponent)
    (fits : fraction < 2 ^ 52) :
    Magnitude.ofPattern (exponent * 2 ^ 52 + fraction) =
      ⟨2 ^ 52 + fraction, exponent - 1⟩ := by
  unfold Magnitude.ofPattern
  simp only [Nat.pow_eq]
  split
  case isTrue =>
    have least : exponent = 1 := by omega
    rw [least, Nat.one_mul]
  case isFalse =>
    have high : (exponent * 2 ^ 52 + fraction) / 2 ^ 52 = exponent := by omega
    have low : (exponent * 2 ^ 52 + fraction) % 2 ^ 52 = fraction := by omega
    rw [high, low]

/-- A significand of 53 bits and a shift are read back from their pattern. -/
theorem units_of_significand
    {significand : Nat}
    (normal : 2 ^ 52 ≤ significand)
    (fits : significand < 2 ^ 53)
    (shift : Nat) :
    (Magnitude.ofPattern (shift * 2 ^ 52 + significand)).units =
      significand * 2 ^ shift := by
  obtain ⟨fraction, rfl⟩ := Nat.exists_eq_add_of_le normal
  have exponent :
      shift * 2 ^ 52 + (2 ^ 52 + fraction) =
        (shift + 1) * 2 ^ 52 + fraction := by
    ring
  rw [exponent, ofPattern_of_exponent shift.succ_pos (by omega)]
  rfl

/-- A number of units with at most 53 bits is its own pattern. -/
theorem patternOfUnits_of_lt
    {units : Nat}
    (few : units < 2 ^ 53) :
    patternOfUnits units = units := by
  rw [patternOfUnits, surplus_eq_zero few, Nat.pow_zero,
    roundedQuotient_of_dvd Nat.one_pos (Nat.one_dvd units), Nat.div_one,
    Nat.zero_mul, Nat.zero_add]

/-- The pattern of a number of units is that of the nearest number. -/
theorem units_patternOfUnits
    (units : Nat) :
    (Magnitude.ofPattern (patternOfUnits units)).units = nearest units := by
  rcases Nat.lt_or_ge units (2 ^ 53) with few | enough
  · rw [patternOfUnits_of_lt few, ofPattern_of_lt few, nearest_of_lt few]
    exact Nat.mul_one units
  · obtain ⟨normal, fits⟩ :=
      roundedSignificand_mem (Nat.le_of_succ_le (le_log2_of_le enough))
    rw [patternOfUnits, nearest]
    generalize roundedQuotient units (2 ^ surplus units) = significand
      at normal fits
    generalize surplus units = shift
    rcases Nat.lt_or_eq_of_le fits with below | rfl
    · exact units_of_significand normal below shift
    · -- The carry makes the least significand of the next shift.
      have carried : shift * 2 ^ 52 + 2 ^ 53 = (shift + 1) * 2 ^ 52 + 2 ^ 52 := by
        ring
      rw [carried, units_of_significand (by decide) (by decide)]
      ring

/-- The patterns of finite doubles belong to the significands and shifts of such. -/
theorem shiftedPattern_lt_iff
    {significand : Nat}
    (normal : 2 ^ 52 ≤ significand)
    (fits : significand ≤ 2 ^ 53)
    (shift : Nat) :
    shift * 2 ^ 52 + significand < infinityPattern ↔
      significand * 2 ^ shift < 2 ^ largestBits := by
  have limit : infinityPattern = 2047 * 2 ^ 52 := rfl
  rw [limit]
  constructor
  · intro below
    rcases (by omega :
        shift ≤ 2045 ∧ significand < 2 ^ 53 ∨ shift ≤ 2044) with
      ⟨within, few⟩ | within
    · calc
        significand * 2 ^ shift < 2 ^ 53 * 2 ^ shift :=
          Nat.mul_lt_mul_of_pos_right few (Nat.two_pow_pos shift)
        _ = 2 ^ (53 + shift) := (Nat.pow_add 2 53 shift).symm
        _ ≤ 2 ^ largestBits :=
          Nat.pow_le_pow_right (by decide) (Nat.add_le_add_left within 53)
    · calc
        significand * 2 ^ shift ≤ 2 ^ 53 * 2 ^ shift :=
          Nat.mul_le_mul_right _ fits
        _ = 2 ^ (53 + shift) := (Nat.pow_add 2 53 shift).symm
        _ < 2 ^ largestBits :=
          Nat.pow_lt_pow_right (by decide)
            (Nat.add_lt_add_left (Nat.lt_succ_of_le within) 53)
  · intro few
    by_contra notBelow
    have beyond : 2 ^ largestBits ≤ significand * 2 ^ shift := by
      rcases (by omega :
          2045 ≤ shift ∧ 2 ^ 53 ≤ significand ∨ 2046 ≤ shift) with
        ⟨enough, carried⟩ | enough
      · calc
          2 ^ largestBits ≤ 2 ^ (53 + shift) :=
            Nat.pow_le_pow_right (by decide) (Nat.add_le_add_left enough 53)
          _ = 2 ^ 53 * 2 ^ shift := Nat.pow_add 2 53 shift
          _ ≤ significand * 2 ^ shift := Nat.mul_le_mul_right _ carried
      · calc
          2 ^ largestBits ≤ 2 ^ (52 + shift) :=
            Nat.pow_le_pow_right (by decide) (Nat.add_le_add_left enough 52)
          _ = 2 ^ 52 * 2 ^ shift := Nat.pow_add 2 52 shift
          _ ≤ significand * 2 ^ shift := Nat.mul_le_mul_right _ normal
    exact Nat.not_lt.2 beyond few

/-- A pattern is that of a finite double exactly if its units are few enough. -/
theorem patternOfUnits_lt_iff
    (units : Nat) :
    patternOfUnits units < infinityPattern ↔
      nearest units < 2 ^ largestBits := by
  rcases Nat.lt_or_ge units (2 ^ 53) with few | enough
  · have small : 2 ^ 53 ≤ infinityPattern := by decide
    have grows : 2 ^ 53 ≤ 2 ^ largestBits :=
      Nat.pow_le_pow_right (by decide) (by decide)
    rw [patternOfUnits_of_lt few, nearest_of_lt few]
    exact
      iff_of_true (Nat.lt_of_lt_of_le few small)
        (Nat.lt_of_lt_of_le few grows)
  · obtain ⟨normal, fits⟩ :=
      roundedSignificand_mem (Nat.le_of_succ_le (le_log2_of_le enough))
    exact shiftedPattern_lt_iff normal fits (surplus units)

end Reckoner.Binary64
