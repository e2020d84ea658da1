import Reckoner.Proofs.Number.Integer

namespace Reckoner

/-!
# Powers of integers

A natural power of an integer is computed exactly while the bits of the base times the
exponent stay within the limit. This estimate is an upper bound for the bits of the power,
so an exact power never exceeds the limit. Where the estimate does exceed it, the power
still has more than half as many bits. No double is so large: the computation in doubles
then ends in a failure, never in an approximation.
-/

namespace Binary64

/-- The double one has the units of one. -/
theorem units_one :
    units 1.0 = unitsPerOne := by
  have bits : pattern 1.0 = 1022 * 2 ^ 52 + 2 ^ 52 := rfl
  have unit : unitBits = 52 + 1022 := rfl
  rw [units, bits, units_of_significand (Nat.le_refl _) (by decide),
    unitsPerOne_eq, unit, Nat.pow_add]

/-- A finite double is neither infinite nor without a value. -/
theorem neither_of_isFinite
    {x : Float}
    (finite : isFinite x = true) :
    isNaN x = false ∧ isInfinite x = false := by
  simp only [isFinite, isNaN, isInfinite, decide_eq_true_eq,
    decide_eq_false_iff_not] at *
  omega

end Binary64

namespace Arithmetic

open Binary64

/-- The powers that need no computation are powers too. -/
theorem integerPower_eq
    (base : Int)
    (exponent : Nat) :
    integerPower base exponent = base ^ exponent := by
  unfold integerPower
  split
  case isTrue isZero => rw [isZero, Int.pow_zero]
  case isFalse nonzero =>
    split
    case isTrue small =>
      obtain rfl | rfl | rfl : base = 0 ∨ base = 1 ∨ base = -1 := by omega
      · rw [Int.zero_pow nonzero]
        split
        · rfl
        · rfl
      · rw [Int.one_pow]
        split
        · rfl
        · rfl
      · split
        case isTrue even => exact (Even.neg_one_pow (Nat.even_iff.2 even)).symm
        case isFalse odd =>
          exact
            (Odd.neg_one_pow (Nat.odd_iff.2 (Nat.mod_two_ne_zero.1 odd))).symm
    case isFalse => rfl

section BitLength

variable {n : Int}

/-- An integer has no more bits than a power of two above it allows. -/
theorem bitLength_le_iff
    (bits : Nat) :
    bitLength n ≤ bits ↔ n.natAbs < 2 ^ bits := by
  unfold bitLength
  split
  case isTrue isZero =>
    rw [isZero]
    exact iff_of_true (Nat.zero_le bits) (Nat.two_pow_pos bits)
  case isFalse nonzero =>
    rw [← Nat.log2_lt (Int.natAbs_ne_zero.2 nonzero)]
    exact Nat.succ_le_iff

/-- A power has no more bits than its base as often as the exponent says. -/
theorem bitLength_pow_le
    {exponent : Nat}
    (nonzero : exponent ≠ 0) :
    bitLength (n ^ exponent) ≤ bitLength n * exponent := by
  rw [bitLength_le_iff, Int.natAbs_pow, Nat.pow_mul]
  exact Nat.pow_lt_pow_left (natAbs_lt_two_pow_bitLength n) nonzero

/-- A power has at least the bits of its base but one, as often as the exponent says. -/
theorem two_pow_le_natAbs_pow
    (nonzero : n ≠ 0)
    (exponent : Nat) :
    2 ^ (n.natAbs.log2 * exponent) ≤ (n ^ exponent).natAbs := by
  rw [Int.natAbs_pow, Nat.pow_mul]
  exact
    Nat.pow_le_pow_left (Nat.log2_self_le (Int.natAbs_ne_zero.2 nonzero))
      exponent

end BitLength

section Beyond

variable {base : Int} {exponent : Nat}

/-- Half of the estimated bits are below the size of the power. -/
theorem half_lt_log2_mul
    (large : 1 < base.natAbs)
    (beyond : bitLimit < bitLength base * exponent) :
    bitLimit < 2 * (base.natAbs.log2 * exponent) := by
  have nonzero : base ≠ 0 := by omega
  have leading : 1 ≤ base.natAbs.log2 :=
    (Nat.le_log2 (Int.natAbs_ne_zero.2 nonzero)).2 large
  calc
    bitLimit < (base.natAbs.log2 + 1) * exponent := by
      rwa [bitLength, if_neg nonzero] at beyond
    _ ≤ (2 * base.natAbs.log2) * exponent :=
      Nat.mul_le_mul_right exponent (by omega)
    _ = 2 * (base.natAbs.log2 * exponent) := Nat.mul_assoc _ _ _

/-- A power that is estimated to exceed the limit has more than half of its bits. -/
theorem two_pow_le_natAbs_pow_of_beyond
    (large : 1 < base.natAbs)
    (beyond : bitLimit < bitLength base * exponent) :
    2 ^ (bitLimit / 2 + 1) ≤ (base ^ exponent).natAbs := by
  have half := half_lt_log2_mul large beyond
  calc
    2 ^ (bitLimit / 2 + 1) ≤ 2 ^ (base.natAbs.log2 * exponent) :=
      Nat.pow_le_pow_right (by decide) (by omega)
    _ ≤ (base ^ exponent).natAbs := two_pow_le_natAbs_pow (by omega) exponent

/-- A power that is estimated to exceed the limit is recognised from its doubles. -/
theorem le_log2_mul_two_pow
    (large : 1 < base.natAbs)
    (beyond : bitLimit < bitLength base * exponent) :
    1024 ≤ base.natAbs.log2 * 2 ^ exponent.log2 := by
  have half := half_lt_log2_mul large beyond
  have below : exponent < 2 * 2 ^ exponent.log2 := by
    rw [← Nat.pow_succ']
    exact Nat.lt_log2_self
  have product :
      base.natAbs.log2 * exponent ≤ 2 * (base.natAbs.log2 * 2 ^ exponent.log2) := by
    rw [Nat.mul_left_comm]
    exact Nat.mul_le_mul_left _ (Nat.le_of_lt below)
  have limit : bitLimit = 12000 := rfl
  omega

end Beyond

section InFloats

variable {base : Int} {exponent : Nat} {x y : Float}

/-- Taking the size of a finite double keeps its pattern, and so its units. -/
theorem pattern_size
    (finite : isFinite x = true) :
    pattern (ofPattern false (pattern x)) = pattern x := by
  have below : pattern x < infinityPattern := of_decide_eq_true finite
  exact (bits_ofPattern false (Nat.le_of_lt below)).2

/-- The size of the double of an integer beyond one is not one. -/
theorem size_beq_one
    (large : 1 < base.natAbs)
    (converted : ofInt? base = some x) :
    (ofPattern false (pattern x) == 1.0) = false := by
  have leading := two_pow_log2_le_units (by omega) converted
  have twice : 2 ≤ 2 ^ base.natAbs.log2 :=
    Nat.le_self_pow
      (Nat.pos_iff_ne_zero.1 ((Nat.le_log2 (by omega)).2 large)) 2
  have beyondOne : unitsPerOne < units x :=
    calc
      unitsPerOne < 2 * unitsPerOne := by
        have positive := unitsPerOne_pos
        omega
      _ ≤ 2 ^ base.natAbs.log2 * unitsPerOne :=
        Nat.mul_le_mul_right unitsPerOne twice
      _ ≤ units x := leading
  rw [Bool.eq_false_iff]
  intro same
  obtain ⟨-, -, isOne | ⟨-, isZero⟩ | ⟨-, isZero⟩⟩ :=
    Float.beq_iff_ne_nan_and_eq.1 same
  · have sameUnits : units x = unitsPerOne := by
      rw [← units_one, ← isOne, units, units,
        pattern_size (hasValue_of_ofInt? converted).finite]
    exact absurd sameUnits beyondOne.ne'
  · have samePattern : pattern 1.0 = pattern (-0) := congrArg pattern isZero
    exact absurd samePattern (by decide)
  · have samePattern : pattern 1.0 = pattern 0 := congrArg pattern isZero
    exact absurd samePattern (by decide)

/-- The power of two doubles of integers is recognised as too large. -/
theorem positivePower_eq_tooLarge
    (large : 1 < base.natAbs)
    (positive : 0 < exponent)
    (beyond : bitLimit < bitLength base * exponent)
    (baseConverted : ofInt? base = some x)
    (exponentConverted : ofInt? exponent = some y) :
    positivePower (ofPattern false (pattern x)) y =
      .error (.unplaced (.tooLarge "^")) := by
  have sizeUnits : units (ofPattern false (pattern x)) = units x := by
    rw [units, pattern_size (hasValue_of_ofInt? baseConverted).finite, units]
  have wholeBits : base.natAbs.log2 ≤ (units x / unitsPerOne).log2 := by
    have leading : 2 ^ base.natAbs.log2 ≤ units x / unitsPerOne :=
      (Nat.le_div_iff_mul_le unitsPerOne_pos).2
        (two_pow_log2_le_units (by omega) baseConverted)
    have nonzero : units x / unitsPerOne ≠ 0 :=
      (Nat.lt_of_lt_of_le (Nat.two_pow_pos _) leading).ne'
    exact (Nat.le_log2 nonzero).2 leading
  have wholeExponent :
      ((2 ^ exponent.log2 : Nat) : Int) ≤ Binary64.floor y := by
    rw [(hasValue_of_ofInt? exponentConverted).floor_eq, nearestSigned,
      Int.sign_natCast_of_ne_zero positive.ne', Int.one_mul,
      Int.natAbs_natCast]
    exact Int.ofNat_le.2 (two_pow_log2_le_nearest positive.ne')
  have enough :
      (1024 : Int) ≤ (units x / unitsPerOne).log2 * Binary64.floor y := by
    calc
      (1024 : Int)
        ≤ ((base.natAbs.log2 * 2 ^ exponent.log2 : Nat) : Int) :=
          Int.ofNat_le.2 (le_log2_mul_two_pow large beyond)
      _ = base.natAbs.log2 * ((2 ^ exponent.log2 : Nat) : Int) :=
          Int.natCast_mul _ _
      _ ≤ (units x / unitsPerOne).log2 * Binary64.floor y :=
          Int.mul_le_mul (Int.ofNat_le.2 wholeBits) wholeExponent
            (Int.natCast_nonneg _) (Int.natCast_nonneg _)
  unfold positivePower
  rw [sizeUnits]
  exact if_pos ⟨(hasValue_of_ofInt? exponentConverted).isWhole, enough⟩

/-- A power of integers that is estimated to exceed the limit is too large in doubles. -/
theorem floatPower_eq_tooLarge
    (large : 1 < base.natAbs)
    (positive : 0 < exponent)
    (beyond : bitLimit < bitLength base * exponent)
    (baseConverted : ofInt? base = some x)
    (exponentConverted : ofInt? exponent = some y) :
    floatPower x y = .error (.unplaced (.tooLarge "^")) := by
  have baseNonzero : base ≠ 0 := by omega
  obtain ⟨xNumber, xBounded⟩ :=
    neither_of_isFinite (hasValue_of_ofInt? baseConverted).finite
  obtain ⟨yNumber, yBounded⟩ :=
    neither_of_isFinite (hasValue_of_ofInt? exponentConverted).finite
  have xNonzero := pattern_ne_zero_of_ofInt? baseNonzero baseConverted
  have yNonzero :=
    pattern_ne_zero_of_ofInt? (Int.natCast_ne_zero.2 positive.ne')
      exponentConverted
  have yWhole := (hasValue_of_ofInt? exponentConverted).isWhole
  have notOne := size_beq_one large baseConverted
  have tooLarge :=
    positivePower_eq_tooLarge large positive beyond baseConverted
      exponentConverted
  -- Of all the cases of a power of doubles only the last one remains.
  unfold floatPower
  simp only [xNumber, yNumber, xBounded, yBounded, xNonzero, yNonzero, yWhole,
    notOne, tooLarge, Bool.false_eq_true, if_false, not_true_eq_false,
    and_false]
  rfl

/-- A power of integers that is estimated to exceed the limit is too large. -/
theorem powerInFloats_eq_tooLarge
    (large : 1 < base.natAbs)
    (positive : 0 < exponent)
    (beyond : bitLimit < bitLength base * exponent) :
    powerInFloats (.int base) (.int exponent) =
      .error (.unplaced (.tooLarge "^")) := by
  have operand :
      ∀ n : Int,
        operandFloat "^" (.int n) =
          (ofInt? n).elim (.error (.unplaced (.tooLarge "^"))) .ok := by
    intro n
    rw [operandFloat, Number.toFloat?]
    cases ofInt? n with
    | none => rfl
    | some x => rfl
  unfold powerInFloats
  rw [operand, operand]
  cases baseConverted : ofInt? base with
  | none => rfl
  | some x =>
      cases exponentConverted : ofInt? (exponent : Int) with
      | none => rfl
      | some y =>
          exact
            floatPower_eq_tooLarge large positive beyond baseConverted
              exponentConverted

end InFloats

/-- A natural power of an integer is exact, or too large. -/
theorem power_eq
    (base : Int)
    (exponent : Nat) :
    power (.int base) (.int exponent) =
      if 1 < base.natAbs ∧ bitLimit < bitLength base * exponent then
        .error (.unplaced (.tooLarge "^"))
      else
        .ok (.int (base ^ exponent)) := by
  have sameEstimate :
      (bitLimit : Int) < bitLength base * exponent ↔
        bitLimit < bitLength base * exponent := by
    rw [← Int.natCast_mul, Int.ofNat_lt]
  rw [power, if_neg (Int.not_lt.2 (Int.natCast_nonneg exponent)),
    Int.toNat_natCast, integerPower_eq]
  simp only [sameEstimate]
  split
  case isTrue guarded =>
    have positive : 0 < exponent := by
      rcases Nat.eq_zero_or_pos exponent with rfl | positive
      · exact absurd guarded.2 (by simp)
      · exact positive
    exact powerInFloats_eq_tooLarge guarded.1 positive guarded.2
  case isFalse => rfl

section Power

variable {base : Int} {exponent : Nat}

/-- A power whose estimate does not exceed the limit is within the limit. -/
theorem bitLength_pow_le_bitLimit
    (within : ¬(1 < base.natAbs ∧ bitLimit < bitLength base * exponent)) :
    bitLength (base ^ exponent) ≤ bitLimit := by
  rcases Nat.lt_or_ge 1 base.natAbs with large | small
  case inr =>
    rw [bitLength_le_iff, Int.natAbs_pow]
    calc
      base.natAbs ^ exponent ≤ 1 ^ exponent := Nat.pow_le_pow_left small exponent
      _ = 1 := Nat.one_pow exponent
      _ < 2 ^ bitLimit := Nat.one_lt_two_pow (by decide)
  case inl =>
    have few : bitLength base * exponent ≤ bitLimit :=
      Nat.not_lt.1 fun beyond => within ⟨large, beyond⟩
    by_cases isZero : exponent = 0
    · rw [isZero, Int.pow_zero]
      decide
    · exact Nat.le_trans (bitLength_pow_le isZero) few

/-- A power whose estimate exceeds the limit is beyond every finite double. -/
theorem units_lt_natAbs_pow
    (large : 1 < base.natAbs)
    (beyond : bitLimit < bitLength base * exponent)
    {x : Float}
    (finite : isFinite x = true) :
    units x < (base ^ exponent).natAbs * unitsPerOne :=
  calc
    units x < 2 ^ largestBits := units_lt finite
    _ = 2 ^ integerBits * unitsPerOne := two_pow_largestBits
    _ ≤ 2 ^ (bitLimit / 2 + 1) * unitsPerOne :=
      Nat.mul_le_mul_right _ (Nat.pow_le_pow_right (by decide) (by decide))
    _ ≤ (base ^ exponent).natAbs * unitsPerOne :=
      Nat.mul_le_mul_right _ (two_pow_le_natAbs_pow_of_beyond large beyond)

/--
A natural power of an integer is exact and within the limit, or it fails as too large.

It fails exactly where the estimate of its bits exceeds the limit, and then the power has
more than half as many bits and is beyond every finite double.
-/
theorem power_exact_or_tooLarge
    (base : Int)
    (exponent : Nat) :
    (power (.int base) (.int exponent) = .ok (.int (base ^ exponent)) ∧
        bitLength (base ^ exponent) ≤ bitLimit ∨
      ∃ cause,
        power (.int base) (.int exponent) = .error (.unplaced cause) ∧
          cause.kind = .mathDomain) ∧
      (power (.int base) (.int exponent) = .error (.unplaced (.tooLarge "^")) ↔
        1 < base.natAbs ∧ bitLimit < bitLength base * exponent) ∧
      (1 < base.natAbs ∧ bitLimit < bitLength base * exponent →
        2 ^ (bitLimit / 2) < (base ^ exponent).natAbs ∧
          ∀ x,
            isFinite x = true →
              units x < (base ^ exponent).natAbs * unitsPerOne) := by
  rw [power_eq]
  refine ⟨?result, ?fails, ?beyond⟩
  case result =>
    split
    case isTrue => exact .inr ⟨_, rfl, rfl⟩
    case isFalse within => exact .inl ⟨rfl, bitLength_pow_le_bitLimit within⟩
  case fails =>
    split
    case isTrue guarded => exact iff_of_true rfl guarded
    case isFalse within => exact iff_of_false nofun within
  case beyond =>
    rintro ⟨large, beyond⟩
    constructor
    · exact
        Nat.lt_of_lt_of_le (Nat.pow_lt_pow_right (by decide) (by decide))
          (two_pow_le_natAbs_pow_of_beyond large beyond)
    · intro x finite
      exact units_lt_natAbs_pow large beyond finite

/-- The power of three to 7000 fails, and it is beyond the limit by its estimate. -/
theorem power_exact_or_tooLarge_three :
    (1 < (3 : Int).natAbs ∧ bitLimit < bitLength 3 * 7000) ∧
      power (.int 3) (.int 7000) = .error (.unplaced (.tooLarge "^")) ∧
      2 ^ (bitLimit / 2) < ((3 : Int) ^ 7000).natAbs := by
  have guarded : 1 < (3 : Int).natAbs ∧ bitLimit < bitLength 3 * 7000 := by
    decide
  obtain ⟨_, fails, beyond⟩ := power_exact_or_tooLarge 3 7000
  exact ⟨guarded, fails.2 guarded, (beyond guarded).1⟩

/--
A natural power of an integer is exact as long as the estimate of its bits allows.

The estimate is too large for some powers within the limit, but never for those of at
most half as many bits and one more; powers beyond the limit always fail.
-/
theorem power_exact_iff
    (base : Int)
    (exponent : Nat) :
    (power (.int base) (.int exponent) = .ok (.int (base ^ exponent)) ↔
        base.natAbs ≤ 1 ∨ bitLength base * exponent ≤ bitLimit) ∧
      (bitLength (base ^ exponent) ≤ bitLimit / 2 + 1 →
        power (.int base) (.int exponent) = .ok (.int (base ^ exponent))) ∧
      (bitLimit < bitLength (base ^ exponent) →
        power (.int base) (.int exponent) =
          .error (.unplaced (.tooLarge "^"))) := by
  rw [power_eq]
  refine ⟨?exactly, fun few => ?few, fun many => ?many⟩
  case exactly =>
    split
    case isTrue guarded => exact iff_of_false (by simp) (by omega)
    case isFalse within => exact iff_of_true rfl (by omega)
  case few =>
    refine if_neg fun guarded => ?_
    have size := two_pow_le_natAbs_pow_of_beyond guarded.1 guarded.2
    exact Nat.not_le.2 ((bitLength_le_iff _).1 few) size
  case many =>
    refine if_pos ?_
    by_contra within
    exact Nat.not_le.2 many (bitLength_pow_le_bitLimit within)

/-- A power of two has one bit more than its exponent. -/
theorem bitLength_two_pow
    (exponent : Nat) :
    bitLength (2 ^ exponent) = exponent + 1 := by
  have nonzero : (2 : Int) ^ exponent ≠ 0 :=
    Int.ne_of_gt (Int.pow_pos (by decide))
  rw [bitLength, if_neg nonzero, Int.natAbs_pow]
  exact congrArg (· + 1) (Nat.log2_two_pow)

/-- The largest power of two that is exact has half the bits of the limit and one. -/
theorem power_exact_iff_two :
    bitLength (2 ^ 6000) ≤ bitLimit / 2 + 1 ∧
      power (.int 2) (.int 6000) = .ok (.int (2 ^ 6000)) := by
  have few : bitLength (2 ^ 6000) ≤ bitLimit / 2 + 1 :=
    Nat.le_of_eq (bitLength_two_pow 6000)
  exact ⟨few, (power_exact_iff 2 6000).2.1 few⟩

/-- The next power of two is within the limit but fails as too large. -/
theorem power_two_tooLarge :
    bitLength (2 ^ 6001) ≤ bitLimit ∧
      power (.int 2) (.int 6001) = .error (.unplaced (.tooLarge "^")) := by
  have guarded :
      1 < (2 : Int).natAbs ∧ bitLimit < bitLength 2 * 6001 := by
    decide
  constructor
  · rw [bitLength_two_pow]
    decide
  · exact (power_eq 2 6001).trans (if_pos guarded)

end Power

end Arithmetic

end Reckoner
