import Reckoner.Proofs.Number.Bits

namespace Reckoner.Binary64

/-!
# Sums of doubles

The sum of two finite doubles is the double nearest to the sum of their units. The core
library adds on a common exponent and rounds by shifting bits out one by one; two more
bits remember what was lost. `IsQuotient` says what these bits know about the quotient
that the shifts compute, so that the rounding there is `roundedQuotient`.

`IsNearest` is the result that later proofs use: it names the double that is nearest to a
number of units, whether or not it is finite.
-/

open Float.Model (Format UnpackedFloat totalExponent)
open Float.Model.UnpackedFloat

/-- A significand with the bits that were shifted out of it stands for a quotient. -/
structure IsQuotient
    (shifted : ExtendedMantissa)
    (numerator denominator : Nat) :
    Prop where
  mantissa : shifted.mantissa = numerator / denominator
  roundBit :
    shifted.roundBit = true ↔ denominator ≤ 2 * (numerator % denominator)
  stickyBit :
    shifted.stickyBit = true ↔
      2 * (numerator % denominator) ≠ 0 ∧
        2 * (numerator % denominator) ≠ denominator

/-- A significand that lost no bits stands for itself. -/
theorem IsQuotient.exact
    (significand : Nat) :
    IsQuotient (.ofMantissaAndAccuracy significand .exact) significand 1 := by
  constructor
  case mantissa => exact (Nat.div_one significand).symm
  case roundBit =>
    simp [ExtendedMantissa.ofMantissaAndAccuracy, Nat.mod_one]
  case stickyBit =>
    simp [ExtendedMantissa.ofMantissaAndAccuracy, Nat.mod_one]

/-- One bit shifted out doubles the denominator. -/
theorem IsQuotient.shiftRightOne
    {shifted : ExtendedMantissa}
    {numerator denominator : Nat}
    (isQuotient : IsQuotient shifted numerator denominator)
    (positive : 0 < denominator) :
    IsQuotient shifted.shiftRightOne numerator (denominator * 2) := by
  have below : numerator % denominator < denominator :=
    Nat.mod_lt numerator positive
  have remainder :
      numerator % (denominator * 2) =
        numerator % denominator +
          denominator * (numerator / denominator % 2) :=
    Nat.mod_mul
  have lastBit := Nat.mod_two_eq_zero_or_one (numerator / denominator)
  have roundBit := isQuotient.roundBit
  have stickyBit := isQuotient.stickyBit
  constructor
  case mantissa =>
    rw [← Nat.div_div_eq_div_mul, ← isQuotient.mantissa]
    rfl
  case roundBit =>
    change (shifted.mantissa % 2 != 0) = true ↔ _
    rw [isQuotient.mantissa, remainder, bne_iff_ne]
    rcases lastBit with even | odd
    · rw [even]
      omega
    · rw [odd]
      omega
  case stickyBit =>
    change (shifted.roundBit || shifted.stickyBit) = true ↔ _
    rw [Bool.or_eq_true, roundBit, stickyBit, remainder]
    rcases lastBit with even | odd
    · rw [even]
      omega
    · rw [odd]
      omega

/-- Bits shifted out multiply the denominator by a power of two. -/
theorem IsQuotient.shiftRight
    (significand count : Nat) :
    IsQuotient (ExtendedMantissa.ofMantissaAndAccuracy significand .exact >>> count)
      significand (2 ^ count) := by
  change
    IsQuotient (count.repeat ExtendedMantissa.shiftRightOne _) significand _
  induction count with
  | zero => exact .exact significand
  | succ count inductionHypothesis =>
      exact inductionHypothesis.shiftRightOne (Nat.two_pow_pos count)

/-- The bits that were shifted out suffice to round the quotient. -/
theorem IsQuotient.roundedMantissa
    {shifted : ExtendedMantissa}
    {numerator denominator : Nat}
    (isQuotient : IsQuotient shifted numerator denominator)
    (positive : 0 < denominator) :
    shifted.roundedMantissa = roundedQuotient numerator denominator := by
  obtain ⟨mantissa, roundBit, stickyBit⟩ := isQuotient
  rcases shifted with ⟨_, round, sticky⟩
  dsimp only at mantissa roundBit stickyBit
  subst mantissa
  unfold roundedQuotient
  dsimp only
  generalize numerator % denominator = remainder at roundBit stickyBit
  cases round with
  | false =>
      have few : 2 * remainder < denominator := by
        simpa using roundBit
      rw [if_pos few]
      cases sticky with
      | false => rfl
      | true => rfl
  | true =>
      have many : denominator ≤ 2 * remainder := roundBit.1 rfl
      rw [if_neg (Nat.not_lt.2 many)]
      cases sticky with
      | false =>
          have half : 2 * remainder = denominator := by
            have isTie := stickyBit.not.1 (by simp)
            omega
          rw [if_neg (Nat.not_lt.2 (Nat.le_of_eq half))]
          rfl
      | true =>
          have more : denominator < 2 * remainder :=
            Nat.lt_of_le_of_ne many (stickyBit.1 rfl).2.symm
          rw [if_pos more]
          rfl

section Rounding

variable {significand : Nat}

/-- The exponent that a value is rounded to keeps 53 bits of its units. -/
theorem targetExponent_eq
    (nonzero : significand ≠ 0)
    (shift : Nat) :
    Format.binary64.targetExponent
        (totalExponent significand ((shift : Int) - 1074)) =
      (surplus (significand * 2 ^ shift) : Int) - 1074 := by
  have bits := log2_mul_two_pow nonzero shift
  change
    max ((significand.log2 : Int) + 1 + (shift - 1074) - 53) (3 - 1024 - 53) =
      _
  unfold surplus
  omega

/-- A value is shifted to the exponent that it is rounded to, or left as it is. -/
theorem shiftToTargetExponent_eq
    (nonzero : significand ≠ 0)
    {shift kept : Nat}
    (isKept : surplus (significand * 2 ^ shift) = kept) :
    shiftToTargetExponent .binary64 significand ((shift : Int) - 1074) .exact =
      (ExtendedMantissa.ofMantissaAndAccuracy significand .exact >>>
          (kept - shift),
        ((max shift kept : Nat) : Int) - 1074) := by
  have amount :
      (((kept : Int) - 1074) - ((shift : Int) - 1074)).toNat = kept - shift := by
    omega
  unfold shiftToTargetExponent shiftToExponent
  rw [targetExponent_eq nonzero, isKept]
  dsimp only
  rw [amount]
  congr 1
  omega

/-- A rounded significand is kept; one bit too many is carried to the exponent. -/
theorem shiftToTargetExponent_rounded
    {shift : Nat}
    (positive : 0 < significand)
    (fits : significand ≤ 2 ^ 53)
    (normal : 2 ^ 52 ≤ significand ∨ shift = 0) :
    ∃ kept carried,
      (shiftToTargetExponent .binary64 significand ((shift : Int) - 1074)
          .exact).1.mantissa = kept ∧
        (shiftToTargetExponent .binary64 significand ((shift : Int) - 1074)
          .exact).2 = ((carried : Nat) : Int) - 1074 ∧
        0 < kept ∧ kept < 2 ^ 53 ∧ (2 ^ 52 ≤ kept ∨ carried = 0) ∧
        carried * 2 ^ 52 + kept = shift * 2 ^ 52 + significand := by
  have bits := log2_mul_two_pow positive.ne' shift
  rcases Nat.lt_or_eq_of_le fits with few | rfl
  case inl =>
    have within : surplus (significand * 2 ^ shift) ≤ shift := by
      have fewBits : significand.log2 < 53 :=
        (Nat.log2_lt positive.ne').2 few
      unfold surplus
      omega
    refine ⟨significand, shift, ?_⟩
    rw [shiftToTargetExponent_eq positive.ne' rfl, Nat.max_eq_left within,
      Nat.sub_eq_zero_of_le within]
    exact ⟨rfl, rfl, positive, few, normal, rfl⟩
  case inr =>
    have kept : surplus (2 ^ 53 * 2 ^ shift) = shift + 1 := by
      rw [surplus, bits, Nat.log2_two_pow]
      omega
    refine ⟨2 ^ 52, shift + 1, ?_⟩
    rw [shiftToTargetExponent_eq positive.ne' kept,
      Nat.max_eq_right (Nat.le_succ shift), Nat.add_sub_cancel_left,
      (IsQuotient.shiftRight (2 ^ 53) 1).mantissa]
    refine ⟨rfl, rfl, by decide, by decide, .inl (Nat.le_refl _), ?_⟩
    ring

/-- The bits that are shifted out on the way to a target exponent leave 53 or fewer. -/
theorem roundedSignificand_of_target
    {exponent : Int}
    {kept count : Nat}
    (target :
      Format.binary64.targetExponent (totalExponent significand exponent) =
        (kept : Int) - 1074)
    (counted : exponent + count = (kept : Int) - 1074) :
    roundedQuotient significand (2 ^ count) ≤ 2 ^ 53 ∧
      (2 ^ 52 ≤ roundedQuotient significand (2 ^ count) ∨ kept = 0) := by
  change
    max ((significand.log2 : Int) + 1 + exponent - 53) (3 - 1024 - 53) =
      _ at target
  rcases (by omega :
      significand.log2 = count + 52 ∨ significand.log2 < count + 52 ∧ kept = 0) with
    full | ⟨few, isLeast⟩
  case inl =>
    have lost : surplus significand = count := by
      unfold surplus
      omega
    have many : 52 ≤ significand.log2 := by omega
    have kept := roundedSignificand_mem many
    rw [lost] at kept
    exact ⟨kept.2, .inl kept.1⟩
  case inr =>
    have below : significand < 2 ^ 52 * 2 ^ count := by
      rw [← Nat.pow_add]
      exact
        Nat.lt_of_lt_of_le Nat.lt_log2_self
          (Nat.pow_le_pow_right (by decide) (by omega))
    have quotient : significand / 2 ^ count < 2 ^ 52 :=
      (Nat.div_lt_iff_lt_mul (Nat.two_pow_pos count)).2 below
    have rounded := (roundedQuotient_mem significand (2 ^ count)).2
    exact ⟨by omega, .inr isLeast⟩

/-- The first shift takes a value to its target exponent. -/
theorem shiftToTargetExponent_of_target
    {exponent : Int}
    {kept count : Nat}
    (target :
      Format.binary64.targetExponent (totalExponent significand exponent) =
        (kept : Int) - 1074)
    (counted : exponent + count = (kept : Int) - 1074) :
    shiftToTargetExponent .binary64 significand exponent .exact =
      (ExtendedMantissa.ofMantissaAndAccuracy significand .exact >>> count,
        (kept : Int) - 1074) := by
  have amount : (((kept : Int) - 1074) - exponent).toNat = count := by omega
  unfold shiftToTargetExponent shiftToExponent
  rw [target]
  dsimp only
  rw [amount, counted]

/-- A significand that is rounded to nothing makes a zero. -/
theorem roundWithAccuracy_of_roundedToZero
    (sign : Sign)
    {exponent : Int}
    {kept count : Nat}
    (target :
      Format.binary64.targetExponent (totalExponent significand exponent) =
        (kept : Int) - 1074)
    (counted : exponent + count = (kept : Int) - 1074)
    (nothing : roundedQuotient significand (2 ^ count) = 0) :
    roundWithAccuracy .binary64 sign significand exponent .exact =
      .zero sign := by
  have rounded :
      (ExtendedMantissa.ofMantissaAndAccuracy significand .exact >>>
          count).roundedMantissa = 0 := by
    rw [(IsQuotient.shiftRight significand count).roundedMantissa
      (Nat.two_pow_pos _), nothing]
  unfold roundWithAccuracy
  rw [shiftToTargetExponent_of_target target counted]
  simp only [rounded, shiftToTargetExponent, shiftToExponent]
  rw [dif_pos]
  rw [(IsQuotient.shiftRight 0 _).mantissa, Nat.zero_div]

/-- A value is rounded to 53 bits or, if it is too small for that, to least units. -/
theorem bits_roundWithAccuracy_of_target
    (negative : Bool)
    {exponent : Int}
    {kept count : Nat}
    (target :
      Format.binary64.targetExponent (totalExponent significand exponent) =
        (kept : Int) - 1074)
    (counted : exponent + count = (kept : Int) - 1074) :
    let value :=
      roundWithAccuracy .binary64 (signOf negative) significand exponent .exact
    isNegative (packed value) = negative ∧
      pattern (packed value) =
        min infinityPattern
          (kept * 2 ^ 52 + roundedQuotient significand (2 ^ count)) := by
  obtain ⟨fits, normal⟩ := roundedSignificand_of_target target counted
  rcases Nat.eq_zero_or_pos (roundedQuotient significand (2 ^ count)) with
    nothing | positive
  case inl =>
    have isLeast : kept = 0 := by omega
    have made :
        (UnpackedFloat.pack .binary64 (.zero (signOf negative))).toNat =
          signBits negative + 0 :=
      toNat_packComponents negative 0 0
    rw [roundWithAccuracy_of_roundedToZero _ target counted nothing, nothing,
      isLeast]
    exact bits_packed made (by decide)
  case inr =>
    obtain ⟨final, carried, isFinal, isCarried, finalPositive, finalFits,
        finalNormal, same⟩ :=
      shiftToTargetExponent_rounded positive fits normal
    have rounded :
        (ExtendedMantissa.ofMantissaAndAccuracy significand .exact >>>
            count).roundedMantissa =
          roundedQuotient significand (2 ^ count) :=
      (IsQuotient.shiftRight significand count).roundedMantissa
        (Nat.two_pow_pos _)
    have value :
        roundWithAccuracy .binary64 (signOf negative) significand exponent
            .exact =
          .finite (signOf negative) final (carried - 1074) finalPositive := by
      unfold roundWithAccuracy
      rw [shiftToTargetExponent_of_target target counted]
      simp only [rounded]
      simp only [isFinal, isCarried]
      rw [dif_neg finalPositive.ne']
    rw [value, ← same]
    exact bits_packed_finite negative finalFits finalPositive finalNormal

/-- A value is rounded to the pattern that belongs to its units. -/
theorem bits_roundWithAccuracy
    (negative : Bool)
    (nonzero : significand ≠ 0)
    {shift : Nat}
    (within : shift ≤ surplus (significand * 2 ^ shift)) :
    let value :=
      roundWithAccuracy .binary64 (signOf negative) significand
        ((shift : Int) - 1074) .exact
    isNegative (packed value) = negative ∧
      pattern (packed value) =
        min infinityPattern (patternOfUnits (significand * 2 ^ shift)) := by
  have target := targetExponent_eq nonzero shift
  generalize amount : significand * 2 ^ shift = units at within target
  generalize isSurplus : surplus units = kept at within target
  have counted :
      ((shift : Int) - 1074) + (kept - shift : Nat) = (kept : Int) - 1074 := by
    omega
  have rounded :
      roundedQuotient significand (2 ^ (kept - shift)) =
        roundedQuotient units (2 ^ kept) := by
    rw [← roundedQuotient_mul_right (Nat.two_pow_pos shift), amount,
      ← Nat.pow_add, Nat.sub_add_cancel within]
  rw [patternOfUnits, isSurplus, ← rounded]
  exact bits_roundWithAccuracy_of_target negative target counted

/-- A value of any exponent is rounded to the pattern that belongs to its units. -/
theorem bits_round
    (negative : Bool)
    (nonzero : significand ≠ 0)
    (shift : Nat) :
    let value :=
      UnpackedFloat.round .binary64 (signOf negative) significand
        ((shift : Int) - 1074)
    isNegative (packed value) = negative ∧
      pattern (packed value) =
        min infinityPattern (patternOfUnits (significand * 2 ^ shift)) := by
  generalize isSurplus : surplus (significand * 2 ^ shift) = kept
  have amount :
      (((shift : Int) - 1074) - ((kept : Int) - 1074)).toNat = shift - kept := by
    omega
  have exponent :
      ((shift : Int) - 1074) - ((shift - kept : Nat) : Int) =
        ((min shift kept : Nat) : Int) - 1074 := by
    omega
  have units :
      significand * 2 ^ (shift - kept) * 2 ^ min shift kept =
        significand * 2 ^ shift := by
    rw [Nat.mul_assoc, ← Nat.pow_add]
    congr 2
    omega
  have widened : significand * 2 ^ (shift - kept) ≠ 0 :=
    Nat.mul_ne_zero nonzero (Nat.two_pow_pos _).ne'
  have within :
      min shift kept ≤
        surplus (significand * 2 ^ (shift - kept) * 2 ^ min shift kept) := by
    rw [units, isSurplus]
    exact Nat.min_le_right _ _
  have rounded := bits_roundWithAccuracy negative widened within
  rw [units] at rounded
  unfold UnpackedFloat.round decreaseExponent
  rw [targetExponent_eq nonzero, isSurplus]
  simp only [amount, exponent, Nat.shiftLeft_eq]
  exact rounded

end Rounding

/--
A double is the one nearest to a number of units.

It is infinite if that number is beyond the finite doubles. Which sign a zero has is not
said.
-/
structure IsNearest
    (x : Float)
    (amount : Int) :
    Prop where
  pattern_eq :
    pattern x = min infinityPattern (patternOfUnits amount.natAbs)
  isNegative_eq : amount ≠ 0 → isNegative x = decide (amount < 0)

/-- A zero is the double nearest to nothing. -/
theorem isNearest_zero
    (negative : Bool) :
    IsNearest (packed (.zero (signOf negative))) 0 := by
  constructor
  case pattern_eq =>
    have made :
        (UnpackedFloat.pack .binary64 (.zero (signOf negative))).toNat =
          signBits negative + 0 :=
      toNat_packComponents negative 0 0
    rw [Int.natAbs_zero, patternOfUnits_of_lt (by decide)]
    exact (bits_packed made (by decide)).2
  case isNegative_eq => exact fun nonzero => absurd rfl nonzero

/-- A sum of significands is rounded to the double nearest to its units. -/
theorem isNearest_normalize
    (sum : Int)
    (shift : Nat) :
    IsNearest
      (packed
        (UnpackedFloat.normalize .binary64 sum ((shift : Int) - 1074) .positive))
      (sum * 2 ^ shift) := by
  have scale : (0 : Int) < 2 ^ shift := Int.pow_pos (by decide)
  have size : (sum * 2 ^ shift).natAbs = sum.natAbs * 2 ^ shift := by
    rw [Int.natAbs_mul, Int.natAbs_pow]
    rfl
  unfold UnpackedFloat.normalize
  rcases Int.lt_trichotomy sum 0 with negative | rfl | positive
  case inl =>
    have product : sum * 2 ^ shift < 0 := Int.mul_neg_of_neg_of_pos negative scale
    have opposite : (-sum).toNat = sum.natAbs := by omega
    obtain ⟨sign, bits⟩ :=
      bits_round true (Int.natAbs_ne_zero.2 (Int.ne_of_lt negative)) shift
    rw [Int.compare_eq_lt.2 negative, opposite]
    exact ⟨size ▸ bits, fun _ => sign.trans (decide_eq_true product).symm⟩
  case inr.inl =>
    rw [Int.zero_mul]
    exact isNearest_zero false
  case inr.inr =>
    have product : 0 < sum * 2 ^ shift := Int.mul_pos positive scale
    have same : sum.toNat = sum.natAbs := by omega
    obtain ⟨sign, bits⟩ :=
      bits_round false (Int.natAbs_ne_zero.2 (Int.ne_of_gt positive)) shift
    rw [Int.compare_eq_gt.2 positive, same]
    exact
      ⟨size ▸ bits,
        fun _ => sign.trans (decide_eq_false (Int.lt_asymm product)).symm⟩

/-- The number of units of the double nearest to a number of units. -/
def nearestSigned
    (amount : Int) :
    Int :=
  amount.sign * nearest amount.natAbs

/-- A pattern belongs to the units that it is read as. -/
theorem patternOfUnits_units
    (bits : Nat) :
    patternOfUnits (Magnitude.ofPattern bits).units = bits := by
  have parts := pattern_ofPattern_eq bits
  obtain ⟨fits, normal⟩ := significand_ofPattern bits
  generalize Magnitude.ofPattern bits = magnitude at parts fits normal ⊢
  obtain ⟨significand, shift⟩ := magnitude
  dsimp only at parts fits normal
  rcases normal with leading | unshifted
  case inl =>
    have nonzero : significand ≠ 0 :=
      (Nat.lt_of_lt_of_le (Nat.two_pow_pos 52) leading).ne'
    have bits : significand.log2 = 52 :=
      (Nat.log2_eq_iff nonzero).2 ⟨leading, fits⟩
    have lost : surplus (significand * 2 ^ shift) = shift := by
      rw [surplus, log2_mul_two_pow nonzero, bits, Nat.add_sub_cancel_left]
    have whole : 2 ^ shift ∣ significand * 2 ^ shift := Nat.dvd_mul_left _ _
    rw [patternOfUnits, Magnitude.units, Nat.pow_eq, lost,
      roundedQuotient_of_dvd (Nat.two_pow_pos shift) whole,
      Nat.mul_div_cancel _ (Nat.two_pow_pos shift)]
    exact parts
  case inr =>
    subst unshifted
    rw [Magnitude.units, Nat.pow_eq, Nat.pow_zero, Nat.mul_one,
      patternOfUnits_of_lt fits]
    omega

/-- A finite double is nearest to its own units. -/
theorem IsNearest.of_finite
    {x : Float}
    (finite : isFinite x = true) :
    IsNearest x (signedUnits x) := by
  have below : pattern x < infinityPattern := of_decide_eq_true finite
  constructor
  case pattern_eq =>
    rw [natAbs_signedUnits, units, patternOfUnits_units,
      Nat.min_eq_right (Nat.le_of_lt below)]
  case isNegative_eq =>
    unfold signedUnits
    cases isNegative x with
    | true =>
        intro nonzero
        rw [if_pos rfl] at nonzero ⊢
        exact (decide_eq_true (by omega)).symm
    | false =>
        intro _
        exact (decide_eq_false (Int.not_lt.2 (Int.natCast_nonneg _))).symm

/-- The double nearest to few enough units is finite. -/
theorem IsNearest.isFinite_iff
    {x : Float}
    {amount : Int}
    (isNearest : IsNearest x amount) :
    isFinite x = true ↔ nearest amount.natAbs < 2 ^ largestBits := by
  rw [← patternOfUnits_lt_iff, isFinite, decide_eq_true_iff,
    isNearest.pattern_eq]
  omega

/-- The units of a finite double are the nearest ones. -/
theorem IsNearest.signedUnits_eq
    {x : Float}
    {amount : Int}
    (isNearest : IsNearest x amount)
    (finite : isFinite x = true) :
    signedUnits x = nearestSigned amount := by
  have below : pattern x < infinityPattern := of_decide_eq_true finite
  have isPattern : pattern x = patternOfUnits amount.natAbs := by
    have patternEq := isNearest.pattern_eq
    omega
  have isUnits : units x = nearest amount.natAbs := by
    rw [units, isPattern, units_patternOfUnits]
  rw [signedUnits, isUnits, nearestSigned]
  rcases Int.lt_trichotomy amount 0 with negative | rfl | positive
  case inl =>
    rw [isNearest.isNegative_eq (Int.ne_of_lt negative),
      decide_eq_true negative, Int.sign_eq_neg_one_of_neg negative, if_pos rfl,
      Int.neg_one_mul]
  case inr.inl =>
    simp [nearest_of_lt]
  case inr.inr =>
    rw [isNearest.isNegative_eq (Int.ne_of_gt positive),
      decide_eq_false (Int.lt_asymm positive),
      Int.sign_eq_one_of_pos positive, if_neg Bool.false_ne_true, Int.one_mul]

/-- The units of a double are made of its sign, its significand and its shift. -/
theorem signedUnits_eq_apply
    (x : Float) :
    signedUnits x =
      (signOf (isNegative x)).apply
          (Magnitude.ofPattern (pattern x)).significand *
        2 ^ (Magnitude.ofPattern (pattern x)).shift := by
  unfold signedUnits units Magnitude.units
  rw [Nat.pow_eq]
  cases isNegative x with
  | true => simp [signOf, Sign.apply]
  | false => simp [signOf, Sign.apply]

/-- A double whose bits are those of zero has no units. -/
theorem signedUnits_of_zero
    {x : Float}
    (isZero : pattern x = 0) :
    signedUnits x = 0 := by
  have noUnits : units x = 0 := by
    rw [units, isZero]
    rfl
  rw [← Int.natAbs_eq_zero, natAbs_signedUnits, noUnits]

/-- A significand is widened to a smaller exponent. -/
theorem decreaseExponent_fst
    (significand shift smaller : Nat) :
    (decreaseExponent significand ((shift : Int) - 1074)
        ((smaller : Int) - 1074)).1 =
      significand * 2 ^ (shift - smaller) := by
  have amount :
      (((shift : Int) - 1074) - ((smaller : Int) - 1074)).toNat =
        shift - smaller := by
    omega
  rw [decreaseExponent, amount, Nat.shiftLeft_eq]

/-- A significand on a smaller exponent stands for the same units. -/
theorem apply_widened
    (sign : Sign)
    (significand : Nat)
    {shift smaller : Nat}
    (within : smaller ≤ shift) :
    sign.apply ((significand * 2 ^ (shift - smaller) : Nat) : Int) * 2 ^ smaller =
      sign.apply (significand : Int) * 2 ^ shift := by
  have widened :
      ((significand * 2 ^ (shift - smaller) : Nat) : Int) * 2 ^ smaller =
        (significand : Int) * 2 ^ shift := by
    push_cast
    rw [Int.mul_assoc, ← Int.pow_add, Nat.sub_add_cancel within]
  cases sign with
  | negative => rw [Sign.apply, Sign.apply, Int.neg_mul, Int.neg_mul, widened]
  | positive => exact widened

/-- Two values other than zero are added on the smaller of their exponents. -/
theorem isNearest_add_finite
    (xSign ySign : Sign)
    (x y : Magnitude)
    (xPositive : 0 < x.significand)
    (yPositive : 0 < y.significand) :
    IsNearest
      (packed
        (UnpackedFloat.add .binary64
          (.finite xSign x.significand (x.shift - 1074) xPositive)
          (.finite ySign y.significand (y.shift - 1074) yPositive)))
      (xSign.apply x.significand * 2 ^ x.shift +
        ySign.apply y.significand * 2 ^ y.shift) := by
  generalize isSmaller : min x.shift y.shift = smaller
  have exponent :
      min ((x.shift : Int) - 1074) ((y.shift : Int) - 1074) =
        (smaller : Int) - 1074 := by
    omega
  have xWithin : smaller ≤ x.shift := by omega
  have yWithin : smaller ≤ y.shift := by omega
  rw [← apply_widened xSign x.significand xWithin,
    ← apply_widened ySign y.significand yWithin, ← Int.add_mul,
    ← decreaseExponent_fst, ← decreaseExponent_fst, UnpackedFloat.add, exponent]
  exact isNearest_normalize _ smaller

/-- The sum of two finite doubles is the double nearest to the sum of their units. -/
theorem isNearest_add
    {x y : Float}
    (xFinite : isFinite x = true)
    (yFinite : isFinite y = true) :
    IsNearest (x + y) (signedUnits x + signedUnits y) := by
  change
    IsNearest
      (packed (UnpackedFloat.add .binary64 x.toModel.unpack y.toModel.unpack)) _
  rcases (denotes_double x).zero_or_finite (of_decide_eq_true xFinite) with
    ⟨xZero, xValue⟩ | ⟨xPositive, xValue⟩
  case inl =>
    rw [signedUnits_of_zero xZero, Int.zero_add, xValue]
    rcases (denotes_double y).zero_or_finite (of_decide_eq_true yFinite) with
      ⟨yZero, yValue⟩ | ⟨_, yValue⟩
    case inl =>
      rw [signedUnits_of_zero yZero, yValue, UnpackedFloat.add]
      split
      · exact isNearest_zero (isNegative x)
      · exact isNearest_zero false
    case inr =>
      have stays :
          UnpackedFloat.add .binary64 (.zero (signOf (isNegative x)))
              y.toModel.unpack =
            y.toModel.unpack := by
        rw [yValue]
        rfl
      rw [stays, packed_unpack]
      exact .of_finite yFinite
  case inr =>
    rcases (denotes_double y).zero_or_finite (of_decide_eq_true yFinite) with
      ⟨yZero, yValue⟩ | ⟨yPositive, yValue⟩
    case inl =>
      have stays :
          UnpackedFloat.add .binary64 x.toModel.unpack
              (.zero (signOf (isNegative y))) =
            x.toModel.unpack := by
        rw [xValue]
        rfl
      rw [signedUnits_of_zero yZero, Int.add_zero, yValue, stays,
        packed_unpack]
      exact .of_finite xFinite
    case inr =>
      rw [signedUnits_eq_apply x, signedUnits_eq_apply y, xValue, yValue]
      exact isNearest_add_finite _ _ _ _ xPositive yPositive

/-- An infinity, or no number, stays what it is when a finite double is added. -/
theorem add_eq_left
    {x y : Float}
    (notFinite : ¬isFinite x = true)
    (yFinite : isFinite y = true) :
    x + y = x := by
  have stays :
      UnpackedFloat.add .binary64 x.toModel.unpack y.toModel.unpack =
        x.toModel.unpack := by
    have xDenotes := denotes_double x
    generalize x.toModel.unpack = value at xDenotes ⊢
    cases xDenotes with
    | zero isZero => exact absurd (decide_eq_true (isZero ▸ by decide)) notFinite
    | finite below => exact absurd (decide_eq_true below) notFinite
    | notANumber => rfl
    | infinite =>
        rcases (denotes_double y).zero_or_finite (of_decide_eq_true yFinite) with
          ⟨_, yValue⟩ | ⟨_, yValue⟩
        · rw [yValue]
          rfl
        · rw [yValue]
          rfl
  exact (congrArg packed stays).trans (packed_unpack x)

/-- Only a finite double and another one have a finite sum. -/
theorem isFinite_of_isFinite_add
    {x y : Float}
    (yFinite : isFinite y = true)
    (sumFinite : isFinite (x + y) = true) :
    isFinite x = true := by
  by_contra notFinite
  rw [add_eq_left notFinite yFinite] at sumFinite
  exact notFinite sumFinite

end Reckoner.Binary64
