import Reckoner.Proofs.Number.Power

namespace Reckoner.Binary64

/-!
# Where doubles stay finite

A result that is no larger than an operand that is a finite double is finite too: rounding
does not go beyond a double that is there. This covers the remainder of a division and the
product with a double of the unit interval. Sums, differences, products and quotients have
no such bound.
-/

open Float.Model (Format UnpackedFloat totalExponent)
open Float.Model.UnpackedFloat

/-- A quotient is rounded to no more than a whole number that it does not exceed. -/
theorem roundedQuotient_le
    {numerator denominator bound : Nat}
    (positive : 0 < denominator)
    (within : numerator ≤ bound * denominator) :
    roundedQuotient numerator denominator ≤ bound := by
  rcases Nat.lt_or_eq_of_le within with below | rfl
  case inl =>
    have quotient : numerator / denominator < bound :=
      (Nat.div_lt_iff_lt_mul positive).2 below
    exact
      Nat.le_trans (roundedQuotient_mem numerator denominator).2 quotient
  case inr =>
    rw [roundedQuotient_of_dvd positive (Nat.dvd_mul_left _ _),
      Nat.mul_div_cancel _ positive]

/-- A number is rounded to no more than the units of a double that it does not exceed. -/
theorem nearest_le_units
    {n : Nat}
    {x : Float}
    (within : n ≤ units x) :
    nearest n ≤ units x := by
  have fits := (significand_ofPattern (pattern x)).1
  unfold units Magnitude.units at within ⊢
  rw [Nat.pow_eq] at within ⊢
  generalize (Magnitude.ofPattern (pattern x)).significand = significand at *
  generalize (Magnitude.ofPattern (pattern x)).shift = shift at *
  by_cases isZero : n = 0
  · rw [isZero, nearest_of_lt (by decide)]
    exact Nat.zero_le _
  · have below : n < 2 ^ (53 + shift) := by
      rw [Nat.pow_add]
      exact
        Nat.lt_of_le_of_lt within
          (Nat.mul_lt_mul_of_pos_right fits (Nat.two_pow_pos shift))
    have lost : surplus n ≤ shift := by
      have bits := (Nat.log2_lt isZero).2 below
      unfold surplus
      omega
    have scaled :
        significand * 2 ^ (shift - surplus n) * 2 ^ surplus n =
          significand * 2 ^ shift := by
      rw [Nat.mul_assoc, ← Nat.pow_add, Nat.sub_add_cancel lost]
    rw [nearest, ← scaled]
    rw [← scaled] at within
    exact
      Nat.mul_le_mul_right _
        (roundedQuotient_le (Nat.two_pow_pos _) within)

/-- A double that is nearest to no more units than a finite one has is finite. -/
theorem IsNearest.isFinite_of_le
    {x y : Float}
    {amount : Int}
    (isNearest : IsNearest x amount)
    (finite : isFinite y = true)
    (within : amount.natAbs ≤ units y) :
    isFinite x = true :=
  isNearest.isFinite_iff.2
    (Nat.lt_of_le_of_lt (nearest_le_units within) (units_lt finite))

/-- A pattern below that of infinity makes a finite double. -/
theorem isFinite_ofPattern
    (negative : Bool)
    {bits : Nat}
    (below : bits < infinityPattern) :
    isFinite (ofPattern negative bits) = true := by
  rw [isFinite, (bits_ofPattern negative (Nat.le_of_lt below)).2]
  exact decide_eq_true below

/-- A double of a quotient is finite. -/
theorem isFinite_of_ofQuotient?
    {negative : Bool}
    {numerator denominator : Nat}
    {x : Float}
    (made : ofQuotient? negative numerator denominator = some x) :
    isFinite x = true := by
  unfold ofQuotient? at made
  dsimp only at made
  split at made
  case isTrue below =>
    cases made
    exact isFinite_ofPattern negative below
  case isFalse => cases made

section Opposite

/-- A packed zero is finite. -/
theorem isFinite_packed_zero
    (negative : Bool) :
    isFinite (packed (.zero (signOf negative))) = true :=
  (isNearest_zero negative).isFinite_iff.2 (Nat.two_pow_pos _)

/-- The opposite of a finite double is finite. -/
theorem isFinite_neg
    {x : Float}
    (finite : isFinite x = true) :
    isFinite (-x) = true := by
  have below : pattern x < infinityPattern := of_decide_eq_true finite
  change isFinite (packed (UnpackedFloat.neg x.toModel.unpack)) = true
  have opposite : -signOf (isNegative x) = signOf (!isNegative x) := by
    cases isNegative x with
    | true => rfl
    | false => rfl
  rcases (denotes_double x).zero_or_finite below with
    ⟨_, value⟩ | ⟨positive, value⟩
  case inl =>
    rw [value, UnpackedFloat.neg, opposite]
    exact isFinite_packed_zero _
  case inr =>
    obtain ⟨fits, normal⟩ := significand_ofPattern (pattern x)
    have bits :=
      (bits_packed_finite (!isNegative x) fits positive normal).2
    rw [pattern_ofPattern_eq, Nat.min_eq_right (Nat.le_of_lt below)] at bits
    rw [value, UnpackedFloat.neg, opposite, isFinite, bits]
    exact finite

end Opposite

section Remainder

/-- The units of a double other than zero are some. -/
theorem units_pos
    {x : Float}
    (nonzero : pattern x ≠ 0) :
    0 < units x := by
  have parts := pattern_ofPattern_eq (pattern x)
  have normal := (significand_ofPattern (pattern x)).2
  have positive : 0 < (Magnitude.ofPattern (pattern x)).significand := by
    omega
  exact Nat.mul_pos positive (Nat.two_pow_pos _)

/-- The pattern of a number of least units is that of the number. -/
theorem roundedPattern_unitsPerOne
    (n : Nat) :
    roundedPattern n unitsPerOne = patternOfUnits n := by
  simp only [roundedPattern, patternOfUnits, surplus, Nat.pow_eq,
    Nat.mul_div_cancel _ unitsPerOne_pos, Nat.mul_comm unitsPerOne]
  rw [roundedQuotient_mul_right unitsPerOne_pos]

/-- As many units as a finite double has at least make a double of the nearest number. -/
theorem isNearest_ofQuotient?
    (negative : Bool)
    {n : Nat}
    {y : Float}
    (finite : isFinite y = true)
    (within : n ≤ units y) :
    ∃ x,
      ofQuotient? negative n unitsPerOne = some x ∧
        isFinite x = true ∧ isNegative x = negative ∧ units x ≤ units y := by
  have below : patternOfUnits n < infinityPattern :=
    (patternOfUnits_lt_iff n).2
      (Nat.lt_of_le_of_lt (nearest_le_units within) (units_lt finite))
  obtain ⟨sign, bits⟩ := bits_ofPattern negative (Nat.le_of_lt below)
  refine
    ⟨ofPattern negative (patternOfUnits n), ?_,
      isFinite_ofPattern negative below, sign, ?_⟩
  · simp only [ofQuotient?, roundedPattern_unitsPerOne, if_pos below]
  · rw [units, bits, units_patternOfUnits]
    exact nearest_le_units within

/-- Of two finite doubles of different signs the sum is no larger than the larger one. -/
theorem isFinite_add_of_opposite
    {x y : Float}
    (xFinite : isFinite x = true)
    (yFinite : isFinite y = true)
    (opposite : isNegative x ≠ isNegative y)
    (within : units x ≤ units y) :
    isFinite (x + y) = true := by
  refine (isNearest_add xFinite yFinite).isFinite_of_le yFinite ?_
  unfold signedUnits
  cases xSign : isNegative x with
  | true =>
      cases ySign : isNegative y with
      | true => exact absurd (xSign.trans ySign.symm) opposite
      | false =>
          rw [if_pos rfl, if_neg Bool.false_ne_true]
          omega
  | false =>
      cases ySign : isNegative y with
      | true =>
          rw [if_neg Bool.false_ne_true, if_pos rfl]
          omega
      | false => exact absurd (xSign.trans ySign.symm) opposite

/-- The remainder of finite doubles is finite. -/
theorem isFinite_flooredRemainder
    {x y : Float}
    (xFinite : isFinite x = true)
    (yFinite : isFinite y = true)
    (nonzero : pattern y ≠ 0) :
    isFinite (flooredRemainder x y) = true := by
  obtain ⟨xNumber, xBounded⟩ := neither_of_isFinite xFinite
  obtain ⟨yNumber, yBounded⟩ := neither_of_isFinite yFinite
  have within : units x % units y ≤ units y :=
    Nat.le_of_lt (Nat.mod_lt _ (units_pos nonzero))
  obtain ⟨signed, made, finite, sign, small⟩ :=
    isNearest_ofQuotient? (isNegative x) yFinite within
  simp only [flooredRemainder, xNumber, yNumber, xBounded, yBounded,
    Bool.or_self, Bool.false_eq_true, if_false, made, Option.getD_some]
  split
  case isTrue => exact isFinite_ofPattern _ (by decide)
  case isFalse =>
    split
    case isTrue => exact finite
    case isFalse opposite =>
      exact isFinite_add_of_opposite finite yFinite (sign ▸ opposite) small

end Remainder

section Product

/-- The sign of a product. -/
theorem signOf_mul
    (first second : Bool) :
    signOf first * signOf second = signOf (first != second) := by
  cases first with
  | true =>
      cases second with
      | true => rfl
      | false => rfl
  | false =>
      cases second with
      | true => rfl
      | false => rfl

variable {x y : Magnitude}

/-- A magnitude of at most one is a significand on a shift that both are small. -/
theorem shift_le_of_units_le_one
    (positive : 0 < x.significand)
    (small : x.units ≤ unitsPerOne) :
    x.shift ≤ unitBits ∧ x.significand ≤ 2 ^ (unitBits - x.shift) := by
  rw [unitsPerOne_eq, Magnitude.units, Nat.pow_eq] at small
  have within : x.shift ≤ unitBits := by
    have power : 2 ^ x.shift ≤ 2 ^ unitBits :=
      Nat.le_trans (Nat.le_mul_of_pos_left _ positive) small
    exact (Nat.pow_le_pow_iff_right (by decide)).1 power
  refine ⟨within, ?_⟩
  have scaled : 2 ^ unitBits = 2 ^ (unitBits - x.shift) * 2 ^ x.shift := by
    rw [← Nat.pow_add, Nat.sub_add_cancel within]
  rw [scaled] at small
  exact Nat.le_of_mul_le_mul_right small (Nat.two_pow_pos _)

/-- A product with a value of at most one is rounded to no more than the other value. -/
theorem exists_target_of_product
    (xPositive : 0 < x.significand)
    (yPositive : 0 < y.significand)
    (small : x.units ≤ unitsPerOne)
    (fits : y.significand < 2 ^ 53)
    (normal : 2 ^ 52 ≤ y.significand ∨ y.shift = 0) :
    ∃ kept count : Nat,
      Format.binary64.targetExponent
          (totalExponent (x.significand * y.significand)
            ((x.shift - 1074 : Int) + (y.shift - 1074))) =
        (kept : Int) - 1074 ∧
        ((x.shift - 1074 : Int) + (y.shift - 1074)) + count =
          (kept : Int) - 1074 ∧
        kept * 2 ^ 52 +
            roundedQuotient (x.significand * y.significand) (2 ^ count) ≤
          y.shift * 2 ^ 52 + y.significand := by
  have isUnit : unitBits = 1074 := rfl
  obtain ⟨within, few⟩ := shift_le_of_units_le_one xPositive small
  have product :
      x.significand * y.significand ≤
        y.significand * 2 ^ (unitBits - x.shift) := by
    rw [Nat.mul_comm]
    exact Nat.mul_le_mul_left _ few
  have nonzero : x.significand * y.significand ≠ 0 :=
    Nat.mul_ne_zero xPositive.ne' yPositive.ne'
  have upper :
      (x.significand * y.significand).log2 < 53 + (unitBits - x.shift) := by
    refine (Nat.log2_lt nonzero).2 (Nat.lt_of_le_of_lt product ?_)
    rw [Nat.pow_add]
    exact Nat.mul_lt_mul_of_pos_right fits (Nat.two_pow_pos _)
  have lower :
      52 ≤ (x.significand * y.significand).log2 ∨ y.shift = 0 := by
    refine normal.imp_left fun leading => ?_
    exact
      (Nat.le_log2 nonzero).2
        (Nat.le_trans leading (Nat.le_mul_of_pos_left _ xPositive))
  generalize isExponent :
    ((x.shift - 1074 : Int) + (y.shift - 1074)) = exponent
  generalize isTarget :
    Format.binary64.targetExponent
      (totalExponent (x.significand * y.significand) exponent) = aim
  have target := isTarget
  change
    max (((x.significand * y.significand).log2 : Int) + 1 + exponent - 53)
      (3 - 1024 - 53) = aim at isTarget
  obtain ⟨kept, isKept⟩ : ∃ kept : Nat, aim = (kept : Int) - 1074 :=
    ⟨(aim + 1074).toNat, by omega⟩
  obtain ⟨count, counted⟩ :
      ∃ count : Nat, exponent + count = (kept : Int) - 1074 :=
    ⟨((kept : Int) - 1074 - exponent).toNat, by omega⟩
  rw [isKept] at target
  refine ⟨kept, count, isKept, counted, ?_⟩
  have rounded := (roundedSignificand_of_target target counted).1
  rcases (by omega : kept < y.shift ∨ kept = y.shift) with fewer | rfl
  case inl =>
    have leading : 2 ^ 52 ≤ y.significand := by omega
    omega
  case inr =>
    have isCount : unitBits - x.shift = count := by omega
    rw [isCount] at product
    exact
      Nat.add_le_add_left
        (roundedQuotient_le (Nat.two_pow_pos count) product) _

/-- The product of finite doubles is finite if one of them is at most one in size. -/
theorem isFinite_mul
    {x y : Float}
    (xFinite : isFinite x = true)
    (yFinite : isFinite y = true)
    (small : units x ≤ unitsPerOne) :
    isFinite (x * y) = true := by
  have below : pattern y < infinityPattern := of_decide_eq_true yFinite
  change
    isFinite
        (packed
          (UnpackedFloat.mul .binary64 x.toModel.unpack y.toModel.unpack)) =
      true
  rcases (denotes_double x).zero_or_finite (of_decide_eq_true xFinite) with
    ⟨_, xValue⟩ | ⟨xPositive, xValue⟩
  case inl =>
    rcases (denotes_double y).zero_or_finite below with
      ⟨_, yValue⟩ | ⟨_, yValue⟩
    · rw [xValue, yValue, UnpackedFloat.mul, signOf_mul]
      exact isFinite_packed_zero _
    · rw [xValue, yValue, UnpackedFloat.mul, signOf_mul]
      exact isFinite_packed_zero _
  case inr =>
    rcases (denotes_double y).zero_or_finite below with
      ⟨_, yValue⟩ | ⟨yPositive, yValue⟩
    case inl =>
      rw [xValue, yValue, UnpackedFloat.mul, signOf_mul]
      exact isFinite_packed_zero _
    case inr =>
      obtain ⟨fits, normal⟩ := significand_ofPattern (pattern y)
      obtain ⟨kept, count, target, counted, within⟩ :=
        exists_target_of_product xPositive yPositive small fits normal
      have bits :=
        (bits_roundWithAccuracy_of_target (isNegative x != isNegative y)
          target counted).2
      rw [pattern_ofPattern_eq] at within
      rw [xValue, yValue, UnpackedFloat.mul, signOf_mul, isFinite, bits]
      exact
        decide_eq_true
          (Nat.lt_of_le_of_lt (min_le_right _ _)
            (Nat.lt_of_le_of_lt within below))

end Product

end Reckoner.Binary64
