import Reckoner.Environment
import Reckoner.Proofs.Number.Integer

namespace Reckoner

/-!
# The rounding functions

Floor and ceiling leave every integer as it is. Rounding converts an integer to a double
first, and takes the floor after one half was added. Both steps may round: the conversion
beyond 53 bits, the addition of one half from 53 bits on. `halfUp` is what the two steps
make of the double of an integer, and the integers that rounding leaves alone are found
by it.
-/

namespace Binary64

/-- The integer that a double of this value is rounded to by adding one half. -/
def halfUp
    (n : Int) :
    Int :=
  if n.natAbs ≤ 2 ^ 52 then n else n + n % 2

/-- The number of bits of one half in least units, without its leading bit. -/
def halfBits : Nat :=
  52 + 1021

/-- One has twice the units of one half. -/
theorem unitsPerOne_eq_halves :
    unitsPerOne = 2 * 2 ^ halfBits := by
  have bits : unitBits = halfBits + 1 := rfl
  rw [unitsPerOne_eq, bits, Nat.pow_succ']

/-- One half is finite and half of the units of one. -/
theorem isFinite_signedUnits_half :
    isFinite 0.5 = true ∧ signedUnits 0.5 = (2 ^ halfBits : Nat) := by
  have bits : pattern 0.5 = 1021 * 2 ^ 52 + 2 ^ 52 := rfl
  have positive : isNegative 0.5 = false := rfl
  have isUnits : units 0.5 = 2 ^ halfBits := by
    rw [units, bits, units_of_significand (Nat.le_refl _) (by decide),
      ← Nat.pow_add, halfBits]
  constructor
  · rw [isFinite, bits]
    rfl
  · rw [signedUnits, positive, isUnits]
    rfl

section Nearest

/-- A number that is not rounded ends in its surplus zeros. -/
theorem two_pow_surplus_dvd
    {n : Nat}
    (same : nearest n = n) :
    2 ^ surplus n ∣ n :=
  Dvd.intro_left _ same

/-- Beside a multiple, a quotient is rounded to it unless a tie goes elsewhere. -/
theorem roundedQuotient_beside
    {n denominator quotient : Nat}
    (isEven : 2 ∣ denominator)
    (positive : 0 < denominator)
    (noTie : 2 < denominator ∨ 2 ∣ quotient)
    (beside : n + 1 = denominator * quotient ∨ n = denominator * quotient + 1) :
    roundedQuotient n denominator = quotient := by
  unfold roundedQuotient
  dsimp only
  rcases beside with below | above
  case inr =>
    have whole : n / denominator = quotient := by
      rw [above, Nat.mul_add_div positive, Nat.div_eq_of_lt (by omega),
        Nat.add_zero]
    have remainder : n % denominator = 1 := by
      rw [above, Nat.mul_add_mod, Nat.mod_eq_of_lt (by omega)]
    rw [whole, remainder]
    split
    · rfl
    · split
      · omega
      · omega
  case inl =>
    obtain ⟨before, rfl⟩ : ∃ before, quotient = before + 1 := by
      refine Nat.exists_eq_succ_of_ne_zero ?_
      rintro rfl
      omega
    have isSum : n = denominator * before + (denominator - 1) := by
      rw [Nat.mul_succ] at below
      omega
    have whole : n / denominator = before := by
      rw [isSum, Nat.mul_add_div positive, Nat.div_eq_of_lt (by omega),
        Nat.add_zero]
    have remainder : n % denominator = denominator - 1 := by
      rw [isSum, Nat.mul_add_mod, Nat.mod_eq_of_lt (by omega)]
    rw [whole, remainder]
    split
    · omega
    · split
      · rfl
      · omega

/-- Beside twice an even number that is not rounded, a number is rounded to it. -/
theorem nearest_beside
    {even n : Nat}
    (isEven : 2 ∣ even)
    (many : 2 ^ 53 ≤ n)
    (beside : n + 1 = 2 * even ∨ n = 2 * even + 1)
    (divides : 2 ^ surplus n ∣ 2 * even) :
    nearest n = 2 * even := by
  have lost : 1 ≤ surplus n := by
    have bits := le_log2_of_le many
    unfold surplus
    omega
  have twoDvd : 2 ∣ 2 ^ surplus n := Nat.pow_dvd_pow 2 lost
  have positive : 0 < 2 ^ surplus n := Nat.two_pow_pos _
  rw [nearest]
  generalize 2 ^ surplus n = denominator at divides twoDvd positive ⊢
  obtain ⟨quotient, isProduct⟩ := divides
  have noTie : 2 < denominator ∨ 2 ∣ quotient := by
    rcases Nat.lt_or_ge 2 denominator with more | few
    · exact .inl more
    · obtain rfl : denominator = 2 := by omega
      exact .inr (Nat.eq_of_mul_eq_mul_left Nat.two_pos isProduct ▸ isEven)
  rw [isProduct] at beside ⊢
  rw [roundedQuotient_beside twoDvd positive noTie beside, Nat.mul_comm]

/-- Less than one half above `2 ^ 52` is rounded down. -/
theorem nearest_le_of_lt_half
    {n bits : Nat}
    (few : n < 2 ^ 52 * (2 * 2 ^ bits) + 2 ^ bits) :
    nearest n ≤ 2 ^ 52 * (2 * 2 ^ bits) := by
  have power : 2 ^ 52 * (2 * 2 ^ bits) = 2 ^ (52 + (bits + 1)) := by
    rw [← Nat.pow_succ', ← Nat.pow_add]
  rcases Nat.le_total n (2 ^ 52 * (2 * 2 ^ bits)) with within | beyond
  case inl =>
    rw [power] at within ⊢
    exact nearest_le_two_pow within
  case inr =>
    obtain ⟨rest, rfl⟩ := Nat.exists_eq_add_of_le beyond
    have small : rest < 2 ^ bits := Nat.lt_of_add_lt_add_left few
    generalize isAmount : 2 ^ 52 * (2 * 2 ^ bits) + rest = amount
    have isLog : amount.log2 = 52 + (bits + 1) := by
      rw [Nat.log2_eq_iff (by omega), Nat.pow_add 2 (52 + (bits + 1)) 1,
        ← power]
      omega
    have isSurplus : surplus amount = bits + 1 := by
      rw [surplus, isLog, Nat.add_sub_cancel_left]
    have whole : amount / (2 * 2 ^ bits) = 2 ^ 52 := by
      rw [← isAmount, Nat.mul_comm, Nat.mul_add_div (by omega),
        Nat.div_eq_of_lt (by omega), Nat.add_zero]
    have remainder : amount % (2 * 2 ^ bits) = rest := by
      rw [← isAmount, Nat.mul_comm, Nat.mul_add_mod,
        Nat.mod_eq_of_lt (by omega)]
    have rounded : roundedQuotient amount (2 * 2 ^ bits) = 2 ^ 52 := by
      rw [roundedQuotient, whole, remainder]
      exact if_pos (by omega)
    rw [nearest, isSurplus, Nat.pow_succ', rounded]

end Nearest

namespace HasValue

variable {x : Float} {n : Int} (hasValue : HasValue x n)

include hasValue

/-- One more than twice the value of a double is rounded to twice an even neighbour. -/
theorem nearestSigned_twice_add_one
    (many : 2 ^ 53 ≤ (2 * n + 1).natAbs) :
    nearestSigned (2 * n + 1) = 2 * (n + n % 2) := by
  have same := (nearestSigned_eq_self_iff n).1 hasValue.nearestSigned_eq
  generalize isSize : (2 * n + 1).natAbs = size at many
  have divides : 2 ^ surplus size ∣ 2 * (n + n % 2).natAbs := by
    rcases Int.emod_two_eq_zero_or_one n with even | odd
    case inl =>
      have noMore : surplus size ≤ surplus n.natAbs + 1 := by
        have below : n.natAbs < 2 ^ (n.natAbs.log2 + 1) := Nat.lt_log2_self
        have bits : size.log2 < n.natAbs.log2 + 2 := by
          refine (Nat.log2_lt (by omega)).2 ?_
          rw [Nat.pow_succ]
          omega
        unfold surplus
        omega
      rw [even, Int.add_zero]
      calc
        2 ^ surplus size ∣ 2 ^ (surplus n.natAbs + 1) :=
          Nat.pow_dvd_pow 2 noMore
        _ = 2 * 2 ^ surplus n.natAbs := Nat.pow_succ'
        _ ∣ 2 * n.natAbs :=
          Nat.mul_dvd_mul_left 2 (two_pow_surplus_dvd same)
    case inr =>
      -- An odd value has at most 53 bits, so no more than one bit is lost.
      have few : n.natAbs < 2 ^ 53 := by
        by_contra beyond
        have even := hasValue.emod_two_eq_zero (Nat.not_lt.1 beyond)
        omega
      have bits : size.log2 < 54 := (Nat.log2_lt (by omega)).2 (by omega)
      have single : surplus size ≤ 1 := by
        unfold surplus
        omega
      exact
        Nat.dvd_trans (Nat.pow_dvd_pow 2 single) (Nat.dvd_mul_right 2 _)
  have rounded : nearest size = 2 * (n + n % 2).natAbs :=
    nearest_beside (by omega) many (by omega) divides
  have sign : (2 * n + 1).sign = (n + n % 2).sign := by
    rcases Int.lt_or_gt_of_ne (by omega : n ≠ 0) with negative | positive
    · rw [Int.sign_eq_neg_one_of_neg (by omega),
        Int.sign_eq_neg_one_of_neg (by omega)]
    · rw [Int.sign_eq_one_of_pos (by omega), Int.sign_eq_one_of_pos (by omega)]
  rw [nearestSigned, isSize, rounded, sign, Int.natCast_mul, Int.mul_left_comm,
    Int.sign_mul_natAbs]
  rfl

/-- One half more than a whole number is an odd number of halves. -/
theorem isNearest_add_half :
    IsNearest (x + 0.5) ((2 * n + 1) * (2 ^ halfBits : Nat)) := by
  obtain ⟨halfFinite, half⟩ := isFinite_signedUnits_half
  have isSum := isNearest_add hasValue.finite halfFinite
  have amount :
      n * unitsPerOne + (2 ^ halfBits : Nat) =
        (2 * n + 1) * (2 ^ halfBits : Nat) := by
    rw [unitsPerOne_eq_halves, Int.natCast_mul]
    ring
  rwa [hasValue.signedUnits_eq, half, amount] at isSum

/-- One half can be added to every double of a whole number. -/
theorem isFinite_add_half :
    isFinite (x + 0.5) = true := by
  have size := (sign_natAbs_mul (2 * n + 1) (Nat.two_pow_pos halfBits)).2
  have bits : largestBits = integerBits + 1 + halfBits := rfl
  rw [hasValue.isNearest_add_half.isFinite_iff, size, nearest_mul_two_pow,
    bits, Nat.pow_add, Nat.mul_lt_mul_right (Nat.two_pow_pos halfBits)]
  rcases Nat.lt_or_ge n.natAbs (2 ^ 53) with few | many
  case inl =>
    have small : (2 * n + 1).natAbs ≤ 2 ^ 55 := by omega
    exact
      Nat.lt_of_le_of_lt (nearest_le_two_pow small)
        (Nat.pow_lt_pow_right (by decide) (by decide))
  case inr =>
    have twice : (2 * n).natAbs = 2 * n.natAbs := Int.natAbs_mul 2 n
    rw [← natAbs_nearestSigned,
      hasValue.nearestSigned_twice_add_one (by omega),
      hasValue.emod_two_eq_zero many, Int.add_zero, twice, Nat.pow_succ']
    exact (Nat.mul_lt_mul_left Nat.two_pos).2 hasValue.natAbs_lt

/-- The sum of a whole number and one half is rounded to so many halves. -/
theorem signedUnits_add_half :
    signedUnits (x + 0.5) =
      nearestSigned (2 * n + 1) * (2 ^ halfBits : Nat) := by
  rw [hasValue.isNearest_add_half.signedUnits_eq hasValue.isFinite_add_half,
    nearestSigned_mul_two_pow]

/-- Rounding a double of a whole number gives the half that is rounded up. -/
theorem floor_add_half :
    floor (x + 0.5) = halfUp n := by
  have halves : floor (x + 0.5) = nearestSigned (2 * n + 1) / 2 := by
    rw [floor, hasValue.signedUnits_add_half, unitsPerOne_eq_halves,
      Int.natCast_mul,
      Int.mul_ediv_mul_of_pos_left _ _
        (Int.natCast_pos.2 (Nat.two_pow_pos halfBits))]
    rfl
  rw [halves, halfUp]
  rcases Nat.lt_or_ge (2 * n + 1).natAbs (2 ^ 53) with few | many
  · rw [nearestSigned_of_natAbs_le (Nat.le_of_lt few), if_pos (by omega)]
    omega
  · rw [hasValue.nearestSigned_twice_add_one many]
    split
    · omega
    · omega

/-- Beyond `2 ^ 52` a double of a whole number is rounded to an even double value. -/
theorem isDoubleValue_halfUp
    (large : 2 ^ 52 < n.natAbs) :
    2 ∣ halfUp n ∧ IsDoubleValue (halfUp n) := by
  have rounded : halfUp n = n + n % 2 := if_neg (Nat.not_le.2 large)
  refine ⟨by omega, x + 0.5, hasValue.isFinite_add_half, ?_⟩
  rw [hasValue.signedUnits_add_half,
    hasValue.nearestSigned_twice_add_one (by omega), rounded,
    unitsPerOne_eq_halves, Int.natCast_mul]
  ring

end HasValue

section AddHalf

variable {x : Float}

/-- A finite double from `2 ^ 52` on is a whole number. -/
theorem exists_hasValue
    (finite : isFinite x = true)
    (large : 2 ^ 52 * unitsPerOne ≤ units x) :
    ∃ n, HasValue x n := by
  have itself := (IsNearest.of_finite finite).signedUnits_eq finite
  have divides : 2 ^ surplus (units x) ∣ units x := by
    rw [← natAbs_signedUnits x]
    exact two_pow_surplus_dvd ((nearestSigned_eq_self_iff _).1 itself.symm)
  have many : unitBits ≤ surplus (units x) := by
    have power : 2 ^ 52 * unitsPerOne = 2 ^ (52 + unitBits) := by
      rw [unitsPerOne_eq, Nat.pow_add]
    rw [power] at large
    have nonzero : units x ≠ 0 :=
      (Nat.lt_of_lt_of_le (Nat.two_pow_pos _) large).ne'
    have bits := (Nat.le_log2 nonzero).2 large
    unfold surplus
    omega
  have whole : unitsPerOne ∣ units x := by
    rw [unitsPerOne_eq]
    exact Nat.dvd_trans (Nat.pow_dvd_pow 2 many) divides
  have divided : (unitsPerOne : Int) ∣ signedUnits x := by
    rw [Int.natCast_dvd, natAbs_signedUnits]
    exact whole
  obtain ⟨n, isProduct⟩ := divided
  exact ⟨n, finite, isProduct.trans (Int.mul_comm _ n)⟩

/-- Rounding a double below `2 ^ 52` stays within that bound. -/
theorem natAbs_floor_add_half_le
    (finite : isFinite x = true)
    (sumFinite : isFinite (x + 0.5) = true)
    (small : units x < 2 ^ 52 * unitsPerOne) :
    (floor (x + 0.5)).natAbs ≤ 2 ^ 52 := by
  obtain ⟨halfFinite, half⟩ := isFinite_signedUnits_half
  have rounded := (isNearest_add finite halfFinite).signedUnits_eq sumFinite
  have within : units (x + 0.5) ≤ 2 ^ 52 * unitsPerOne := by
    rw [← natAbs_signedUnits, rounded, natAbs_nearestSigned,
      unitsPerOne_eq_halves]
    refine nearest_le_of_lt_half ?_
    rw [half, ← unitsPerOne_eq_halves]
    have size := natAbs_signedUnits x
    generalize 2 ^ halfBits = halves
    omega
  have positive : (0 : Int) < unitsPerOne := Int.natCast_pos.2 unitsPerOne_pos
  have size := natAbs_signedUnits (x + 0.5)
  have upper : floor (x + 0.5) ≤ 2 ^ 52 :=
    Int.ediv_le_of_le_mul positive (by omega)
  have lower : -2 ^ 52 ≤ floor (x + 0.5) :=
    Int.le_ediv_of_mul_le positive (by omega)
  omega

/-- What a finite double is rounded to is left alone by further rounding. -/
theorem halfUp_floor_add_half
    (finite : isFinite x = true)
    (sumFinite : isFinite (x + 0.5) = true) :
    (floor (x + 0.5)).natAbs ≤ 2 ^ 52 ∨
      2 ∣ floor (x + 0.5) ∧ IsDoubleValue (floor (x + 0.5)) := by
  rcases Nat.lt_or_ge (units x) (2 ^ 52 * unitsPerOne) with small | large
  case inl =>
    exact .inl (natAbs_floor_add_half_le finite sumFinite small)
  case inr =>
    obtain ⟨n, hasValue⟩ := exists_hasValue finite large
    rw [hasValue.floor_add_half]
    rcases Nat.lt_or_ge (2 ^ 52) n.natAbs with beyond | within
    · exact .inr (hasValue.isDoubleValue_halfUp beyond)
    · rw [halfUp, if_pos within]
      exact .inl within

end AddHalf

end Binary64

namespace Function

open Binary64

/-- An integer is made from the finite doubles only. -/
theorem integerOf_eq_ok_iff
    (integerPart : Float → Int)
    (x : Float)
    (r : Number) :
    integerOf integerPart x = .ok r ↔
      isFinite x = true ∧ r = .int (integerPart x) := by
  unfold integerOf
  split
  case isTrue notNumber =>
    refine iff_of_false (by simp) fun given => ?_
    have finite := given.1
    simp only [isNaN, isFinite, decide_eq_true_eq] at notNumber finite
    omega
  case isFalse number =>
    split
    case isTrue infinite =>
      refine iff_of_false (by simp) fun given => ?_
      have finite := given.1
      simp only [isInfinite, isFinite, decide_eq_true_eq] at infinite finite
      omega
    case isFalse notInfinite =>
      have finite := isFinite_of_neither number notInfinite
      constructor
      · intro made
        cases made
        exact ⟨finite, rfl⟩
      · rintro ⟨_, rfl⟩
        rfl

/-- Rounding succeeds where the argument has a double, and one half more is finite. -/
theorem round_eq_ok_iff
    (site : CallSite)
    (x r : Number) :
    round site (some x) = .ok (some r) ↔
      ∃ value, x.toFloat? = some value ∧ isFinite (value + 0.5) = true ∧
        r = .int (Binary64.floor (value + 0.5)) := by
  change
    (((argumentFloat x).bind fun value =>
        integerOf Binary64.floor (value + 0.5)).map some) =
      .ok (some r) ↔ _
  rw [argumentFloat]
  cases x.toFloat? with
  | none => exact iff_of_false (by rintro ⟨⟩) (by simp)
  | some value =>
      have inner := integerOf_eq_ok_iff Binary64.floor (value + 0.5) r
      change (integerOf Binary64.floor (value + 0.5)).map some = _ ↔ _
      constructor
      · intro made
        refine ⟨value, rfl, inner.1 ?_⟩
        cases part : integerOf Binary64.floor (value + 0.5) with
        | error => rw [part] at made; cases made
        | ok => rw [part] at made; cases made; rfl
      · rintro ⟨_, same, given⟩
        cases same
        rw [inner.2 given]
        rfl

/-- The integer that rounding makes of one that has a double. -/
theorem round_int
    {n : Int}
    {value : Float}
    (converted : ofInt? n = some value)
    (site : CallSite) :
    round site (some (.int n)) = .ok (some (.int (halfUp (nearestSigned n)))) := by
  have hasValue := hasValue_of_ofInt? converted
  refine
    (round_eq_ok_iff site _ _).2 ⟨value, converted, hasValue.isFinite_add_half, ?_⟩
  rw [hasValue.floor_add_half]

/-- Rounding leaves exactly the small integers and the even double values alone. -/
theorem round_int_eq_self_iff
    (site : CallSite)
    (n : Int) :
    round site (some (.int n)) = .ok (some (.int n)) ↔
      n.natAbs ≤ 2 ^ 52 ∨ 2 ∣ n ∧ IsDoubleValue n := by
  constructor
  · intro fixed
    obtain ⟨value, converted, _, isFloor⟩ := (round_eq_ok_iff site _ _).1 fixed
    have hasValue := hasValue_of_ofInt? converted
    rw [hasValue.floor_add_half] at isFloor
    injection isFloor with isHalfUp
    rcases Nat.lt_or_ge (2 ^ 52) (nearestSigned n).natAbs with large | small
    · rw [isHalfUp]
      exact .inr (hasValue.isDoubleValue_halfUp large)
    · rw [halfUp, if_pos small] at isHalfUp
      rw [isHalfUp]
      exact .inl small
  · intro exactly
    have same : nearestSigned n = n := by
      rcases exactly with small | ⟨_, x, hasValue⟩
      · exact nearestSigned_of_natAbs_le (by omega)
      · exact hasValue.nearestSigned_eq
    have below : n.natAbs < 2 ^ integerBits := by
      rcases exactly with small | ⟨_, x, hasValue⟩
      · exact
          Nat.lt_of_le_of_lt small
            (Nat.pow_lt_pow_right (by decide) (by decide))
      · exact hasValue.natAbs_lt
    have fixed : halfUp n = n := by
      unfold halfUp
      split
      · rfl
      · omega
    rw [← (nearestSigned_eq_self_iff n).1 same] at below
    obtain ⟨value, converted⟩ := (exists_ofInt?_iff n).2 below
    rw [round_int converted site, same, fixed]

end Function

namespace Functions

open Binary64

/-- A call of a known function succeeds if it has a result at a writable argument. -/
theorem value_eq_ok_iff
    {functions : Functions}
    {name : String}
    {function : Function}
    (found : functions.get? name = some function)
    (x r : Number)
    (position : Option Nat) :
    functions.value name (some x) position = .ok r ↔
      x.Writable ∧ function position (some x) = .ok (some r) := by
  have shows :
      shownArgument (some x) =
        x.text?.elim (.error (.fault .beyondDigits)) .ok := by
    change Arithmetic.shown x = _
    unfold Arithmetic.shown
    cases x.text? with
    | none => rfl
    | some text => rfl
  have called :
      functions.call name position (some x) = function position (some x) := by
    rw [call, found]
  rw [Number.writable_iff_exists_text, value, called, shows]
  rcases function position (some x) with fault | _ | result
  case error =>
    refine iff_of_false (fun returned => ?_) (by simp)
    cases kind : fault.kind with
    | arguments | exhausted | nesting => simp [kind] at returned
    | value | overflow =>
        simp only [kind] at returned
        cases text : x.text? with
        | none =>
            rw [text] at returned
            cases returned
        | some text =>
            rw [text] at returned
            cases returned
  case ok.none => exact iff_of_false (by simp) (by simp)
  case ok.some =>
    cases x.text? with
    | none => exact iff_of_false (by rintro ⟨⟩) (by simp)
    | some text => simp [Except.map]

variable (draws : Draws)

/-- The functions that make whole numbers, under the names they are called by. -/
theorem get?_builtin_rounding :
    (builtin draws).get? "round" = some Function.round ∧
      (builtin draws).get? "floor" = some Function.floor ∧
      (builtin draws).get? "ceil" = some Function.ceil :=
  ⟨rfl, rfl, rfl⟩

/-- The rounding functions leave what rounding makes of a number as it is. -/
theorem value_rounding_of_rounded
    {draws : Draws}
    {x r : Number}
    {position : Option Nat}
    (rounded : (builtin draws).value "round" (some x) position = .ok r)
    {name : String}
    (isRounding : name ∈ ["round", "floor", "ceil"]) :
    (builtin draws).value name (some r) position = .ok r := by
  obtain ⟨round, floor, ceil⟩ := get?_builtin_rounding draws
  obtain ⟨-, made⟩ := (value_eq_ok_iff round x r position).1 rounded
  obtain ⟨value, -, finite, rfl⟩ := (Function.round_eq_ok_iff position x r).1 made
  have valueFinite :=
    isFinite_of_isFinite_add isFinite_signedUnits_half.1 finite
  have writable := writable_floor finite
  simp only [List.mem_cons, List.not_mem_nil, or_false] at isRounding
  rcases isRounding with rfl | rfl | rfl
  · exact
      (value_eq_ok_iff round _ _ position).2
        ⟨writable,
          (Function.round_int_eq_self_iff position _).2
            (halfUp_floor_add_half valueFinite finite)⟩
  · exact (value_eq_ok_iff floor _ _ position).2 ⟨writable, rfl⟩
  · exact (value_eq_ok_iff ceil _ _ position).2 ⟨writable, rfl⟩

/--
Floor and ceiling leave every writable integer as it is.

Rounding does so for the integers up to `2 ^ 52` in size, and beyond them for the even
ones that are values of doubles. It succeeds for every integer that has a double. What it
makes of any number is left alone by all three.
-/
theorem value_rounding_of_integer
    (draws : Draws)
    (position : Option Nat) :
    let call (name : String) (x : Number) : Attempt Number :=
      (builtin draws).value name (some x) position
    (∀ n : Int,
      n.natAbs < 10 ^ digitLimit →
        call "floor" (.int n) = .ok (.int n) ∧
        call "ceil" (.int n) = .ok (.int n) ∧
        (call "round" (.int n) = .ok (.int n) ↔
          n.natAbs ≤ 2 ^ 52 ∨ 2 ∣ n ∧ IsDoubleValue n) ∧
        ((∃ r, call "round" (.int n) = .ok r) ↔
          ∃ value, ofInt? n = some value)) ∧
    ∀ x r,
      call "round" x = .ok r →
        ∀ name ∈ ["round", "floor", "ceil"], call name r = .ok r := by
  obtain ⟨round, floor, ceil⟩ := get?_builtin_rounding draws
  refine ⟨fun n few => ⟨?floor, ?ceil, ?fixed, ?succeeds⟩, ?rounded⟩
  case floor => exact (value_eq_ok_iff floor _ _ position).2 ⟨few, rfl⟩
  case ceil => exact (value_eq_ok_iff ceil _ _ position).2 ⟨few, rfl⟩
  case fixed =>
    rw [value_eq_ok_iff round, ← Function.round_int_eq_self_iff position]
    exact and_iff_right few
  case succeeds =>
    constructor
    · rintro ⟨r, returned⟩
      obtain ⟨-, made⟩ := (value_eq_ok_iff round _ _ position).1 returned
      obtain ⟨value, converted, -⟩ := (Function.round_eq_ok_iff position _ _).1 made
      exact ⟨value, converted⟩
    · rintro ⟨value, converted⟩
      exact
        ⟨_, (value_eq_ok_iff round _ _ position).2
          ⟨few, Function.round_int converted position⟩⟩
  case rounded =>
    intro x r rounded name isRounding
    exact value_rounding_of_rounded rounded isRounding

/-- What rounding makes of two and a half is an integer that is rounded to itself. -/
theorem value_rounding_of_integer_twoAndAHalf :
    let call (name : String) (x : Number) : Attempt Number :=
      (builtin fun _ => 0.5).value name (some x) none
    (3 : Int).natAbs < 10 ^ digitLimit ∧ call "ceil" (.int 3) = .ok (.int 3) ∧
      call "round" (.float 2.5) = .ok (.int 3) ∧
      call "round" (.int 3) = .ok (.int 3) := by
  have few : (3 : Int).natAbs < 10 ^ digitLimit :=
    Nat.lt_trans (by decide : 3 < 2 ^ 2) (two_pow_lt_ten_pow (by decide))
  have isFinite : isFinite (2.5 + 0.5) = true := by decide +kernel
  have isThree : Number.int 3 = .int (Binary64.floor (2.5 + 0.5)) :=
    congrArg Number.int (by decide +kernel)
  have rounded :
      (builtin fun _ => 0.5).value "round" (some (.float 2.5)) none = .ok (.int 3) :=
    (value_eq_ok_iff rfl _ _ none).2
      ⟨trivial, (Function.round_eq_ok_iff none _ _).2 ⟨2.5, rfl, isFinite, isThree⟩⟩
  obtain ⟨integers, again⟩ := value_rounding_of_integer (fun _ => 0.5) none
  exact
    ⟨few, (integers 3 few).2.1, rounded, again _ _ rounded "round" (by decide)⟩

/-- The least odd integer beyond `2 ^ 52` is rounded to the next one. -/
theorem value_round_of_oddInteger :
    (4503599627370497 : Int).natAbs < 10 ^ digitLimit ∧
      (builtin fun _ => 0.5).value "round" (some (.int 4503599627370497)) none =
        .ok (.int 4503599627370498) := by
  have few : (4503599627370497 : Int).natAbs < 10 ^ digitLimit :=
    Nat.lt_trans (by decide : 4503599627370497 < 2 ^ 53)
      (two_pow_lt_ten_pow (by decide))
  have same : nearestSigned 4503599627370497 = 4503599627370497 :=
    nearestSigned_of_natAbs_le (by decide)
  have below : nearest (4503599627370497 : Int).natAbs < 2 ^ integerBits := by
    rw [(nearestSigned_eq_self_iff _).1 same]
    exact
      Nat.lt_trans (by decide : 4503599627370497 < 2 ^ 53)
        (Nat.pow_lt_pow_right (by decide) (by decide))
  obtain ⟨value, converted⟩ := (exists_ofInt?_iff _).2 below
  have rounded := Function.round_int converted none
  rw [same] at rounded
  exact ⟨few, (value_eq_ok_iff rfl _ _ none).2 ⟨few, rounded⟩⟩

end Functions

end Reckoner
