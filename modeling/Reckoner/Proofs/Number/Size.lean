import Mathlib.Algebra.Group.Int.Defs
import Mathlib.Algebra.Group.Nat.Defs
import Reckoner.Number.Functions

namespace Reckoner

/-!
# The sizes of integers

A number is writable if it is a double or an integer with few enough digits to have
a text. The integers that the calculator makes by itself come from few places: the
bounded operations, powers, factorials, remainders, numerals and the integer parts
of doubles. Each of them is far below the limit, or no larger than its operands.
-/

namespace Number

/-- An integer with few enough digits to be written, or a double. -/
def Writable : Number → Prop
  | .int n => n.natAbs < 10 ^ digitLimit
  | .float _ => True

/-- The writable numbers are those that have a text. -/
theorem writable_iff_exists_text
    (x : Number) :
    x.Writable ↔ ∃ text, x.text? = some text := by
  cases x with
  | int n =>
      by_cases small : n.natAbs < 10 ^ digitLimit
      · simp [Writable, text?, isWritable, small]
      · simp [Writable, text?, isWritable, small]
  | float x => exact ⟨fun _ => ⟨_, rfl⟩, fun _ => trivial⟩

end Number

/-- Few enough binary digits make few enough decimal ones. -/
theorem two_pow_lt_ten_pow
    {bits : Nat}
    (within : bits ≤ Arithmetic.bitLimit) :
    2 ^ bits < 10 ^ digitLimit := by
  have enough : bits ≤ 3 * (digitLimit - 1) :=
    Nat.le_trans within (by decide)
  calc
    2 ^ bits ≤ 2 ^ (3 * (digitLimit - 1)) :=
      Nat.pow_le_pow_right (by decide) enough
    _ = (2 ^ 3) ^ (digitLimit - 1) := Nat.pow_mul 2 3 (digitLimit - 1)
    _ ≤ 10 ^ (digitLimit - 1) := Nat.pow_le_pow_left (by decide) _
    _ < 10 ^ digitLimit := Nat.pow_lt_pow_right (by decide) (by decide)

namespace Arithmetic

/-- An integer is below the power of two that its bits allow. -/
theorem natAbs_lt_two_pow_bitLength
    (n : Int) :
    n.natAbs < 2 ^ bitLength n := by
  unfold bitLength
  by_cases isZero : n = 0
  · simp [isZero]
  · rw [if_neg isZero]
    exact Nat.lt_log2_self

/-- An integer within the limit of bits is writable. -/
theorem writable_of_bitLength
    {n : Int}
    (within : bitLength n ≤ bitLimit) :
    (Number.int n).Writable :=
  Nat.lt_trans (natAbs_lt_two_pow_bitLength n) (two_pow_lt_ten_pow within)

/-- An integer of at most one in size is writable. -/
theorem writable_of_natAbs_le_one
    {n : Int}
    (small : n.natAbs ≤ 1) :
    (Number.int n).Writable :=
  Nat.lt_of_le_of_lt small
    (Nat.one_lt_pow (by decide) (by decide))

/-- A power is writable if the bits of its base times the exponent are few. -/
theorem writable_integerPower
    {base : Int}
    {exponent : Nat}
    (within : 1 < base.natAbs → bitLength base * exponent ≤ bitLimit) :
    (Number.int (integerPower base exponent)).Writable := by
  unfold integerPower
  split
  case isTrue => exact writable_of_natAbs_le_one (Nat.le_refl _)
  case isFalse =>
    split
    case isTrue small =>
      split
      case isTrue =>
        refine writable_of_natAbs_le_one ?_
        rw [Int.natAbs_mul]
        exact Nat.mul_le_mul small small
      case isFalse => exact writable_of_natAbs_le_one small
    case isFalse large =>
      have few := within (Nat.not_le.1 large)
      have bounded :
          (base ^ exponent).natAbs ≤ 2 ^ (bitLength base * exponent) := by
        rw [Int.natAbs_pow, Nat.pow_mul]
        exact
          Nat.pow_le_pow_left
            (Nat.le_of_lt (natAbs_lt_two_pow_bitLength base)) exponent
      exact Nat.lt_of_le_of_lt bounded (two_pow_lt_ten_pow few)

/-- A factorial is a product of factors that are no larger than the last one. -/
theorem naturalFactorial_le_pow
    {n largest : Nat}
    (within : n ≤ largest) :
    naturalFactorial n ≤ largest ^ n := by
  induction n with
  | zero => exact Nat.le_refl _
  | succ n inductionHypothesis =>
      have smaller := inductionHypothesis (Nat.le_of_succ_le within)
      rw [naturalFactorial, Nat.pow_succ, Nat.mul_comm]
      exact Nat.mul_le_mul smaller within

/-- The factorials up to the limit are writable. -/
theorem writable_naturalFactorial
    {n : Nat}
    (within : n ≤ factorialLimit) :
    (Number.int (naturalFactorial n)).Writable := by
  change naturalFactorial n < 10 ^ digitLimit
  calc
    naturalFactorial n ≤ factorialLimit ^ n :=
      naturalFactorial_le_pow within
    _ = 10 ^ (3 * n) := (Nat.pow_mul 10 3 n).symm
    _ ≤ 10 ^ (3 * factorialLimit) :=
      Nat.pow_le_pow_right (by decide) (Nat.mul_le_mul_left 3 within)
    _ < 10 ^ digitLimit := Nat.pow_lt_pow_right (by decide) (by decide)

/-- A floored remainder is no larger than the divisor. -/
theorem natAbs_fmod_le
    (dividend : Int)
    {divisor : Int}
    (nonzero : divisor ≠ 0) :
    (Int.fmod dividend divisor).natAbs ≤ divisor.natAbs := by
  have nonnegative := Int.emod_nonneg dividend nonzero
  have below := Int.emod_lt dividend nonzero
  rw [Int.fmod_eq_emod]
  split
  · omega
  · omega

end Arithmetic

namespace Numeral

/-- Digits after a value make it longer by their number. -/
theorem foldl_digits_lt
    (digits : List Nat)
    (isDigit : ∀ digit ∈ digits, digit < 10)
    (value : Nat) :
    digits.foldl (fun value digit => 10 * value + digit) value <
      (value + 1) * 10 ^ digits.length := by
  induction digits generalizing value with
  | nil => simp
  | cons digit rest inductionHypothesis =>
      have below : digit < 10 := isDigit digit List.mem_cons_self
      have restIsDigit : ∀ digit ∈ rest, digit < 10 :=
        fun other member => isDigit other (List.mem_cons_of_mem digit member)
      calc
        (digit :: rest).foldl (fun value digit => 10 * value + digit) value
          < (10 * value + digit + 1) * 10 ^ rest.length :=
            inductionHypothesis restIsDigit (10 * value + digit)
        _ ≤ ((value + 1) * 10) * 10 ^ rest.length :=
            Nat.mul_le_mul_right _ (by omega)
        _ = (value + 1) * 10 ^ (digit :: rest).length := by
            rw [Nat.mul_assoc, List.length_cons, Nat.pow_succ']

/-- A number has no more digits than it is written with. -/
theorem ofDigits_lt
    {digits : List Nat}
    (isDigit : ∀ digit ∈ digits, digit < 10) :
    ofDigits digits < 10 ^ digits.length := by
  have below := foldl_digits_lt digits isDigit 0
  rwa [Nat.zero_add, Nat.one_mul] at below

/-- The values of characters that are decimals are digits. -/
theorem lt_ten_of_mapM
    {characters : List Char}
    {digits : List Nat}
    (read : characters.mapM Text.decimalValue? = some digits) :
    ∀ digit ∈ digits, digit < 10 := by
  induction characters generalizing digits with
  | nil =>
      cases read
      intro digit impossible
      cases impossible
  | cons character rest inductionHypothesis =>
      rw [List.mapM_cons] at read
      obtain ⟨first, firstRead, read⟩ := Option.bind_eq_some_iff.1 read
      obtain ⟨others, othersRead, read⟩ := Option.bind_eq_some_iff.1 read
      cases read
      intro digit member
      rcases List.mem_cons.1 member with rfl | isOther
      · exact Text.decimalValue?_lt_ten firstRead
      · exact inductionHypothesis othersRead digit isOther

/-- An integer that is read from a text is writable. -/
theorem writable_of_bareInteger?
    {characters : List Char}
    {n : Int}
    (read : bareInteger? characters = some n) :
    (Number.int n).Writable := by
  unfold bareInteger? at read
  generalize splitSign characters = signed at read
  rcases signed with ⟨negative, rest⟩
  obtain ⟨digits, digitsRead, read⟩ := Option.bind_eq_some_iff.1 read
  unfold digitValues? at digitsRead
  split at digitsRead
  case isTrue => cases digitsRead
  case isFalse =>
    have isDigit := lt_ten_of_mapM digitsRead
    split at read
    case isFalse => cases read
    case isTrue few =>
      have below : ofDigits digits < 10 ^ digitLimit :=
        Nat.lt_of_lt_of_le (ofDigits_lt isDigit)
          (Nat.pow_le_pow_right (by decide) few)
      cases read
      change Int.natAbs _ < 10 ^ digitLimit
      split
      · rw [Int.natAbs_neg]
        exact below
      · exact below

/-- Whatever a text denotes is writable. -/
theorem writable_of_number?
    {text : String}
    {number : Number}
    (read : number? text = some number) :
    number.Writable := by
  unfold number? at read
  split at read
  case isTrue =>
    obtain ⟨value, _, rfl⟩ := Option.map_eq_some_iff.1 read
    trivial
  case isFalse =>
    obtain ⟨value, valueRead, rfl⟩ := Option.map_eq_some_iff.1 read
    obtain ⟨characters, _, bare⟩ := Option.bind_eq_some_iff.1 valueRead
    exact writable_of_bareInteger? bare

end Numeral

namespace Binary64

/-- The bits of the largest finite double in least units. -/
def largestBits : Nat :=
  53 + 2045

/-- A finite double has few enough least units. -/
theorem units_lt
    {x : Float}
    (finite : isFinite x = true) :
    units x < 2 ^ largestBits := by
  have below : pattern x < 2047 * 2 ^ 52 := of_decide_eq_true finite
  unfold units Magnitude.ofPattern Magnitude.units
  simp only [Nat.pow_eq]
  split
  case isTrue subnormal =>
    have grows : ∀ bits, 53 < bits → 2 ^ 53 < 2 ^ bits :=
      fun _ more => Nat.pow_lt_pow_right (by decide) more
    rw [Nat.pow_zero, Nat.mul_one]
    exact Nat.lt_trans subnormal (grows largestBits (by decide))
  case isFalse =>
    have significand : 2 ^ 52 + pattern x % 2 ^ 52 < 2 ^ 53 := by omega
    have shift : pattern x / 2 ^ 52 - 1 ≤ 2045 := by omega
    calc
      (2 ^ 52 + pattern x % 2 ^ 52) * 2 ^ (pattern x / 2 ^ 52 - 1)
        < 2 ^ 53 * 2 ^ (pattern x / 2 ^ 52 - 1) :=
          Nat.mul_lt_mul_of_pos_right significand
            (Nat.pow_pos (by decide))
      _ = 2 ^ (53 + (pattern x / 2 ^ 52 - 1)) := (Nat.pow_add _ _ _).symm
      _ ≤ 2 ^ largestBits :=
          Nat.pow_le_pow_right (by decide) (Nat.add_le_add_left shift 53)

/-- An integer that is no larger than the units of a finite double is writable. -/
theorem writable_of_natAbs_le_units
    {x : Float}
    (finite : isFinite x = true)
    {n : Int}
    (within : n.natAbs ≤ units x) :
    (Number.int n).Writable := by
  have few : 2 ^ largestBits < 10 ^ digitLimit :=
    two_pow_lt_ten_pow (by decide)
  exact Nat.lt_of_le_of_lt within (Nat.lt_trans (units_lt finite) few)

/-- The sign does not change the size of the units. -/
theorem natAbs_signedUnits
    (x : Float) :
    (signedUnits x).natAbs = units x := by
  unfold signedUnits
  split
  · rw [Int.natAbs_neg, Int.natAbs_natCast]
  · rw [Int.natAbs_natCast]

/-- The floor of a finite double is writable. -/
theorem writable_floor
    {x : Float}
    (finite : isFinite x = true) :
    (Number.int (floor x)).Writable := by
  refine writable_of_natAbs_le_units finite ?_
  rw [← natAbs_signedUnits]
  exact Int.natAbs_ediv_le_natAbs _ _

/-- The ceiling of a finite double is writable. -/
theorem writable_ceil
    {x : Float}
    (finite : isFinite x = true) :
    (Number.int (ceil x)).Writable := by
  refine writable_of_natAbs_le_units finite ?_
  unfold ceil
  rw [Int.natAbs_neg, ← natAbs_signedUnits, ← Int.natAbs_neg (signedUnits x)]
  exact Int.natAbs_ediv_le_natAbs _ _

/-- A double that is neither without a value nor infinite is finite. -/
theorem isFinite_of_neither
    {x : Float}
    (isNumber : ¬ isNaN x = true)
    (bounded : ¬ isInfinite x = true) :
    isFinite x = true := by
  simp only [isNaN, isInfinite, isFinite, decide_eq_true_eq] at *
  omega

end Binary64

namespace Number

/-- Every writable number can be displayed. -/
theorem Writable.exists_display
    {x : Number}
    (writable : x.Writable) :
    ∃ text, x.display? = some text := by
  cases x with
  | int n =>
      unfold display?
      exact (writable_iff_exists_text _).1 writable
  | float x =>
      unfold display?
      cases plain : plainInteger? x with
      | none =>
          simp only [plain]
          exact ⟨_, rfl⟩
      | some n =>
          simp only [plain]
          unfold plainInteger? at plain
          split at plain
          case isFalse => cases plain
          case isTrue whole =>
            cases plain
            have finite : Binary64.isFinite x = true := by
              have isWhole := whole.1
              simp only [Binary64.isWhole, Bool.and_eq_true] at isWhole
              exact isWhole.1
            exact
              (writable_iff_exists_text _).1 (Binary64.writable_floor finite)

end Number

end Reckoner
