import Reckoner.Proofs.Evaluation.Invariant
import Reckoner.Proofs.Number.Size

namespace Reckoner

/-!
# What can leave an evaluation

Operations and functions may fail, and a failure is reported. A fault is not, and
there is only one that the standard grammar can raise by itself: a number with too
many digits was to be written. So the exits of an evaluation are contained as long as
all numbers are writable.

The statements carry this condition as a proposition `safe`. If it is true, no fault
is left but that of nesting too deep, which is reported as a failure as well; if it
is false, nothing is known about the numbers, and what remains is which faults there
can be.
-/

/-- The text of a number that has few enough digits to be written. -/
def IsTextOfWritable
    (text : String) :
    Prop :=
  ∃ x : Number, x.Writable ∧ x.text? = some text

/-- The numbers that a cause shows are writable. -/
def Cause.ShowsWritable : Cause → Prop
  | .callUndefined _ argument _ =>
      argument = "None" ∨ IsTextOfWritable argument
  | .factorialOfFraction operand => IsTextOfWritable operand
  | .factorialOfNegative operand => IsTextOfWritable operand
  | .factorialTooLarge operand => IsTextOfWritable operand
  | _ => True

/-- A failure that shows writable numbers only, or one of two faults. -/
def Exit.Contained
    (safe : Prop) :
    Exit →
    Prop
  | .failure reported => reported.cause.ShowsWritable
  | .fault raised => raised = .nesting ∨ (raised = .beyondDigits ∧ ¬ safe)

/-- A number that is writable if all numbers are known to be. -/
def Number.WritableIf
    (safe : Prop)
    (x : Number) :
    Prop :=
  safe → x.Writable

/-- An attempt whose number is writable and whose exit is contained. -/
def Attempt.Contained
    (safe : Prop)
    (attempt : Attempt Number) :
    Prop :=
  attempt.Satisfies (Number.WritableIf safe) (Exit.Contained safe)

variable {safe : Prop}

/-- A position does not change what an exit is. -/
theorem Exit.Contained.attributedTo
    {exit : Exit}
    (contained : exit.Contained safe)
    (position : Nat) :
    (exit.attributedTo position).Contained safe := by
  rcases exit with ⟨⟨cause, place⟩⟩ | raised
  · cases place with
    | none => exact contained
    | some known => exact contained
  · exact contained

/-- A failure that shows writable numbers only is contained. -/
theorem Attempt.contained_unplaced
    {cause : Cause}
    (shows : cause.ShowsWritable) :
    Attempt.Contained safe (.error (.unplaced cause)) :=
  .error shows

/-- A double is writable. -/
theorem Attempt.contained_float
    (x : Float) :
    Attempt.Contained safe (.ok (.float x)) :=
  .ok fun _ => trivial

/-- A contained attempt stays contained if its failure gets a position. -/
theorem Attempt.Contained.attributed
    {attempt : Attempt Number}
    (contained : attempt.Contained safe)
    (position : Nat) :
    attempt.Satisfies (Number.WritableIf safe)
      fun exit => (exit.attributedTo position).Contained safe :=
  contained.mono (fun _ given => given)
    fun _ allowed => allowed.attributedTo position

namespace Arithmetic

/-- A number has a text, or it was not known to be writable. -/
theorem contained_shown
    {x : Number}
    (writable : x.WritableIf safe) :
    Attempt.Satisfies IsTextOfWritable (Exit.Contained safe) (shown x) := by
  unfold shown
  cases found : x.text? with
  | some text =>
      have writes : x.Writable :=
        (Number.writable_iff_exists_text x).2 ⟨text, found⟩
      exact .ok ⟨x, writes, found⟩
  | none =>
      refine .error (Or.inr ⟨rfl, fun isSafe => ?_⟩)
      obtain ⟨text, shown⟩ :=
        (Number.writable_iff_exists_text x).1 (writable isSafe)
      rw [found] at shown
      cases shown

/-- An operand has a double, or the operation fails. -/
theorem contained_operandFloat
    (symbol : String)
    (x : Number) :
    Attempt.Satisfies (fun _ => True) (Exit.Contained safe)
      (operandFloat symbol x) := by
  unfold operandFloat
  cases x.toFloat? with
  | some value => exact .ok trivial
  | none => exact .error trivial

/-- A numeral that is read is writable. -/
theorem contained_number
    (lexeme : String) :
    (number lexeme).Contained safe := by
  unfold number
  cases read : Numeral.number? lexeme with
  | some value => exact .ok fun _ => Numeral.writable_of_number? read
  | none => exact Attempt.contained_unplaced trivial

/-- The opposite of an integer has as many digits. -/
theorem contained_negate
    {x : Number}
    (writable : x.WritableIf safe) :
    (negate x).Contained safe := by
  cases x with
  | int n =>
      refine .ok fun isSafe => ?_
      change (-n).natAbs < 10 ^ digitLimit
      rw [Int.natAbs_neg]
      exact writable isSafe
  | float x => exact Attempt.contained_float _

/-- A bounded integer is writable. -/
theorem contained_bounded
    (symbol : String)
    (n : Int) :
    (bounded symbol n).Contained safe := by
  unfold bounded
  split
  case isTrue => exact Attempt.contained_unplaced trivial
  case isFalse within =>
    exact .ok fun _ => writable_of_bitLength (Nat.not_lt.1 within)

/-- An operation is contained if it is on integers; its doubles are writable. -/
theorem contained_mixed
    (symbol : String)
    {onIntegers : Int → Int → Attempt Number}
    {onFloats : Float → Float → Attempt Number}
    {left right : Number}
    (integersContained :
      ∀ a b,
        left = .int a →
        right = .int b →
        (onIntegers a b).Contained safe)
    (floatsContained : ∀ x y, (onFloats x y).Contained safe) :
    (mixed symbol onIntegers onFloats left right).Contained safe := by
  unfold mixed
  split
  case h_1 a b => exact integersContained a b rfl rfl
  case h_2 =>
    refine
      (contained_operandFloat symbol left).bind fun x _ =>
        (contained_operandFloat symbol right).bind fun y _ =>
          floatsContained x y

/-- Sums, differences and products are bounded. -/
theorem contained_add
    (left right : Number) :
    (add left right).Contained safe :=
  contained_mixed "+" (fun _ _ _ _ => contained_bounded "+" _)
    fun _ _ => Attempt.contained_float _

theorem contained_subtract
    (left right : Number) :
    (subtract left right).Contained safe :=
  contained_mixed "-" (fun _ _ _ _ => contained_bounded "-" _)
    fun _ _ => Attempt.contained_float _

theorem contained_multiply
    (left right : Number) :
    (multiply left right).Contained safe :=
  contained_mixed "*" (fun _ _ _ _ => contained_bounded "*" _)
    fun _ _ => Attempt.contained_float _

/-- The quotient of integers is a double, or too large. -/
theorem contained_integerQuotient
    (a b : Int) :
    (integerQuotient a b).Contained safe := by
  unfold integerQuotient
  generalize Binary64.ofQuotient? _ _ _ = quotient
  cases quotient with
  | some x => exact Attempt.contained_float x
  | none => exact Attempt.contained_unplaced trivial

/-- A quotient is a double. -/
theorem contained_divide
    (left right : Number) :
    (divide left right).Contained safe := by
  unfold divide
  split
  case isTrue => exact Attempt.contained_unplaced trivial
  case isFalse =>
    exact
      contained_mixed "/" (fun a b _ _ => contained_integerQuotient a b)
        fun _ _ => Attempt.contained_float _

/-- A remainder is no larger than the divisor. -/
theorem contained_modulo
    (left : Number)
    {right : Number}
    (writable : right.WritableIf safe) :
    (modulo left right).Contained safe := by
  unfold modulo
  split
  case isTrue => exact Attempt.contained_unplaced trivial
  case isFalse nonzero =>
    refine
      contained_mixed "%" (fun a b _ isInteger => .ok fun isSafe => ?_)
        fun _ _ => Attempt.contained_float _
    subst isInteger
    have divisorNonzero : b ≠ 0 := by
      simpa [Number.isZero] using nonzero
    exact
      Nat.lt_of_le_of_lt (natAbs_fmod_le a divisorNonzero)
        (writable isSafe)

/-- A power of a positive double is a double, or too large. -/
theorem contained_positivePower
    (base exponent : Float) :
    Attempt.Satisfies (fun _ => True) (Exit.Contained safe)
      (positivePower base exponent) := by
  unfold positivePower
  dsimp only
  split
  case isTrue => exact .error trivial
  split
  case isTrue => exact .error trivial
  case isFalse => exact .ok trivial

/-- A power of doubles is a double, or fails. -/
theorem contained_floatPower
    (base exponent : Float) :
    (floatPower base exponent).Contained safe := by
  have positive :
      Attempt.Satisfies (fun _ => True) (Exit.Contained safe)
        (positivePower
          (Binary64.ofPattern false (Binary64.pattern base)) exponent) :=
    contained_positivePower _ _
  unfold floatPower
  dsimp only
  split
  case isTrue => exact Attempt.contained_float _
  split
  case isTrue => exact Attempt.contained_float _
  split
  case isTrue => exact Attempt.contained_float _
  split
  case isTrue => exact Attempt.contained_float _
  split
  case isTrue => exact Attempt.contained_float _
  split
  case isTrue =>
    split
    case isTrue => exact Attempt.contained_unplaced trivial
    case isFalse => exact Attempt.contained_float _
  split
  case isTrue =>
    exact positive.bind fun _ _ => Attempt.contained_unplaced trivial
  split
  case isTrue => exact Attempt.contained_float _
  case isFalse => exact positive.map fun _ _ _ => trivial

/-- A power that is computed in doubles is a double, or fails. -/
theorem contained_powerInFloats
    (base exponent : Number) :
    (powerInFloats base exponent).Contained safe :=
  (contained_operandFloat "^" base).bind fun x _ =>
    (contained_operandFloat "^" exponent).bind fun y _ =>
      contained_floatPower x y

/-- A power of integers is exact only if it is writable. -/
theorem contained_power
    (base exponent : Number) :
    (power base exponent).Contained safe := by
  unfold power
  split
  case h_1 base exponent =>
    split
    case isTrue => exact contained_powerInFloats _ _
    case isFalse nonnegative =>
      split
      case isTrue => exact contained_powerInFloats _ _
      case isFalse within =>
        refine .ok fun _ => writable_integerPower fun large => ?_
        have few : (bitLength base : Int) * exponent ≤ bitLimit :=
          Int.not_lt.1 fun many => within ⟨large, many⟩
        have isNatural : (exponent.toNat : Int) = exponent :=
          Int.toNat_of_nonneg (Int.not_lt.1 nonnegative)
        rw [← isNatural] at few
        exact Int.ofNat_le.1 (by simpa using few)
  case h_2 => exact contained_powerInFloats _ _

/-- A failure that shows an operand is contained. -/
theorem contained_bind_shown
    {x : Number}
    (writable : x.WritableIf safe)
    (cause : String → Cause)
    (shows :
      ∀ operand,
        IsTextOfWritable operand →
        (cause operand).ShowsWritable) :
    Attempt.Contained safe
      ((shown x).bind fun operand => .error (.unplaced (cause operand))) :=
  (contained_shown writable).bind fun operand isText =>
    Attempt.contained_unplaced (shows operand isText)

/-- A factorial is writable, or fails with the text of its operand. -/
theorem contained_integerFactorial
    {n : Int}
    (writable : (Number.int n).WritableIf safe) :
    (integerFactorial n).Contained safe := by
  unfold integerFactorial
  split
  case isTrue =>
    exact
      contained_bind_shown writable .factorialOfNegative
        fun _ isText => isText
  split
  case isTrue =>
    exact
      contained_bind_shown writable .factorialTooLarge
        fun _ isText => isText
  case isFalse within =>
    refine .ok fun _ => writable_naturalFactorial ?_
    exact Int.toNat_le.2 (Int.not_lt.1 within)

/-- A factorial of a number is contained, also that of a whole double. -/
theorem contained_factorial
    {x : Number}
    (writable : x.WritableIf safe) :
    (factorial x).Contained safe := by
  cases x with
  | int n => exact contained_integerFactorial writable
  | float x =>
      unfold factorial
      dsimp only
      split
      case isTrue whole =>
        refine contained_integerFactorial fun _ => ?_
        simp only [Binary64.isWhole, Bool.and_eq_true] at whole
        exact Binary64.writable_floor whole.1
      case isFalse =>
        exact
          contained_bind_shown writable .factorialOfFraction
            fun _ isText => isText

end Arithmetic

end Reckoner
