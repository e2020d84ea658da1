import Reckoner.Environment
import Reckoner.Proofs.Evaluation.Functions
import Reckoner.Proofs.Number.Finite

namespace Reckoner

/-!
# Operations on finite numbers

A number is finite if it is an integer or a finite double. Operations that make integers,
bound their results or check them leave finite numbers finite. A power is lost only where
the power function of the platform gives no number for a size and an exponent that are
finite, and a logarithm only where its logarithm is not finite; a draw stays in the unit
interval. What is left is where doubles overflow without a check: numerals with a point,
sums, differences, products and quotients.
-/

/-- Whether a number is an integer or a finite double. -/
def Number.isFinite : Number → Bool
  | .int _ => true
  | .float x => Binary64.isFinite x

/-- The result of an attempt is finite, if there is one. -/
def Attempt.Finite
    (attempt : Attempt Number) :
    Prop :=
  attempt.Satisfies (fun result => result.isFinite = true) fun _ => True

/-- The size of a double: the double without its sign. -/
def Binary64.size
    (x : Float) :
    Float :=
  ofPattern false (pattern x)

/-- The platform has no number for some power of the size of a double. -/
def Arithmetic.LosesPower : Prop :=
  ∃ base exponent,
    Binary64.isFinite base = true ∧
      Binary64.isFinite exponent = true ∧
      Binary64.isNaN (Float.pow (Binary64.size base) exponent) = true

namespace Number

variable {x : Number} {value : Float}

/-- A finite number has a finite double, if it has one. -/
theorem isFinite_of_toFloat?
    (finite : x.isFinite = true)
    (converted : x.toFloat? = some value) :
    Binary64.isFinite value = true := by
  cases x with
  | int n => exact Binary64.isFinite_of_ofQuotient? converted
  | float x =>
      cases converted
      exact finite

/-- A number other than zero has a double other than zero. -/
theorem pattern_ne_zero_of_toFloat?
    (nonzero : ¬x.isZero = true)
    (converted : x.toFloat? = some value) :
    Binary64.pattern value ≠ 0 := by
  cases x with
  | int n =>
      exact
        Binary64.pattern_ne_zero_of_ofInt? (by simpa [isZero] using nonzero)
          converted
  | float x =>
      cases converted
      simpa [isZero] using nonzero

end Number

namespace Arithmetic

variable {x left right : Number}

/-- The double of a finite operand is finite. -/
theorem satisfies_operandFloat
    (symbol : String)
    (finite : x.isFinite = true) :
    Attempt.Satisfies
      (fun value => x.toFloat? = some value ∧ Binary64.isFinite value = true)
      (fun _ => True) (operandFloat symbol x) := by
  unfold operandFloat
  cases converted : x.toFloat? with
  | some value =>
      exact .ok ⟨rfl, Number.isFinite_of_toFloat? finite converted⟩
  | none => exact .error trivial

/-- The opposite of a finite number is finite. -/
theorem finite_negate
    (finite : x.isFinite = true) :
    (negate x).Finite := by
  cases x with
  | int n => exact .ok rfl
  | float x => exact .ok (Binary64.isFinite_neg finite)

/-- The remainder of finite numbers is finite. -/
theorem finite_modulo
    (leftFinite : left.isFinite = true)
    (rightFinite : right.isFinite = true) :
    (modulo left right).Finite := by
  unfold modulo
  split
  case isTrue => exact .error trivial
  case isFalse nonzero =>
    unfold mixed
    split
    case h_1 => exact .ok rfl
    case h_2 =>
      refine (satisfies_operandFloat "%" leftFinite).bind fun x ⟨_, xFinite⟩ => ?_
      refine
        (satisfies_operandFloat "%" rightFinite).bind
          fun y ⟨converted, yFinite⟩ => ?_
      exact
        .ok
          (Binary64.isFinite_flooredRemainder xFinite yFinite
            (Number.pattern_ne_zero_of_toFloat? nonzero converted))

/-- A factorial is an integer. -/
theorem finite_integerFactorial
    (n : Int) :
    (integerFactorial n).Finite := by
  have refused
      (cause : String → Cause) :
      Attempt.Finite
        ((shown (.int n)).bind fun operand =>
          .error (.unplaced (cause operand))) := by
    cases shown (.int n) with
    | ok operand => exact .error trivial
    | error exit => exact .error trivial
  unfold integerFactorial
  split
  case isTrue => exact refused _
  case isFalse =>
    split
    case isTrue => exact refused _
    case isFalse => exact .ok rfl

/-- A factorial is an integer, also that of a whole double. -/
theorem finite_factorial
    (x : Number) :
    (factorial x).Finite := by
  cases x with
  | int n => exact finite_integerFactorial n
  | float x =>
      unfold factorial
      dsimp only
      split
      case isTrue => exact finite_integerFactorial _
      case isFalse =>
        cases shown (.float x) with
        | ok operand => exact .error trivial
        | error exit => exact .error trivial

/-- The power of the size of a double is finite, unless the platform has no number for it. -/
theorem satisfies_positivePower
    {base exponent : Float}
    (baseFinite : Binary64.isFinite base = true)
    (exponentFinite : Binary64.isFinite exponent = true) :
    Attempt.Satisfies
      (fun power => Binary64.isFinite power = true ∨ LosesPower)
      (fun _ => True) (positivePower (Binary64.size base) exponent) := by
  unfold positivePower
  dsimp only
  split
  case isTrue => exact .error trivial
  case isFalse =>
    split
    case isTrue => exact .error trivial
    case isFalse bounded =>
      refine .ok ?_
      by_cases lost :
          Binary64.isNaN (Float.pow (Binary64.size base) exponent) = true
      · exact .inr ⟨base, exponent, baseFinite, exponentFinite, lost⟩
      · exact .inl (Binary64.isFinite_of_neither lost bounded)

/-- A power of finite doubles is finite, unless the platform has no number for one. -/
theorem satisfies_floatPower
    {base exponent : Float}
    (baseFinite : Binary64.isFinite base = true)
    (exponentFinite : Binary64.isFinite exponent = true) :
    Attempt.Satisfies (fun result => result.isFinite = true ∨ LosesPower)
      (fun _ => True) (floatPower base exponent) := by
  obtain ⟨baseNumber, baseBounded⟩ := Binary64.neither_of_isFinite baseFinite
  obtain ⟨exponentNumber, exponentBounded⟩ :=
    Binary64.neither_of_isFinite exponentFinite
  have powers := satisfies_positivePower baseFinite exponentFinite
  rw [Binary64.size] at powers
  unfold floatPower
  simp only [baseNumber, exponentNumber, baseBounded, exponentBounded,
    Bool.false_eq_true, if_false]
  split
  case isTrue => exact .ok (.inl (by decide +kernel))
  split
  case isTrue =>
    split
    case isTrue => exact .error trivial
    case isFalse => exact .ok (.inl (Binary64.isFinite_ofPattern _ (by decide)))
  split
  case isTrue => exact powers.bind fun _ _ => .error trivial
  split
  case isTrue =>
    refine .ok (.inl ?_)
    split
    · decide +kernel
    · decide +kernel
  case isFalse =>
    refine powers.map fun power satisfied => satisfied.imp_left fun finite => ?_
    split
    · exact Binary64.isFinite_neg finite
    · exact finite

/-- A power of finite numbers is finite, unless the platform has no number for one. -/
theorem satisfies_power
    (leftFinite : left.isFinite = true)
    (rightFinite : right.isFinite = true) :
    Attempt.Satisfies (fun result => result.isFinite = true ∨ LosesPower)
      (fun _ => True) (power left right) := by
  have inFloats :
      Attempt.Satisfies (fun result => result.isFinite = true ∨ LosesPower)
        (fun _ => True) (powerInFloats left right) :=
    (satisfies_operandFloat "^" leftFinite).bind fun _ ⟨_, xFinite⟩ =>
      (satisfies_operandFloat "^" rightFinite).bind fun _ ⟨_, yFinite⟩ =>
        satisfies_floatPower xFinite yFinite
  unfold power
  split
  case h_1 base exponent =>
    split
    case isTrue => exact inFloats
    case isFalse =>
      split
      case isTrue => exact inFloats
      case isFalse => exact .ok (.inl rfl)
  case h_2 => exact inFloats

end Arithmetic

namespace Function

/-- A function makes finite numbers from finite arguments. -/
def KeepsFinite
    (function : Function) :
    Prop :=
  ∀ site argument result,
    OptionSatisfies (fun x => x.isFinite = true) argument →
    function site argument = .ok (some result) →
    result.isFinite = true

/-- A function of one argument keeps numbers finite if its results are finite. -/
theorem keepsFinite_unary
    {body : Number → Except Fault Number}
    (finite :
      ∀ x result,
        x.isFinite = true →
        body x = .ok result →
        result.isFinite = true) :
    (unary body).KeepsFinite := by
  intro site argument result argumentFinite called
  cases argument with
  | none => cases called
  | some x =>
      change (body x).map some = .ok (some result) at called
      cases made : body x with
      | ok given =>
          rw [made] at called
          cases called
          exact finite x result (argumentFinite x rfl) made
      | error fault =>
          rw [made] at called
          cases called

/-- An integer part is an integer. -/
theorem isFinite_of_integerOf
    {integerPart : Float → Int}
    {x : Float}
    {result : Number}
    (made : integerOf integerPart x = .ok result) :
    result.isFinite = true := by
  unfold integerOf at made
  split at made
  · cases made
  · split at made
    · cases made
    · cases made
      rfl

theorem keepsFinite_floor : floor.KeepsFinite := by
  refine keepsFinite_unary fun x result _ made => ?_
  cases x with
  | int n =>
      cases made
      rfl
  | float x => exact isFinite_of_integerOf made

theorem keepsFinite_ceil : ceil.KeepsFinite := by
  refine keepsFinite_unary fun x result _ made => ?_
  cases x with
  | int n =>
      cases made
      rfl
  | float x => exact isFinite_of_integerOf made

theorem keepsFinite_round : round.KeepsFinite := by
  refine keepsFinite_unary fun x result _ made => ?_
  rcases argumentFloat_eq x with ⟨value, same⟩ | same
  · rw [same] at made
    exact isFinite_of_integerOf made
  · rw [same] at made
    cases made

theorem keepsFinite_sign : sign.KeepsFinite := by
  refine keepsFinite_unary fun x result _ made => ?_
  cases x with
  | int n =>
      cases made
      rfl
  | float x =>
      cases made
      rfl

/-- The double of a finite argument is finite. -/
theorem isFinite_of_argumentFloat
    {x : Number}
    {value : Float}
    (finite : x.isFinite = true)
    (converted : argumentFloat x = .ok value) :
    Binary64.isFinite value = true := by
  unfold argumentFloat at converted
  split at converted
  case h_1 found =>
    cases converted
    exact Number.isFinite_of_toFloat? finite found
  case h_2 => cases converted

/-- A function that checks its results does not make infinities of finite arguments. -/
theorem keepsFinite_ofFloats
    (body : Float → Float) :
    (ofFloats body).KeepsFinite := by
  refine keepsFinite_unary fun x result finite made => ?_
  cases converted : argumentFloat x with
  | error fault =>
      rw [converted] at made
      cases made
  | ok value =>
      rw [converted] at made
      have valueFinite := isFinite_of_argumentFloat finite converted
      obtain ⟨isNumber, _⟩ := Binary64.neither_of_isFinite valueFinite
      change withinDomain value (body value) = .ok result at made
      unfold withinDomain at made
      split at made
      case isTrue => cases made
      case isFalse inside =>
        split at made
        case isTrue => cases made
        case isFalse bounded =>
          cases made
          have resultNumber : ¬Binary64.isNaN (body value) = true := fun lost =>
            inside ⟨lost, by simp [isNumber]⟩
          have resultBounded : ¬Binary64.isInfinite (body value) = true :=
            fun infinite => bounded ⟨infinite, valueFinite⟩
          exact Binary64.isFinite_of_neither resultNumber resultBounded

/-- A draw from the unit interval, or from its opposite. -/
structure IsDraw
    (draw : Float) :
    Prop where
  finite : Binary64.isFinite draw = true
  small : Binary64.units draw ≤ Binary64.unitsPerOne

/-- A draw that is scaled is no larger than the scale. -/
theorem keepsFinite_scaledDraw
    {draws : Draws}
    (areDraws : ∀ site, IsDraw (draws site)) :
    (scaledDraw draws).KeepsFinite := by
  intro site argument result finite called
  cases argument with
  | none =>
      cases called
      exact (areDraws site).finite
  | some scale =>
      change Except.map _ (argumentFloat scale) = _ at called
      cases converted : argumentFloat scale with
      | error fault =>
          rw [converted] at called
          cases called
      | ok factor =>
          rw [converted] at called
          cases called
          exact
            Binary64.isFinite_mul (areDraws site).finite
              (isFinite_of_argumentFloat (finite scale rfl) converted)
              (areDraws site).small

end Function

/-- The functions every calculator starts with keep numbers finite, apart from `log`. -/
theorem Functions.keepsFinite_builtin
    {draws : Draws}
    (areDraws : ∀ site, Function.IsDraw (draws site))
    {name : String}
    {function : Function}
    (found : (Functions.builtin draws).get? name = some function) :
    function.KeepsFinite ∨ name = "log" ∧ function = Function.log := by
  have member := Table.mem_of_get?_ofList found
  simp only [List.mem_cons, Prod.mk.injEq, List.not_mem_nil,
    or_false] at member
  rcases member with ⟨_, rfl⟩ | ⟨_, rfl⟩ | ⟨_, rfl⟩ | ⟨_, rfl⟩ | ⟨rfl, rfl⟩ |
    ⟨_, rfl⟩ | ⟨_, rfl⟩ | ⟨_, rfl⟩ | ⟨_, rfl⟩ | ⟨_, rfl⟩ | ⟨_, rfl⟩ |
    ⟨_, rfl⟩ | ⟨_, rfl⟩
  · exact .inl (Function.keepsFinite_scaledDraw areDraws)
  · exact .inl Function.keepsFinite_round
  · exact .inl Function.keepsFinite_floor
  · exact .inl Function.keepsFinite_ceil
  · exact .inr ⟨rfl, rfl⟩
  · exact .inl Function.keepsFinite_sign
  all_goals exact .inl (Function.keepsFinite_ofFloats _)

end Reckoner
