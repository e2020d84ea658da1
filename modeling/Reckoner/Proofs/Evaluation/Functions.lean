import Reckoner.Proofs.Evaluation.Invariant
import Reckoner.Proofs.Number.Size

namespace Reckoner

/-!
# What is asked of a function

Functions come from outside, so two things are asked of them: their faults are such
that a call turns them into failures, and they make no number too long to be written
out of numbers that are not. The functions that every calculator starts with satisfy
both.
-/

/-- A fault that a call turns into a failure. -/
def Fault.IsReported
    (fault : Fault) :
    Prop :=
  fault ≠ .exhausted ∧ fault ≠ .nesting

instance
    (fault : Fault) :
    Decidable fault.IsReported :=
  inferInstanceAs (Decidable (_ ∧ _))

namespace Function

/-- All faults of a function are reported. -/
def Ordinary
    (function : Function) :
    Prop :=
  ∀ site argument fault,
    function site argument = .error fault →
    fault.IsReported

/-- A function makes writable numbers from writable arguments. -/
def KeepsWritable
    (function : Function) :
    Prop :=
  ∀ site argument result,
    OptionSatisfies Number.Writable argument →
    function site argument = .ok (some result) →
    result.Writable

/-- An answer that is writable under a condition, or a fault that is reported. -/
inductive Answers
    (condition : Prop) :
    Except Fault Number →
    Prop where
  | ok
      {result : Number}
      (writable : condition → result.Writable) :
      Answers condition (.ok result)
  | error
      {fault : Fault}
      (reported : fault.IsReported) :
      Answers condition (.error fault)

/-- A function of one argument is ordinary if its answers are. -/
theorem ordinary_unary
    (condition : Number → Prop)
    {body : Number → Except Fault Number}
    (answers : ∀ x, Answers (condition x) (body x)) :
    (unary body).Ordinary := by
  intro site argument fault called
  cases argument with
  | none =>
      cases called
      decide
  | some x =>
      have answer := answers x
      change (body x).map some = .error fault at called
      generalize body x = given at answer called
      cases answer with
      | ok => cases called
      | error reported =>
          cases called
          exact reported

/-- A function of one argument keeps numbers writable if its answers are. -/
theorem keepsWritable_unary
    {body : Number → Except Fault Number}
    (answers : ∀ x, Answers x.Writable (body x)) :
    (unary body).KeepsWritable := by
  intro site argument result writable called
  cases argument with
  | none => cases called
  | some x =>
      have answer := answers x
      change (body x).map some = .ok (some result) at called
      generalize body x = given at answer called
      cases answer with
      | ok writes =>
          cases called
          exact writes (writable x rfl)
      | error => cases called

/-- The only reason for an argument to have no double is its size. -/
theorem argumentFloat_eq
    (x : Number) :
    (∃ value, argumentFloat x = .ok value) ∨
      argumentFloat x = .error .beyondFloats := by
  unfold argumentFloat
  cases x.toFloat? with
  | some value => exact Or.inl ⟨value, rfl⟩
  | none => exact Or.inr rfl

/-- A step on the double of an argument answers if it answers for all doubles. -/
theorem answers_argumentFloat
    {condition : Prop}
    {next : Float → Except Fault Number}
    (answers : ∀ value, Answers condition (next value))
    (x : Number) :
    Answers condition ((argumentFloat x).bind next) := by
  rcases argumentFloat_eq x with ⟨value, same⟩ | same
  · rw [same]
    exact answers value
  · rw [same]
    exact .error (by decide)

/-- A double within the domain is an answer. -/
theorem answers_withinDomain
    {condition : Prop}
    (argument result : Float) :
    Answers condition (withinDomain argument result) := by
  unfold withinDomain
  split
  case isTrue => exact .error (by decide)
  split
  case isTrue => exact .error (by decide)
  case isFalse => exact .ok fun _ => trivial

/-- An integer part of a double is an answer if it is writable. -/
theorem answers_integerOf
    {condition : Prop}
    {integerPart : Float → Int}
    (writable :
      ∀ x,
        Binary64.isFinite x = true →
        (Number.int (integerPart x)).Writable)
    (x : Float) :
    Answers condition (integerOf integerPart x) := by
  unfold integerOf
  split
  case isTrue => exact .error (by decide)
  case isFalse isNumber =>
    split
    case isTrue => exact .error (by decide)
    case isFalse bounded =>
      exact .ok fun _ =>
        writable x (Binary64.isFinite_of_neither isNumber bounded)

/-- An ordinary function that keeps numbers writable. -/
structure Safe
    (function : Function) : Prop where
  ordinary : function.Ordinary
  keepsWritable : function.KeepsWritable

/-- A function of one argument is safe if its answers are. -/
theorem safe_unary
    {body : Number → Except Fault Number}
    (answers : ∀ x, Answers x.Writable (body x)) :
    (unary body).Safe :=
  ⟨ordinary_unary Number.Writable answers, keepsWritable_unary answers⟩

theorem safe_ofFloats
    (body : Float → Float) :
    (ofFloats body).Safe :=
  safe_unary fun x =>
    answers_argumentFloat (fun _ => answers_withinDomain _ _) x

theorem safe_floor : floor.Safe := by
  refine safe_unary fun x => ?_
  cases x with
  | int n => exact .ok fun writable => writable
  | float x => exact answers_integerOf (fun _ => Binary64.writable_floor) x

theorem safe_ceil : ceil.Safe := by
  refine safe_unary fun x => ?_
  cases x with
  | int n => exact .ok fun writable => writable
  | float x => exact answers_integerOf (fun _ => Binary64.writable_ceil) x

theorem safe_round : round.Safe :=
  safe_unary fun x =>
    answers_argumentFloat
      (fun _ => answers_integerOf (fun _ => Binary64.writable_floor) _) x

/-- Signs are of at most one in size. -/
theorem safe_sign : sign.Safe := by
  refine safe_unary fun x => ?_
  cases x with
  | int n =>
      have small : n.sign.natAbs ≤ 1 := by
        rcases Int.lt_trichotomy n 0 with negative | rfl | positive
        · rw [Int.sign_eq_neg_one_of_neg negative]
          decide
        · decide
        · rw [Int.sign_eq_one_of_pos positive]
          decide
      exact .ok fun _ => Arithmetic.writable_of_natAbs_le_one small
  | float x =>
      refine .ok fun _ => Arithmetic.writable_of_natAbs_le_one ?_
      split
      case isTrue => decide
      split
      case isTrue => decide
      case isFalse => decide

theorem safe_log : log.Safe := by
  refine safe_unary fun x => ?_
  cases x with
  | int n =>
      dsimp only
      split
      case isTrue => exact .error (by decide)
      case isFalse => exact .ok fun _ => trivial
  | float x =>
      dsimp only
      split
      case isTrue => exact .error (by decide)
      case isFalse => exact .ok fun _ => trivial

/-- A scaled draw is a double, or the scale is too large for one. -/
theorem safe_scaledDraw
    (draws : Draws) :
    (scaledDraw draws).Safe where
  ordinary := by
    intro site argument fault called
    cases argument with
    | none => cases called
    | some scale =>
        change Except.map _ (argumentFloat scale) = _ at called
        rcases argumentFloat_eq scale with ⟨value, same⟩ | same
        · rw [same] at called
          cases called
        · rw [same] at called
          cases called
          decide
  keepsWritable := by
    intro site argument result _ called
    cases argument with
    | none =>
        cases called
        trivial
    | some scale =>
        change Except.map _ (argumentFloat scale) = _ at called
        rcases argumentFloat_eq scale with ⟨value, same⟩ | same
        · rw [same] at called
          cases called
          trivial
        · rw [same] at called
          cases called

end Function

/-- The functions every calculator starts with are safe. -/
theorem Functions.safe_builtin
    {draws : Draws}
    {name : String}
    {function : Function}
    (found : (Functions.builtin draws).get? name = some function) :
    function.Safe := by
  have member := Table.mem_of_get?_ofList found
  simp only [List.mem_cons, Prod.mk.injEq, List.not_mem_nil,
    or_false] at member
  rcases member with ⟨_, rfl⟩ | ⟨_, rfl⟩ | ⟨_, rfl⟩ | ⟨_, rfl⟩ | ⟨_, rfl⟩ |
    ⟨_, rfl⟩ | ⟨_, rfl⟩ | ⟨_, rfl⟩ | ⟨_, rfl⟩ | ⟨_, rfl⟩ | ⟨_, rfl⟩ |
    ⟨_, rfl⟩ | ⟨_, rfl⟩
  · exact Function.safe_scaledDraw draws
  · exact Function.safe_round
  · exact Function.safe_floor
  · exact Function.safe_ceil
  · exact Function.safe_log
  · exact Function.safe_sign
  all_goals exact Function.safe_ofFloats _

end Reckoner
