import Reckoner.Number.Order
import Reckoner.Proofs.Evaluation.Session
import Reckoner.Proofs.Syntax.Extension
import Reckoner.Workbench

namespace Reckoner

/-!
# What a source without a value leaves behind

A failure takes all assignments of its source back. A fault does not: what has been
assigned before it stays. In the standard grammar the only fault that leaves an
evaluation is an integer too long to be written. It takes an environment that already
has such an integer, or a function that makes one, and then any call of a function
with it: the argument of a call is written even if no message shows it.
-/

namespace Expression

/--
A source without a value leaves the variables as they were exactly if it fails, or if
the fault that it ends with comes before any assignment that changes something.
-/
theorem unchanged_iff_failed
    {environment : Environment}
    (ordinary : environment.Ordinary)
    (levels : Nat)
    (source : String) :
    let report :=
      evaluateWithin levels Grammar.frozenStandard environment source
    (∀ failure,
      report.outcome = .failed failure →
      report.environment = environment) ∧
      (∀ fault,
        report.outcome = .faulted fault →
        fault = .beyondDigits ∧
          ¬ environment.KeepsWritable ∧
          report.environment = environment.setAll report.assigned) ∧
      ((∀ value, report.outcome ≠ .value value) →
        (report.environment.values = environment.values ↔
          (∃ failure, report.outcome = .failed failure) ∨
            environment.values.insertAll report.assigned =
              environment.values)) ∧
      ∀ workbench calculator,
        Workbench.environment workbench calculator = environment →
        (workbench.evaluate Grammar.frozenStandard calculator
            source).2.environment calculator =
          (evaluate Grammar.frozenStandard environment source).environment := by
  intro report
  have contained : report.Contained environment.KeepsWritable :=
    contained_evaluateWithin ordinary (fun keepsWritable => keepsWritable)
      levels source
  have failed :
      ∀ failure,
        report.outcome = .failed failure →
        report.environment = environment :=
    fun _ => environment_of_failed
  have faulted :
      ∀ fault,
        report.outcome = .faulted fault →
        report.environment = environment.setAll report.assigned :=
    fun _ => environment_of_faulted
  refine ⟨failed, fun fault outcome => ?_, fun noValue => ?_, ?_⟩
  · obtain ⟨isBeyondDigits, notWritable⟩ := contained.fault outcome
    exact ⟨isBeyondDigits, notWritable, faulted fault outcome⟩
  · cases outcome : report.outcome with
    | value value => exact absurd outcome (noValue value)
    | failed failure =>
        rw [failed failure outcome]
        exact ⟨fun _ => Or.inl ⟨failure, rfl⟩, fun _ => rfl⟩
    | faulted fault =>
        rw [faulted fault outcome]
        constructor
        · intro unchanged
          exact Or.inr unchanged
        · intro unchanged
          rcases unchanged with ⟨_, impossible⟩ | unchanged
          · cases impossible
          · exact unchanged
  · rintro workbench calculator rfl
    exact workbench.environment_evaluate Grammar.frozenStandard calculator source

end Expression

/-- The tree of `(y=1)+z`. -/
def Tree.assignedThenUndefined : Tree :=
  .between
    (.group ⟨.symbol, "(", 0⟩
      (.assignment ⟨.identifier, "y", 1⟩ ⟨.symbol, "=", 2⟩
        (.literal ⟨.number, "1", 3⟩ Arithmetic.number))
      ⟨.symbol, ")", 4⟩)
    ⟨.symbol, "+", 5⟩ Arithmetic.add .sum .left
    (.reference ⟨.identifier, "z", 6⟩)

/-- An assignment is taken back when a variable behind it is undefined. -/
theorem Expression.unchanged_iff_failed_assignedThenUndefined :
    let report :=
      evaluateWithin 3 Grammar.frozenStandard Environment.empty "(y=1)+z"
    report.outcome = .failed ⟨.undefinedVariable "z", some 6⟩ ∧
      report.environment = Environment.empty := by
  intro report
  have ordinary : Environment.empty.Ordinary :=
    fun _ _ found => by cases found
  have isOver : Tree.assignedThenUndefined.Over Grammar.frozenStandard :=
    ⟨⟨rfl, ⟨rfl, rfl, rfl⟩, rfl⟩, rfl, rfl⟩
  have shaped : Tree.assignedThenUndefined.Shaped :=
    ⟨trivial, trivial, trivial, trivial⟩
  have tokenized :
      tokenize "(y=1)+z" = .ok Tree.assignedThenUndefined.tokens := rfl
  have result :
      report.result = Tree.assignedThenUndefined.result Environment.empty :=
    Tree.result_evaluateWithin Grammar.regular_frozenStandard isOver shaped
      Environment.empty (by decide) tokenized
  have failed :
      Tree.assignedThenUndefined.result Environment.empty =
        (.failed ⟨.undefinedVariable "z", some 6⟩, Environment.empty) := rfl
  have outcome :
      report.outcome = .failed ⟨.undefinedVariable "z", some 6⟩ :=
    (Report.eq_of_result (result.trans failed)).1
  exact
    ⟨outcome,
      (Expression.unchanged_iff_failed ordinary 3 "(y=1)+z").1 _ outcome⟩

/-- The environment of an integer and a function to double it. -/
def Environment.doubling
    (n : Int) :
    Environment :=
  ⟨Table.ofList [("x", .int n)], Table.ofList [("double", Function.double)]⟩

namespace Environment

/-- Doubling has a result, or it is called without an argument. -/
theorem ordinary_doubling
    (n : Int) :
    (doubling n).Ordinary := by
  intro name function found
  have member := Table.mem_of_get?_ofList found
  simp only [List.mem_cons, Prod.mk.injEq, List.not_mem_nil,
    or_false] at member
  obtain ⟨_, rfl⟩ := member
  apply Function.ordinary_unary (fun _ => False)
  intro x
  exact .ok False.elim

/-- The argument of the doubling must be writable; its result need not be. -/
theorem value_doubling
    (m n : Int)
    (position : Option Nat) :
    (doubling m).functions.value "double" (some (.int n)) position =
      (Arithmetic.shown (.int n)).map fun _ => .int (n * 2) :=
  rfl

end Environment

namespace Tree

/-- The tree of `(y = 1) + double(double(x))`. -/
def doubledTwice : Tree :=
  .between
    (.group ⟨.symbol, "(", 0⟩
      (.assignment ⟨.identifier, "y", 1⟩ ⟨.symbol, "=", 3⟩
        (.literal ⟨.number, "1", 5⟩ Arithmetic.number))
      ⟨.symbol, ")", 6⟩)
    ⟨.symbol, "+", 8⟩ Arithmetic.add .sum .left
    (.call ⟨.identifier, "double", 10⟩ ⟨.symbol, "(", 16⟩
      (.call ⟨.identifier, "double", 17⟩ ⟨.symbol, "(", 23⟩
        (.reference ⟨.identifier, "x", 24⟩)
        ⟨.symbol, ")", 25⟩)
      ⟨.symbol, ")", 26⟩)

/-- An integer that is writable only before it is doubled makes the second call fault. -/
theorem result_doubledTwice
    {n : Int}
    (fits : Number.isWritable n = true)
    (tooLong : Number.isWritable (n * 2) = false) :
    doubledTwice.result (Environment.doubling n) =
      (.faulted .beyondDigits, (Environment.doubling n).set "y" (.int 1)) := by
  have literal : Arithmetic.number "1" = .ok (.int 1) := rfl
  have bound :
      ((Environment.doubling n).values.insert "y" (.int 1)).get? "x" =
        some (.int n) := rfl
  have inner :
      ∀ position,
        (Environment.doubling n).functions.value "double" (some (.int n))
          position = .ok (.int (n * 2)) := by
    intro position
    rw [Environment.value_doubling, Arithmetic.shown, Number.text?,
      if_pos fits]
    rfl
  have outer :
      ∀ position,
        (Environment.doubling n).functions.value "double"
          (some (.int (n * 2))) position = .error (.fault .beyondDigits) := by
    intro position
    rw [Environment.value_doubling, Arithmetic.shown, Number.text?,
      if_neg (by simp [tooLong])]
    rfl
  have evaluated :
      (doubledTwice.evaluate (Environment.doubling n).functions).run
          (Environment.doubling n).values =
        .error (.fault .beyondDigits)
          ((Environment.doubling n).values.insert "y" (.int 1)) := by
    simp [doubledTwice, evaluate, literal, inner, outer, bound, boundValue,
      Meaning.ofOperation, Meaning.ofAttempt]
  rw [result, evaluated]
  rfl

end Tree

/-- The largest integer that can be written. -/
def Number.largestWritable : Nat :=
  Nat.pow 10 digitLimit - 1

/-- Some integers beyond one can be written. -/
theorem Number.one_lt_pow_digitLimit :
    1 < Nat.pow 10 digitLimit := by
  have grows : ∀ digits, digits ≠ 0 → 1 < Nat.pow 10 digits :=
    fun _ positive => Nat.one_lt_pow positive (by decide)
  exact grows digitLimit (by decide)

/-- The largest integer that can be written can be written. -/
theorem Number.isWritable_largestWritable :
    isWritable largestWritable = true := by
  have large := one_lt_pow_digitLimit
  unfold isWritable largestWritable
  generalize Nat.pow 10 digitLimit = limit at large
  rw [decide_eq_true_iff]
  omega

/-- Twice the largest integer that can be written cannot be written. -/
theorem Number.not_isWritable_double_largestWritable :
    isWritable (largestWritable * 2) = false := by
  have large := one_lt_pow_digitLimit
  unfold isWritable largestWritable
  generalize Nat.pow 10 digitLimit = limit at large
  rw [decide_eq_false_iff_not]
  omega

/-- A fault after an assignment that is not taken back. -/
theorem Expression.changed_of_doubledTwice :
    let environment := Environment.doubling Number.largestWritable
    let report :=
      evaluate Grammar.frozenStandard environment
        "(y = 1) + double(double(x))"
    environment.Ordinary ∧
      report.outcome = .faulted .beyondDigits ∧
      environment.values.get? "y" = none ∧
      report.environment.values.get? "y" = some (.int 1) := by
  intro environment report
  have isOver : Tree.doubledTwice.Over Grammar.frozenStandard :=
    ⟨⟨rfl, ⟨rfl, rfl, rfl⟩, rfl⟩, rfl, rfl, rfl, ⟨rfl, rfl, rfl, rfl⟩, rfl⟩
  have shaped : Tree.doubledTwice.Shaped :=
    ⟨trivial, trivial, trivial, trivial⟩
  have tokenized :
      tokenize "(y = 1) + double(double(x))" =
        .ok Tree.doubledTwice.tokens := rfl
  have result : report.result = Tree.doubledTwice.result environment :=
    Tree.result_evaluateWithin Grammar.regular_frozenStandard isOver shaped
      environment (by decide) tokenized
  have faulted :
      Tree.doubledTwice.result environment =
        (.faulted .beyondDigits, environment.set "y" (.int 1)) :=
    Tree.result_doubledTwice Number.isWritable_largestWritable
      Number.not_isWritable_double_largestWritable
  obtain ⟨outcome, after⟩ := Report.eq_of_result (result.trans faulted)
  refine ⟨Environment.ordinary_doubling _, outcome, rfl, ?_⟩
  rw [after]
  rfl

end Reckoner
