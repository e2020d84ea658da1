import Reckoner.Expression
import Reckoner.Proofs.Evaluation.Containment
import Reckoner.Proofs.Evaluation.Functions
import Reckoner.Proofs.Grammar.Standard

namespace Reckoner

/-!
# Evaluations that contain their exits

With what is asked of the functions and what is known of the operations, every step
of the standard grammar contains its exits. This is the invariant of an evaluation,
and the invariant is what its report can say.
-/

variable {safe : Prop}

namespace Functions

/-- The argument of a call has a text, or it was not known to be writable. -/
theorem contained_shownArgument
    {argument : Option Number}
    (writable : OptionSatisfies (Number.WritableIf safe) argument) :
    Attempt.Satisfies
      (fun text => text = "None" ∨ IsTextOfWritable text)
      (Exit.Contained safe)
      (shownArgument argument) := by
  cases argument with
  | none => exact .ok (Or.inl rfl)
  | some x =>
      exact
        (Arithmetic.contained_shown (writable x rfl)).mono
          (fun _ isText => Or.inr isText) fun _ allowed => allowed

/-- A call is contained if the function is ordinary and keeps numbers writable. -/
theorem contained_value
    {functions : Functions}
    {name : String}
    (ordinary :
      ∀ function,
        functions.get? name = some function →
        function.Ordinary)
    (keepsWritable :
      safe →
      ∀ function,
        functions.get? name = some function →
        function.KeepsWritable)
    {argument : Option Number}
    (writable : OptionSatisfies (Number.WritableIf safe) argument)
    (position : Option Nat) :
    (functions.value name argument position).Contained safe := by
  have shows := contained_shownArgument writable
  unfold value call
  cases found : functions.get? name with
  | none => exact .error trivial
  | some function =>
      dsimp only
      cases called : function position argument with
      | error fault =>
          have reported := ordinary function found position argument fault called
          cases fault with
          | wrongArguments => exact .error trivial
          | exhausted => exact absurd rfl reported.1
          | nesting => exact absurd rfl reported.2
          | _ => exact shows.bind fun _ isText => .error isText
      | ok optional =>
          cases optional with
          | none => exact .error trivial
          | some result =>
              refine shows.map fun _ _ isSafe => ?_
              exact
                keepsWritable isSafe function found position argument result
                  (fun x same => writable x same isSafe) called

end Functions

/-- All numbers bound to names are writable. -/
def Variables.Writable
    (values : Variables) :
    Prop :=
  ∀ name number,
    values.get? name = some number →
    number.Writable

namespace Environment

/-- All functions of an environment are ordinary. -/
def Ordinary
    (environment : Environment) :
    Prop :=
  ∀ name function,
    environment.functions.get? name = some function →
    function.Ordinary

/-- The numbers of an environment are writable, and its functions keep them so. -/
structure KeepsWritable
    (environment : Environment) : Prop where
  values : environment.values.Writable
  functions :
    ∀ name function,
      environment.functions.get? name = some function →
      function.KeepsWritable

end Environment

/-- All numbers that have been assigned are writable. -/
def AssignsWritable
    (assigned : List (String × Number)) :
    Prop :=
  ∀ entry ∈ assigned, entry.2.Writable

/-- The order in which assignments are listed does not matter. -/
theorem AssignsWritable.reverse
    {assigned : List (String × Number)}
    (assigns : AssignsWritable assigned) :
    AssignsWritable assigned.reverse :=
  fun entry member => assigns entry (List.mem_reverse.1 member)

/-- Assignments of writable numbers keep the variables writable. -/
theorem Variables.Writable.insertAll
    {values : Variables}
    (writable : values.Writable)
    {assigned : List (String × Number)}
    (assigns : AssignsWritable assigned) :
    Variables.Writable (values.insertAll assigned) := by
  intro name number found
  rcases Table.mem_of_get?_insertAll found with member | isBefore
  · exact assigns _ member
  · exact writable name number isBefore

/-- A name is bound to a number that was assigned, or bound before. -/
theorem Progress.writable_of_find?
    {progress : Progress}
    {before : Variables}
    (assigns : AssignsWritable progress.assigned)
    (writable : before.Writable)
    {name : String}
    {number : Number}
    (found : progress.find? before name = some number) :
    number.Writable := by
  rw [find?_eq_get?] at found
  exact writable.insertAll assigns.reverse name number found

namespace Evaluator

/-- In the standard grammar every step contains its exits and keeps numbers writable. -/
theorem closed_contained
    {environment : Environment}
    (ordinary : environment.Ordinary)
    (keepsWritable : safe → environment.KeepsWritable) :
    Closed ⟨Grammar.frozenStandard, environment⟩
      (fun _ _ => True)
      (fun progress => safe → AssignsWritable progress.assigned)
      (Number.WritableIf safe)
      (Exit.Contained safe) where
  finds _ _ _ _ _ := trivial
  skips _ assigns _ := assigns
  assigns progress token sign later number assigns writable _ _ _ := by
    intro isSafe entry member
    rcases List.mem_cons.1 member with rfl | isEarlier
    · exact writable isSafe
    · exact assigns isSafe entry isEarlier
  nesting := Or.inl rfl
  unexpectedStart _ _ _ := trivial
  missingOperand _ _ _ := trivial
  unclosedGroup _ _ := trivial
  unclosedCall _ _ _ _ _ := trivial
  reference progress token assigns _ := by
    cases found : progress.find? environment.values token.lexeme with
    | none => exact .error trivial
    | some number =>
        refine .ok fun isSafe => ?_
        exact
          progress.writable_of_find? (assigns isSafe)
            (keepsWritable isSafe).values found
  call token later argument _ writable :=
    Functions.contained_value (ordinary token.lexeme)
      (fun isSafe => (keepsWritable isSafe).functions token.lexeme) writable _
  literal token later read _ known := by
    cases Grammar.standardOpening known with
    | literal => exact (Arithmetic.contained_number _).attributed _
  operator token later operation precedence operand _ known writable := by
    cases Grammar.standardOpening known with
    | sign => exact (Arithmetic.contained_negate writable).attributed _
  binary token later operation precedence associativity left right _ known
      leftWritable rightWritable := by
    cases Grammar.standardContinuation known with
    | sum listed =>
        simp only [sumOperators, List.mem_cons, Prod.mk.injEq,
          List.not_mem_nil, or_false] at listed
        rcases listed with ⟨_, rfl⟩ | ⟨_, rfl⟩
        · exact (Arithmetic.contained_add left right).attributed _
        · exact (Arithmetic.contained_subtract left right).attributed _
    | product listed =>
        simp only [productOperators, List.mem_cons, Prod.mk.injEq,
          List.not_mem_nil, or_false] at listed
        rcases listed with ⟨_, rfl⟩ | ⟨_, rfl⟩ | ⟨_, rfl⟩
        · exact (Arithmetic.contained_multiply left right).attributed _
        · exact (Arithmetic.contained_divide left right).attributed _
        · exact (Arithmetic.contained_modulo left rightWritable).attributed _
    | power => exact (Arithmetic.contained_power left right).attributed _
  trailing token later operation precedence operand _ known writable := by
    cases Grammar.standardContinuation known with
    | factorial => exact (Arithmetic.contained_factorial writable).attributed _

end Evaluator

/-- What is known of a report under the condition that all numbers are writable. -/
structure Report.Contained
    (safe : Prop)
    (report : Report) : Prop where
  fault :
    ∀ {fault},
      report.outcome = .faulted fault →
      fault = .beyondDigits ∧ ¬ safe
  failure :
    ∀ {failure},
      report.outcome = .failed failure →
      failure.cause.ShowsWritable
  value :
    safe →
    ∀ {number},
      report.outcome = .value (some number) →
      number.Writable
  assigned :
    safe →
    AssignsWritable report.assigned

namespace Report.Contained

variable {report : Report}

/-- A failure is contained if it shows writable numbers only. -/
theorem of_failed
    {failure : Failure}
    (outcome : report.outcome = .failed failure)
    (shows : failure.cause.ShowsWritable)
    (assigned : safe → AssignsWritable report.assigned) :
    report.Contained safe where
  fault faulted := by
    rw [outcome] at faulted
    cases faulted
  failure failed := by
    rw [outcome] at failed
    cases failed
    exact shows
  value _ _ valued := by
    rw [outcome] at valued
    cases valued
  assigned := assigned

/-- The only fault that is contained is a number too long to be written. -/
theorem of_faulted
    (outcome : report.outcome = .faulted .beyondDigits)
    (notSafe : ¬ safe) :
    report.Contained safe where
  fault faulted := by
    rw [outcome] at faulted
    cases faulted
    exact ⟨rfl, notSafe⟩
  failure failed := by
    rw [outcome] at failed
    cases failed
  value isSafe := absurd isSafe notSafe
  assigned isSafe := absurd isSafe notSafe

/-- A value is contained if it is writable. -/
theorem of_value
    {optional : Option Number}
    (outcome : report.outcome = .value optional)
    (writable : OptionSatisfies (Number.WritableIf safe) optional)
    (assigned : safe → AssignsWritable report.assigned) :
    report.Contained safe where
  fault faulted := by
    rw [outcome] at faulted
    cases faulted
  failure failed := by
    rw [outcome] at failed
    cases failed
  value isSafe number valued := by
    rw [outcome] at valued
    cases valued
    exact writable number rfl isSafe
  assigned := assigned

end Report.Contained

namespace Expression

/-- Reports in the standard grammar are contained. -/
theorem contained_reportOfTokens
    {environment : Environment}
    (ordinary : environment.Ordinary)
    (keepsWritable : safe → environment.KeepsWritable)
    (levels : Nat)
    (tokens : List Token) :
    (reportOfTokens Grammar.frozenStandard environment levels
      tokens).Contained safe := by
  have leaves :=
    (Evaluator.closed_contained ordinary keepsWritable).complete
      (fun _ _ _ => trivial) levels (Progress.start tokens)
      fun _ _ impossible => by cases impossible
  unfold reportOfTokens
  cases ran :
      (complete ⟨Grammar.frozenStandard, environment⟩ levels).run
        (Progress.start tokens) with
  | ok optional progress =>
      rw [ran] at leaves
      obtain ⟨writable, assigns⟩ := leaves
      exact .of_value rfl writable fun isSafe => (assigns isSafe).reverse
  | error exit progress =>
      rw [ran] at leaves
      obtain ⟨contained, assigns⟩ := leaves
      rcases exit with failure | fault
      · exact .of_failed rfl contained fun isSafe => (assigns isSafe).reverse
      · rcases contained with rfl | ⟨rfl, notSafe⟩
        · exact .of_failed rfl trivial fun isSafe => (assigns isSafe).reverse
        · exact .of_faulted rfl notSafe

/-- A source that is not even cut into tokens is reported as a failure. -/
theorem contained_evaluateWithin
    {environment : Environment}
    (ordinary : environment.Ordinary)
    (keepsWritable : safe → environment.KeepsWritable)
    (levels : Nat)
    (source : String) :
    (evaluateWithin levels Grammar.frozenStandard environment
      source).Contained safe := by
  unfold evaluateWithin
  cases tokenized : tokenize source with
  | ok tokens =>
      exact contained_reportOfTokens ordinary keepsWritable levels tokens
  | error failure =>
      rw [tokenize_eq_tokensFrom] at tokenized
      obtain ⟨lexeme, position, rfl⟩ :=
        Run.exists_malformed_of_tokensFrom tokenized
      exact .of_failed rfl trivial fun _ _ impossible => by cases impossible

end Expression

end Reckoner
