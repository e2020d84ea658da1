import Reckoner.Expression

namespace Reckoner

/-!
# A workbench of calculators

A calculator evaluates sources one after another in its environment, so that the
assignments of one source are visible to the next. Several calculators may share
one environment; then each sees the assignments of the others.

A workbench keeps environments, the calculators that work in them by name, and
saved copies of variables. A calculator that is used without having been opened
starts in the initial environment.
-/

/-- Environments and the calculators that work in them. -/
structure Workbench where
  initial : Environment
  environments : Array Environment
  calculators : Table String Nat
  saved : Table String Variables

namespace Workbench

/-- The workbench without calculators. -/
def empty
    (initial : Environment) :
    Workbench :=
  ⟨initial, #[], Table.empty, Table.empty⟩

/-- Open a calculator in an environment of its own. -/
def openIn
    (workbench : Workbench)
    (name : String)
    (environment : Environment) :
    Workbench :=
  {
    workbench with
    environments := workbench.environments.push environment
    calculators :=
      workbench.calculators.insert name workbench.environments.size
  }

/-- The environment a calculator works in, if it has been opened. -/
def find?
    (workbench : Workbench)
    (name : String) :
    Option Environment :=
  (workbench.calculators.get? name).bind fun index =>
    workbench.environments[index]?

/-- Make sure that a calculator has been opened. -/
def ensure
    (workbench : Workbench)
    (name : String) :
    Workbench :=
  if (workbench.find? name).isSome then
    workbench
  else
    workbench.openIn name workbench.initial

/-- The environment a calculator works in, or would start in. -/
def environment
    (workbench : Workbench)
    (name : String) :
    Environment :=
  (workbench.find? name).getD workbench.initial

/-- After it has been ensured, a calculator works in one of the environments. -/
theorem exists_index_ensure
    (workbench : Workbench)
    (name : String) :
    ∃ index,
      (workbench.ensure name).calculators.get? name = some index ∧
        index < (workbench.ensure name).environments.size := by
  unfold ensure
  split
  case isTrue opened =>
    obtain ⟨environment, found⟩ := Option.isSome_iff_exists.1 opened
    obtain ⟨index, known, present⟩ := Option.bind_eq_some_iff.1 found
    exact ⟨index, known, (Array.getElem?_eq_some_iff.1 present).1⟩
  case isFalse =>
    refine ⟨workbench.environments.size, ?_, ?_⟩
    · simp [openIn]
    · simp [openIn]

/-- Change the environment a calculator works in, for all who share it. -/
def update
    (workbench : Workbench)
    (name : String)
    (environment : Environment) :
    Workbench :=
  let opened := workbench.ensure name
  match opened.calculators.get? name with
  | none => opened
  | some index =>
      {
        opened with
        environments := opened.environments.setIfInBounds index environment
      }

/-- A calculator works in the environment it was given last. -/
@[simp] theorem environment_update
    (workbench : Workbench)
    (name : String)
    (environment : Environment) :
    (workbench.update name environment).environment name = environment := by
  obtain ⟨index, known, within⟩ := exists_index_ensure workbench name
  simp [update, Workbench.environment, find?, known, within]

/-- A calculator that has been opened works in the environment that is found. -/
theorem environment_of_find?
    {workbench : Workbench}
    {name : String}
    {environment : Environment}
    (opened : workbench.find? name = some environment) :
    workbench.environment name = environment := by
  rw [Workbench.environment, opened, Option.getD_some]

/-- A calculator that has been opened stays where it is. -/
theorem ensure_of_find?
    {workbench : Workbench}
    {name : String}
    {environment : Environment}
    (opened : workbench.find? name = some environment) :
    workbench.ensure name = workbench := by
  rw [ensure, opened]
  rfl

/-- Changing the environment of an open calculator changes one entry. -/
theorem exists_update_eq
    {workbench : Workbench}
    {name : String}
    {environment : Environment}
    (opened : workbench.find? name = some environment)
    (changed : Environment) :
    ∃ index,
      workbench.calculators.get? name = some index ∧
        workbench.environments[index]? = some environment ∧
        workbench.update name changed =
          {
            workbench with
            environments :=
              workbench.environments.setIfInBounds index changed
          } := by
  obtain ⟨index, known, present⟩ := Option.bind_eq_some_iff.1 opened
  refine ⟨index, known, present, ?_⟩
  rw [update, ensure_of_find? opened]
  simp only [known]

/-- Giving a calculator the environment that it has changes nothing. -/
theorem update_of_find?
    {workbench : Workbench}
    {name : String}
    {environment : Environment}
    (opened : workbench.find? name = some environment) :
    workbench.update name environment = workbench := by
  obtain ⟨index, _, present, updated⟩ := exists_update_eq opened environment
  obtain ⟨within, rfl⟩ := Array.getElem?_eq_some_iff.1 present
  rw [updated, Array.setIfInBounds_def, dif_pos within,
    Array.set_getElem_self]

/-- The environment of an open calculator is changed for those who share it. -/
theorem find?_update
    {workbench : Workbench}
    {name other : String}
    {environment : Environment}
    (opened : workbench.find? name = some environment)
    (changed : Environment)
    {otherEnvironment : Environment}
    (otherOpened : workbench.find? other = some otherEnvironment) :
    (workbench.update name changed).find? other = some changed ∨
      (workbench.update name changed).find? other = some otherEnvironment := by
  obtain ⟨index, known, present, updated⟩ := exists_update_eq opened changed
  obtain ⟨otherIndex, otherKnown, otherPresent⟩ :=
    Option.bind_eq_some_iff.1 otherOpened
  rw [updated]
  simp only [find?, otherKnown, Option.bind_some,
    Array.getElem?_setIfInBounds]
  split
  case isTrue same =>
    subst same
    have within := (Array.getElem?_eq_some_iff.1 present).1
    exact Or.inl (if_pos within)
  case isFalse => exact Or.inr otherPresent

/-- Open a calculator in the environment of another one. -/
def share
    (workbench : Workbench)
    (name other : String) :
    Workbench :=
  let opened := workbench.ensure other
  match opened.calculators.get? other with
  | none => opened
  | some index =>
      { opened with calculators := opened.calculators.insert name index }

/-- Evaluate a source with a calculator. -/
def evaluate
    (workbench : Workbench)
    (grammar : Grammar)
    (name source : String) :
    Report × Workbench :=
  let report :=
    Expression.evaluate grammar (workbench.environment name) source
  (report, workbench.update name report.environment)

/-- A calculator goes on with the environment of its report. -/
theorem environment_evaluate
    (workbench : Workbench)
    (grammar : Grammar)
    (name source : String) :
    (workbench.evaluate grammar name source).2.environment name =
      (workbench.evaluate grammar name source).1.environment :=
  environment_update workbench name _

/-- Save the variables of a calculator under a label. -/
def save
    (workbench : Workbench)
    (name label : String) :
    Workbench :=
  let opened := workbench.ensure name
  {
    opened with
    saved := opened.saved.insert label (opened.environment name).values
  }

/-- Give a calculator the variables saved under a label. -/
def restore
    (workbench : Workbench)
    (name label : String) :
    Workbench :=
  match workbench.saved.get? label with
  | none => workbench
  | some values =>
      workbench.update name
        { workbench.environment name with values := values }

end Workbench

end Reckoner
