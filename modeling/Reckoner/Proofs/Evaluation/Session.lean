import Reckoner.Proofs.Evaluation.Safety

namespace Reckoner

/-!
# Sessions of clean reports

Sources are evaluated one after another, and each finds the variables that the one
before has left behind. With the functions every calculator starts with, and as long
as the variables were writable at first, no source ever makes a fault escape, and
every number that is stored, returned or shown can be written. The invariant of a
session is that its variables are writable.
-/

/-- A report of a value or a failure, with numbers that can be written. -/
structure Report.Clean
    (report : Report) : Prop where
  returned :
    ∀ fault,
      report.outcome ≠ .faulted fault
  writable :
    ∀ number,
      report.outcome = .value (some number) →
      number.Writable
  displayed :
    ∀ number,
      report.outcome = .value (some number) →
      ∃ text, number.display? = some text
  shows :
    ∀ failure,
      report.outcome = .failed failure →
      failure.cause.ShowsWritable
  assigned :
    AssignsWritable report.assigned
  stored :
    report.environment.values.Writable

/-- The constants every calculator starts with are doubles. -/
theorem Variables.writable_builtin :
    Variables.builtin.Writable := by
  intro name number found
  have member := Table.mem_of_get?_ofList found
  simp only [List.mem_cons, Prod.mk.injEq, List.not_mem_nil,
    or_false] at member
  rcases member with ⟨_, rfl⟩ | ⟨_, rfl⟩
  · trivial
  · trivial

namespace Expression

/-- One source is reported cleanly if the variables are writable. -/
theorem clean_evaluateWithin
    (levels : Nat)
    {values : Variables}
    (writable : values.Writable)
    (draws : Draws)
    (source : String) :
    (evaluateWithin levels Grammar.frozenStandard
      ⟨values, Functions.builtin draws⟩ source).Clean := by
  have ordinary :
      Environment.Ordinary ⟨values, Functions.builtin draws⟩ :=
    fun _ _ found => (Functions.safe_builtin found).ordinary
  have keepsWritable :
      Environment.KeepsWritable ⟨values, Functions.builtin draws⟩ :=
    ⟨writable, fun _ _ found =>
      (Functions.safe_builtin found).keepsWritable⟩
  have contained :
      (evaluateWithin levels Grammar.frozenStandard
        ⟨values, Functions.builtin draws⟩ source).Contained True :=
    contained_evaluateWithin ordinary (fun _ => keepsWritable) levels source
  have after :=
    environment_evaluateWithin levels Grammar.frozenStandard
      ⟨values, Functions.builtin draws⟩ source
  generalize evaluateWithin levels Grammar.frozenStandard
    ⟨values, Functions.builtin draws⟩ source = report at contained after
  have kept : Variables.Writable (values.insertAll report.assigned) :=
    writable.insertAll (contained.assigned trivial)
  exact {
    returned := fun fault faulted => (contained.fault faulted).2 trivial
    writable := fun number valued => contained.value trivial valued
    displayed := fun number valued =>
      (contained.value trivial valued).exists_display
    shows := fun failure failed => contained.failure failed
    assigned := contained.assigned trivial
    stored := by
      rw [after]
      cases report.outcome with
      | value optional => exact kept
      | failed failure => exact writable
      | faulted fault => exact kept
  }

/--
The reports of inputs that are evaluated one after another, each with the variables
that the one before has left behind and with draws of its own.
-/
def reports
    (levels : Nat) :
    Variables →
    List Input →
    List Report
  | _, [] => []
  | values, input :: rest =>
      let report :=
        evaluateWithin levels Grammar.frozenStandard
          ⟨values, Functions.builtin input.draws⟩ input.text
      report :: reports levels report.environment.values rest

/-- There is one report of each input. -/
@[simp]
theorem length_reports
    (levels : Nat)
    (values : Variables)
    (inputs : List Input) :
    (reports levels values inputs).length = inputs.length := by
  induction inputs generalizing values with
  | nil => rfl
  | cons input rest inductionHypothesis =>
      exact congrArg Nat.succ (inductionHypothesis _)

/-- From writable variables on, every input of a session is reported cleanly. -/
theorem clean_of_mem_reports
    {levels : Nat}
    {values : Variables}
    (writable : values.Writable)
    {inputs : List Input}
    {report : Report}
    (member : report ∈ reports levels values inputs) :
    report.Clean := by
  induction inputs generalizing values with
  | nil => cases member
  | cons input rest inductionHypothesis =>
      have clean := clean_evaluateWithin levels writable input.draws input.text
      rcases List.mem_cons.1 member with rfl | isLater
      · exact clean
      · exact inductionHypothesis clean.stored isLater

/-- Each of two calls of `rnd` in a source has a draw of its own. -/
theorem clean_of_mem_reports_assignment :
    let draws : Draws := fun site => if site = some 0 then 0.5 else 0.25
    let first :=
      evaluateWithin 490 Grammar.frozenStandard
        ⟨Variables.builtin, Functions.builtin draws⟩ "x=3"
    let second :=
      evaluateWithin 490 Grammar.frozenStandard
        ⟨first.environment.values, Functions.builtin draws⟩ "rnd()-rnd()"
    second.outcome = .value (some (.float (0.5 - 0.25))) ∧
      first.Clean ∧
      second.Clean := by
  intro draws first second
  have course :
      reports 490 Variables.builtin [⟨"x=3", draws⟩, ⟨"rnd()-rnd()", draws⟩] =
        [first, second] := by
    simp only [reports, first, second]
  have clean :
      ∀ report ∈ [first, second],
        report.Clean := by
    intro report member
    rw [← course] at member
    exact clean_of_mem_reports Variables.writable_builtin member
  have tokenized :
      tokenize "rnd()-rnd()" =
        .ok [
          ⟨.identifier, "rnd", 0⟩, ⟨.symbol, "(", 3⟩, ⟨.symbol, ")", 4⟩,
          ⟨.symbol, "-", 5⟩, ⟨.identifier, "rnd", 6⟩, ⟨.symbol, "(", 9⟩,
          ⟨.symbol, ")", 10⟩
        ] :=
    rfl
  have outcome : second.outcome = .value (some (.float (0.5 - 0.25))) := by
    simp only [second, evaluateWithin_of_tokenized tokenized]
    rfl
  exact
    ⟨outcome, clean first List.mem_cons_self,
      clean second (List.mem_cons_of_mem _ List.mem_cons_self)⟩

end Expression

end Reckoner
