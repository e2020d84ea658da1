import Reckoner.CommandLine.Session
import Reckoner.Proofs.Evaluation.Display
import Reckoner.Proofs.Evaluation.Frame
import Reckoner.Proofs.Evaluation.Session

namespace Reckoner

/-!
# The course of a session

A session evaluates inputs one after another, as a calculator does that has the functions
of every calculator. Its variables stay writable if those of the settings are. So the only
fault that can leave an evaluation is a number too long to be written, and only if the
settings hold one.
-/

/-- The functions that are called for an input, with its text. -/
def Input.call
    (input : Input) :
    Functions × String :=
  (Functions.builtin input.draws, input.text)

namespace Expression

/-- The variables after inputs have been evaluated one after another. -/
def variablesAfter
    (values : Variables)
    (inputs : List Input) :
    Variables :=
  valuesAfter nestingLimit Grammar.frozenStandard values (inputs.map Input.call)

/-- The report of an input that is evaluated after others. -/
def reportAfter
    (values : Variables)
    (earlier : List Input)
    (input : Input) :
    Report :=
  evaluate Grammar.frozenStandard
    ⟨variablesAfter values earlier, Functions.builtin input.draws⟩ input.text

/-- The report of an input with tokens is that of its tokens. -/
theorem reportAfter_of_tokenized
    (input : Input)
    {tokens : List Token}
    (tokenized : tokenize input.text = .ok tokens)
    (values : Variables)
    (earlier : List Input) :
    reportAfter values earlier input =
      reportOfTokens Grammar.frozenStandard
        ⟨variablesAfter values earlier, Functions.builtin input.draws⟩ nestingLimit
        tokens :=
  evaluateWithin_of_tokenized tokenized _ _ _

/-- The variables after an input and others are those after the others, from there on. -/
theorem variablesAfter_cons
    (values : Variables)
    (input : Input)
    (later : List Input) :
    variablesAfter values (input :: later) =
      variablesAfter (reportAfter values [] input).environment.values later :=
  rfl

/-- Inputs are evaluated one after another, also if some are evaluated later. -/
theorem variablesAfter_append
    (values : Variables)
    (before later : List Input) :
    variablesAfter values (before ++ later) =
      variablesAfter (variablesAfter values before) later := by
  induction before generalizing values with
  | nil => rfl
  | cons input rest inductionHypothesis =>
      rw [List.cons_append, variablesAfter_cons, variablesAfter_cons,
        inductionHypothesis]

/-- Later reports are those with the variables that the inputs before have led to. -/
theorem reports_append
    (values : Variables)
    (before later : List Input) :
    reports nestingLimit values (before ++ later) =
      reports nestingLimit values before ++
        reports nestingLimit (variablesAfter values before) later := by
  induction before generalizing values with
  | nil => rfl
  | cons input rest inductionHypothesis =>
      exact congrArg (List.cons _) (inductionHypothesis _)

end Expression

namespace CommandLine

/-- A single variable is writable if its number is. -/
theorem writable_single
    {number : Number}
    (writable : number.Writable)
    (name : String) :
    Variables.Writable (Table.ofList [(name, number)]) := by
  intro other bound found
  cases List.mem_singleton.1 (Table.mem_of_get?_ofList found)
  exact writable

/-- An integer that can be written is shown by its digits. -/
theorem displayed_int
    {n : Int}
    (few : n.natAbs < 10 ^ digitLimit) :
    displayed (some (.int n)) = .ok n.repr := by
  rw [displayed, Number.display?_int few]

namespace Session

/-- The session after inputs have been evaluated one after another. -/
def after
    (session : Session)
    (inputs : List Input) :
    Session :=
  { session with values := Expression.variablesAfter session.values inputs }

/-- Evaluations leave the settings alone. -/
@[simp]
theorem settings_after
    (session : Session)
    (inputs : List Input) :
    (session.after inputs).settings = session.settings :=
  rfl

/-- Evaluations lead to the variables after the inputs. -/
@[simp]
theorem values_after
    (session : Session)
    (inputs : List Input) :
    (session.after inputs).values =
      Expression.variablesAfter session.values inputs :=
  rfl

/-- Without inputs a session is as it was. -/
@[simp]
theorem after_nil
    (session : Session) :
    session.after [] = session :=
  rfl

/-- After one input a session is continued by its report. -/
theorem after_singleton
    (session : Session)
    (input : Input) :
    session.after [input] = session.continued (session.report input) :=
  rfl

/-- Inputs are evaluated one after another, also if some are evaluated later. -/
theorem after_append
    (session : Session)
    (before later : List Input) :
    session.after (before ++ later) = (session.after before).after later := by
  rw [after, Expression.variablesAfter_append]
  rfl

/-- A failure leaves the session as it was. -/
theorem continued_of_failed
    {session : Session}
    {input : Input}
    {failure : Failure}
    (failed : (session.report input).outcome = .failed failure) :
    session.continued (session.report input) = session := by
  have kept :
      (session.report input).environment = session.environment input.draws :=
    Expression.environment_of_failed failed
  rw [continued, kept]
  rfl

/-- The variables of a session are writable if it is safe. -/
def WritableIf
    (safe : Prop)
    (session : Session) :
    Prop :=
  safe → session.values.Writable

/-- A session starts with writable variables if the settings have no others. -/
theorem writableIf_start
    (settings : Settings) :
    (start settings).WritableIf settings.presets.Writable := by
  intro presets
  have assigns : AssignsWritable settings.presets.entries :=
    fun entry member =>
      presets entry.1 entry.2
        ((Table.lookup_eq_some_iff settings.presets.distinct).2 member)
  exact Variables.writable_builtin.insertAll assigns

namespace WritableIf

variable {safe : Prop}
variable {session : Session}

/-- The numbers that a report gives, stores or shows are writable if it is safe. -/
theorem contained_report
    (writable : session.WritableIf safe)
    (input : Input) :
    (session.report input).Contained safe := by
  have ordinary : (session.environment input.draws).Ordinary :=
    fun _ _ found => (Functions.safe_builtin found).ordinary
  have keepsWritable :
      safe → (session.environment input.draws).KeepsWritable :=
    fun isSafe =>
      ⟨writable isSafe,
        fun _ _ found => (Functions.safe_builtin found).keepsWritable⟩
  exact Expression.contained_evaluateWithin ordinary keepsWritable _ input.text

/-- An evaluation keeps the variables of a session writable. -/
theorem continued
    (writable : session.WritableIf safe)
    (input : Input) :
    (session.continued (session.report input)).WritableIf safe := by
  intro isSafe
  have contained := writable.contained_report input
  have after :
      (session.report input).environment =
        Expression.environmentAfter (session.environment input.draws)
          (session.report input).assigned (session.report input).outcome :=
    Expression.environment_evaluateWithin _ _ _ input.text
  have kept :
      Variables.Writable
        (session.values.insertAll (session.report input).assigned) :=
    (writable isSafe).insertAll (contained.assigned isSafe)
  -- A failure takes the assignments back, a value and a fault keep them.
  unfold Session.continued
  rw [after]
  cases (session.report input).outcome with
  | value => exact kept
  | failed => exact writable isSafe
  | faulted => exact kept

/-- Evaluations keep the variables of a session writable. -/
theorem after
    (writable : session.WritableIf safe)
    (inputs : List Input) :
    (session.after inputs).WritableIf safe := by
  induction inputs generalizing session with
  | nil => exact writable
  | cons input rest inductionHypothesis =>
      exact inductionHypothesis (writable.continued input)

end WritableIf

end Session

section Journal

variable {settings : Settings}

/-- A journal above the level of all entries shows none of them. -/
theorem journalPieces_eq_nil
    (quiet : LogLevel.info.rank < settings.logLevel.rank)
    {entries : List JournalEntry}
    (below : ∀ entry ∈ entries, entry.level.rank ≤ LogLevel.info.rank) :
    journalPieces settings entries = [] := by
  have noneShown : JournalEntry.shownAt settings.logLevel entries = [] := by
    refine List.filter_eq_nil_iff.2 fun entry member => ?_
    have hidden := Nat.lt_of_le_of_lt (below entry member) quiet
    simpa using hidden
  rw [journalPieces, noneShown]
  rfl

/-- Tokens and assignments are entered below the level of failures. -/
theorem rank_debug_le :
    LogLevel.debug.rank ≤ LogLevel.info.rank := by
  decide

/-- The entries of assignments are below the level of failures. -/
theorem rank_ofAssignments
    (assignments : List (String × Number)) :
    ∀ entry ∈ JournalEntry.ofAssignments assignments,
      entry.level.rank ≤ LogLevel.info.rank := by
  intro entry member
  obtain ⟨assignment, _, isEntry⟩ := List.mem_filterMap.1 member
  obtain ⟨text, _, rfl⟩ := Option.map_eq_some_iff.1 isEntry
  exact rank_debug_le

/-- No entry of an evaluation is above the level of failures. -/
theorem rank_ofReport
    (source : String)
    (report : Report) :
    ∀ entry ∈ JournalEntry.ofReport source report,
      entry.level.rank ≤ LogLevel.info.rank := by
  intro entry member
  rcases List.mem_append.1 member with early | isFailure
  · rcases List.mem_append.1 early with isTokens | isAssigned
    · split at isTokens
      case h_1 => cases isTokens
      case h_2 =>
        cases List.mem_singleton.1 isTokens
        exact rank_debug_le
    · exact rank_ofAssignments report.assigned entry isAssigned
  · split at isFailure
    case h_1 =>
      cases List.mem_singleton.1 isFailure
      exact Nat.le_refl _
    case h_2 => cases isFailure

/-- Above the level of failures an evaluation writes nothing into the journal. -/
theorem reportPieces_eq_nil
    {session : Session}
    (quiet : LogLevel.info.rank < session.settings.logLevel.rank)
    (source : String)
    (report : Report) :
    session.reportPieces source report = [] :=
  journalPieces_eq_nil quiet (rank_ofReport source report)

end Journal

end CommandLine

end Reckoner
