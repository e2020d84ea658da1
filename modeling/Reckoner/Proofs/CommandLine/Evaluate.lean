import Reckoner.CommandLine.Evaluate
import Reckoner.Proofs.CommandLine.Session
import Reckoner.Proofs.Evaluation.Recall
import Reckoner.Proofs.Settings.Loading

namespace Reckoner.CommandLine

/-!
# How evaluating one expression ends

The command writes the value of the expression or one error, apart from the journal.
The error is that of the first assignment that fails, or else of the expression. What
can go wrong otherwise is a number in the settings that is too long to be written:
no operation makes such a number, but nothing keeps it out of the settings.
-/

/-- Whether a piece is a line of the journal. -/
def Piece.isJournal : Piece → Bool
  | .journal _ => true
  | _ => false

namespace Transcript

/-- The transcript without the lines of the journal. -/
def withoutJournal
    (transcript : Transcript) :
    Transcript :=
  { transcript with pieces := transcript.pieces.filter fun piece => !piece.isJournal }

/-- Lines of the journal in front are left out. -/
theorem withoutJournal_after
    (transcript : Transcript)
    (settings : Settings)
    (entries : List JournalEntry) :
    (transcript.after (journalPieces settings entries)).withoutJournal =
      transcript.withoutJournal := by
  have onlyJournal :
      (journalPieces settings entries).filter (fun piece => !piece.isJournal) = [] := by
    simp [journalPieces, Piece.isJournal]
  rw [withoutJournal, after, List.filter_append, onlyJournal]
  rfl

end Transcript

/-- Whether all inputs have values when they are evaluated one after another. -/
def AllValued
    (values : Variables)
    (inputs : List Input) :
    Prop :=
  ∀ report ∈ Expression.reports nestingLimit values inputs,
    ∃ value, report.outcome = .value value

/-- No inputs all have values. -/
theorem allValued_nil
    (values : Variables) :
    AllValued values [] :=
  fun _ impossible => by cases impossible

/--
A transcript reports on an expression after assignments: it shows the value, or the
failure of the first assignment that fails, or else that of the expression.
-/
inductive Reports
    (values : Variables)
    (assignments : List Input)
    (expression : Input) :
    Transcript →
    Prop where
  | printed
      {value : Option Number}
      {text : String}
      (made : AllValued values assignments)
      (valued :
        (Expression.reportAfter values assignments expression).outcome = .value value)
      (shown : displayed value = .ok text) :
      Reports values assignments expression (.success [.out (text ++ "\n")])
  | refused
      {failure : Failure}
      (made : AllValued values assignments)
      (failed :
        (Expression.reportAfter values assignments expression).outcome =
          .failed failure) :
      Reports values assignments expression (.reportedError failure.text)
  | refusedAssignment
      {before later : List Input}
      {assignment : Input}
      {failure : Failure}
      (split : assignments = before ++ assignment :: later)
      (made : AllValued values before)
      (failed :
        (Expression.reportAfter values before assignment).outcome = .failed failure) :
      Reports values assignments expression
        (.reportedError ("--set " ++ assignment.text ++ ": " ++ failure.text))

/-- What reports after an assignment with a value reports after both. -/
theorem Reports.cons
    {values : Variables}
    {assignment expression : Input}
    {later : List Input}
    {transcript : Transcript}
    {value : Option Number}
    (valued : (Expression.reportAfter values [] assignment).outcome = .value value)
    (reports :
      Reports (Expression.variablesAfter values [assignment]) later expression
        transcript) :
    Reports values (assignment :: later) expression transcript := by
  have allValued
      {inputs : List Input}
      (made : AllValued (Expression.variablesAfter values [assignment]) inputs) :
      AllValued values (assignment :: inputs) := by
    rintro report (_ | ⟨_, isLater⟩)
    · exact ⟨value, valued⟩
    · exact made report isLater
  cases reports with
  | printed made isValue shown => exact .printed (allValued made) isValue shown
  | refused made failed => exact .refused (allValued made) failed
  | refusedAssignment split made failed =>
      exact .refusedAssignment (by rw [split]; rfl) (allValued made) failed

/-- A transcript reports, or a number of the settings cannot be written. -/
def ReportsIfSafe
    (safe : Prop)
    (values : Variables)
    (assignments : List Input)
    (expression : Input)
    (transcript : Transcript) :
    Prop :=
  Reports values assignments expression transcript ∨
    transcript = ⟨[], .fault .beyondDigits⟩ ∧ ¬ safe

section Evaluations

variable {safe : Prop}
variable {session : Session}

/-- A value is displayed unless it cannot be written. -/
theorem displayed_of_contained
    {report : Report}
    {value : Option Number}
    (contained : report.Contained safe)
    (valued : report.outcome = .value value) :
    (∃ text, displayed value = .ok text) ∨
      displayed value = .error .beyondDigits ∧ ¬ safe := by
  cases value with
  | none => exact .inl ⟨"", rfl⟩
  | some number =>
      cases shown : number.display? with
      | some text => exact .inl ⟨text, by simp only [displayed, shown]⟩
      | none =>
          refine .inr ⟨by simp only [displayed, shown], fun isSafe => ?_⟩
          obtain ⟨text, isShown⟩ := (contained.value isSafe valued).exists_display
          rw [shown] at isShown
          cases isShown

/-- The expression after all assignments is reported if it is safe. -/
theorem reportsIfSafe_evaluateExpression
    (writable : session.WritableIf safe)
    (expression : Input) :
    ReportsIfSafe safe session.values [] expression
      (evaluateExpression session expression).withoutJournal := by
  have contained := writable.contained_report expression
  have noneMade := allValued_nil session.values
  unfold evaluateExpression Session.reportPieces
  dsimp only
  rw [Transcript.withoutJournal_after]
  cases outcome : (session.report expression).outcome with
  | value value =>
      rcases displayed_of_contained contained outcome with
        ⟨text, shown⟩ | ⟨unshown, unsafeNumber⟩
      · simp only [shown]
        exact .inl (.printed noneMade outcome shown)
      · simp only [unshown]
        exact .inr ⟨rfl, unsafeNumber⟩
  | failed failure => exact .inl (.refused noneMade outcome)
  | faulted fault =>
      obtain ⟨rfl, unsafeNumber⟩ := contained.fault outcome
      exact .inr ⟨rfl, unsafeNumber⟩

/-- The assignments and the expression are reported if they are safe. -/
theorem reportsIfSafe_evaluateAfter
    (writable : session.WritableIf safe)
    (assignments : List Input)
    (expression : Input) :
    ReportsIfSafe safe session.values assignments expression
      (evaluateAfter expression session assignments).withoutJournal := by
  -- The invariant that carries the induction is that the variables stay writable.
  induction assignments generalizing session with
  | nil => exact reportsIfSafe_evaluateExpression writable expression
  | cons assignment later inductionHypothesis =>
      have contained := writable.contained_report assignment
      unfold evaluateAfter Session.reportPieces
      dsimp only
      rw [Transcript.withoutJournal_after]
      cases outcome : (session.report assignment).outcome with
      | value value =>
          rcases inductionHypothesis (writable.continued assignment) with
            reports | escapes
          · exact .inl (reports.cons outcome)
          · exact .inr escapes
      | failed failure =>
          exact .inl (.refusedAssignment rfl (allValued_nil session.values) outcome)
      | faulted fault =>
          obtain ⟨rfl, unsafeNumber⟩ := contained.fault outcome
          exact .inr ⟨rfl, unsafeNumber⟩

end Evaluations

section Journal

variable {settings : Settings}

/-- Above the level of failures the command writes no line of the journal. -/
theorem withoutJournal_evaluateAfter
    {session : Session}
    (quiet : LogLevel.info.rank < session.settings.logLevel.rank)
    (assignments : List Input)
    (expression : Input) :
    (evaluateAfter expression session assignments).withoutJournal =
      evaluateAfter expression session assignments := by
  induction assignments generalizing session with
  | nil =>
      unfold evaluateAfter evaluateExpression
      dsimp only
      rw [reportPieces_eq_nil quiet]
      split
      case h_1 => rfl
      case h_2 => rfl
      case h_3 value _ =>
        cases displayed value with
        | ok => rfl
        | error => rfl
  | cons assignment later inductionHypothesis =>
      unfold evaluateAfter
      dsimp only
      rw [reportPieces_eq_nil quiet]
      split
      case h_1 => rfl
      case h_2 => rfl
      case h_3 => exact inductionHypothesis quiet

end Journal

/--
The command reports on the expression after the assignments, from the variables on that
every calculator has, with those of the settings set over them, unless it is stopped by a
number that cannot be written. Then it writes no result, and the settings hold such a
number. Above the level of failures the report is all that is written; below, lines of
the journal are added.
-/
theorem evaluate_reports
    (settings : Settings)
    (assignments : List Input)
    (expression : Input) :
    let values := Variables.builtin.insertAll settings.presets.entries
    let transcript := evaluate settings assignments expression
    (Reports values assignments expression transcript.withoutJournal ∨
        transcript.withoutJournal = ⟨[], .fault .beyondDigits⟩ ∧
          ¬ settings.presets.Writable) ∧
      (LogLevel.info.rank < settings.logLevel.rank →
        transcript.withoutJournal = transcript) := by
  intro values transcript
  have writable := Session.writableIf_start settings
  constructor
  · have reports := reportsIfSafe_evaluateAfter writable assignments expression
    have sameReport : transcript.withoutJournal = _ :=
      Transcript.withoutJournal_after _ settings _
    rw [sameReport]
    exact reports
  · intro quiet
    have noStart : Session.startPieces settings = [] :=
      journalPieces_eq_nil quiet (rank_ofAssignments settings.presets.entries)
    have isLater :
        transcript = evaluateAfter expression (Session.start settings) assignments := by
      change Transcript.after (Session.startPieces settings) _ = _
      rw [noStart]
      rfl
    rw [isLater]
    exact withoutJournal_evaluateAfter quiet assignments expression

/-- With a short number in the settings the factorial of an assigned variable is printed. -/
theorem evaluate_reports_shortPreset :
    let settings :=
      { Settings.standard with presets := Table.ofList [("x", .int 3)] }
    let assignment : Input := ⟨"y = x * 2", fun _ => 0.5⟩
    let expression : Input := ⟨"y!", fun _ => 0.25⟩
    LogLevel.info.rank < settings.logLevel.rank ∧
      settings.presets.Writable ∧
      evaluate settings [assignment] expression = .success [.out "720\n"] := by
  intro settings assignment expression
  have quiet : LogLevel.info.rank < settings.logLevel.rank := by decide
  have writable : settings.presets.Writable :=
    writable_single (Arithmetic.writable_of_bitLength (by decide)) "x"
  let values := Variables.builtin.insertAll settings.presets.entries
  have tokenizedAssignment :
      tokenize "y = x * 2" =
        .ok [
          ⟨.identifier, "y", 0⟩, ⟨.symbol, "=", 2⟩, ⟨.identifier, "x", 4⟩,
          ⟨.symbol, "*", 6⟩, ⟨.number, "2", 8⟩
        ] :=
    rfl
  have tokenizedExpression :
      tokenize "y!" = .ok [⟨.identifier, "y", 0⟩, ⟨.symbol, "!", 1⟩] :=
    rfl
  have assigned :
      (Expression.reportAfter values [] assignment).outcome =
        .value (some (.int 6)) := by
    rw [Expression.reportAfter_of_tokenized assignment tokenizedAssignment]
    rfl
  have valuesFound :
      Expression.variablesAfter values [assignment] =
        values.insertAll [("y", .int 6)] := by
    rw [Expression.variablesAfter_cons,
      Expression.reportAfter_of_tokenized assignment tokenizedAssignment]
    rfl
  have valued :
      (Expression.reportAfter values [assignment] expression).outcome =
        .value (some (.int 720)) := by
    rw [Expression.reportAfter_of_tokenized expression tokenizedExpression, valuesFound]
    rfl
  have shown : displayed (some (.int 720)) = .ok "720" :=
    displayed_int (Arithmetic.writable_of_bitLength (by decide))
  obtain ⟨reports, onlyReport⟩ := evaluate_reports settings [assignment] expression
  rw [onlyReport quiet] at reports
  refine ⟨quiet, writable, ?_⟩
  have reported := reports.resolve_right fun stopped => stopped.2 writable
  generalize evaluate settings [assignment] expression = transcript at reported ⊢
  -- Neither the assignment nor the expression fails.
  cases reported with
  | printed made isValue isText =>
      cases valued.symm.trans isValue
      cases shown.symm.trans isText
      rfl
  | refused made failed => cases valued.symm.trans failed
  | @refusedAssignment before later refused failure split made failed =>
      cases before with
      | nil =>
          cases split
          cases assigned.symm.trans failed
      | cons first rest =>
          have tooLong := congrArg List.length split
          simp at tooLong

/-- The zeros in base sixteen of a number that cannot be written. -/
def manyZeros : Nat :=
  3572

/-- A power of sixteen with so many zeros or more cannot be written. -/
theorem displayed_power
    {count : Nat}
    (long : manyZeros ≤ count) :
    displayed (some (.int (Nat.pow 16 count))) = .error .beyondDigits := by
  have large : Nat.pow 10 digitLimit ≤ Nat.pow 16 manyZeros := by decide +kernel
  have grows : ∀ fewer more, fewer ≤ more → Nat.pow 16 fewer ≤ Nat.pow 16 more :=
    fun _ _ => Nat.pow_le_pow_right (by decide)
  have tooLong : ¬ (Nat.pow 16 count : Int).natAbs < Nat.pow 10 digitLimit := by
    rw [Int.natAbs_natCast]
    exact Nat.not_lt_of_le (Nat.le_trans large (grows manyZeros count long))
  have noText : (Number.int (Nat.pow 16 count)).text? = none := by
    rw [Number.text?, Number.isWritable, decide_eq_false tooLong]
    rfl
  simp only [displayed, Number.display?, noText]

/-- Settings can be loaded from which even a variable alone is not shown. -/
theorem ending_evaluate_longPreset :
    ∃ settings,
      Settings.ofFile .standard (.bytes (Toml.powerDocument manyZeros).toUTF8) =
          .ok settings ∧
        (evaluate settings [] ⟨"x", fun _ => 0.5⟩).ending = .fault .beyondDigits := by
  refine ⟨_, Settings.ofFile_powerDocument manyZeros, ?_⟩
  generalize isSettings :
    { Settings.standard with
      presets := Table.ofList [("x", .int (Nat.pow 16 manyZeros))] } = settings
  let input : Input := ⟨"x", fun _ => 0.5⟩
  have tokenized : tokenize "x" = .ok [⟨.identifier, "x", 0⟩] := rfl
  have found :
      (Session.start settings).values.get? "x" =
        some (.int (Nat.pow 16 manyZeros)) := by
    rw [← isSettings]
    exact Table.get?_insertAll_entries _ _ _
  have result :
      ((Session.start settings).report input).result = _ :=
    Expression.result_evaluate_identifier
      ((Session.start settings).environment input.draws) tokenized
  rw [show ((Session.start settings).environment input.draws).values.get? "x" = _ from
    found] at result
  have valued := (Report.eq_of_result result).1
  have unshown := displayed_power (Nat.le_refl manyZeros)
  change (evaluateExpression (Session.start settings) input).ending = _
  simp only [evaluateExpression, valued, unshown]
  rfl

end Reckoner.CommandLine
