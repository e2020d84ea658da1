import Mathlib.Data.List.TakeWhile
import Reckoner.CommandLine.Loop
import Reckoner.Proofs.CommandLine.Session

namespace Reckoner.CommandLine

/-!
# The interactive loop as a session

The loop answers lines until one of them leaves it. Of the lines it answers, those that
are neither blank nor commands are its sources, and they are all that a session sees.
So what the loop prints for its sources is what a session prints that is given them one
after another, and a line that does not change the session can be left out.
-/

namespace Loop

open Console

/-- The lines that are answered: those before the first one that leaves the loop. -/
def answered
    (lines : List Input) :
    List Input :=
  lines.takeWhile fun line => stripped line.text ∉ quitCommands

/-- Whether the text of a line is evaluated: it is not blank, and it is no command. -/
def isSource
    (text : String) :
    Bool :=
  text ≠ "" && text.toList.head? ≠ some ':'

/-- The inputs in lines that are evaluated, in order. -/
def sources
    (lines : List Input) :
    List Input :=
  (lines.map strippedInput).filter fun input => isSource input.text

/-- What the loop prints for the result of an evaluation. -/
def resultPieces : Outcome → List Piece
  | .value none => []
  | .value (some number) =>
      match displayed (some number) with
      | .ok text => [.out (text ++ "\n")]
      | .error _ => []
  | .failed failure =>
      [.out (onScreen ("Error: " ++ literal failure.text ++ "\n"))]
  | .faulted _ => []

/-- What the loop writes about an evaluation. -/
def evaluationPieces
    (settings : Settings)
    (source : String)
    (report : Report) :
    List Piece :=
  journalPieces settings (JournalEntry.ofReport source report) ++
    tokenPieces settings report ++ resultPieces report.outcome

/-- What is written about inputs that are evaluated one after another. -/
def written
    (settings : Settings)
    (values : Variables)
    (inputs : List Input) :
    List (List Piece) :=
  List.zipWith (evaluationPieces settings) (inputs.map Input.text)
    (Expression.reports nestingLimit values inputs)

/-- What the loop writes for a line that it answers. -/
def linePieces
    (session : Session)
    (line : Input) :
    List Piece :=
  let input := strippedInput line
  if isSource input.text then
    evaluationPieces session.settings input.text (session.report input)
  else if input.text = "" then
    []
  else
    (answerCommand session input).pieces

/-- The session that a line finds after the sources in the lines before it. -/
def sessionAt
    (session : Session)
    (lines : List Input)
    (index : Nat) :
    Session :=
  session.after (sources (lines.take index))

/-- Each line that is answered, with what the loop writes for it. -/
def exchanges
    (session : Session)
    (lines : List Input) :
    List (Input × List Piece) :=
  (answered lines).mapIdx fun index line =>
    (line, linePieces (sessionAt session (answered lines) index) line)

/-- What the loop writes for each of the lines that it evaluates. -/
def evaluations
    (session : Session)
    (lines : List Input) :
    List (List Piece) :=
  ((exchanges session lines).filter fun exchange =>
    isSource (stripped exchange.1.text)).map Prod.snd

/-- What the loop writes when it ends: only a prompt before a line that leaves it. -/
def closing
    (session : Session)
    (lines : List Input) :
    List Piece :=
  if ∃ line ∈ lines, stripped line.text ∈ quitCommands then
    [promptPiece session]
  else
    promptPiece session :: endPieces

section Lines

/-- A line that leaves the loop is not answered, nor is any line after it. -/
theorem answered_cons_of_leaves
    {line : Input}
    (leaves : stripped line.text ∈ quitCommands)
    (rest : List Input) :
    answered (line :: rest) = [] :=
  List.takeWhile_cons_of_neg (by simpa using leaves)

/-- A line that stays is answered. -/
theorem answered_cons_of_stays
    {line : Input}
    (stays : stripped line.text ∉ quitCommands)
    (rest : List Input) :
    answered (line :: rest) = line :: answered rest :=
  List.takeWhile_cons_of_pos (by simpa using stays)

/-- A line that is answered stays. -/
theorem stays_of_answered
    {lines : List Input}
    {index : Nat}
    {line : Input}
    (isAnswered : (answered lines)[index]? = some line) :
    stripped line.text ∉ quitCommands := by
  simpa using List.mem_takeWhile_imp (List.mem_of_getElem? isAnswered)

/-- The sources of lines are those of some in front and those of the others. -/
theorem sources_append
    (before later : List Input) :
    sources (before ++ later) = sources before ++ sources later := by
  rw [sources, List.map_append, List.filter_append]
  rfl

/-- The sources of lines are those of the first line and those of the others. -/
theorem sources_cons
    (line : Input)
    (rest : List Input) :
    sources (line :: rest) = sources [line] ++ sources rest :=
  sources_append [line] rest

/-- The only source of a line that is evaluated is the line without its blanks. -/
theorem sources_singleton_of_isSource
    {line : Input}
    (source : isSource (stripped line.text) = true) :
    sources [line] = [strippedInput line] :=
  List.filter_cons_of_pos source

/-- A blank line or a command has no source. -/
theorem sources_singleton_of_not_isSource
    {line : Input}
    (noSource : isSource (stripped line.text) = false) :
    sources [line] = [] :=
  List.filter_cons_of_neg (Bool.eq_false_iff.1 noSource)

/-- A line that stays is followed by the exchanges of the session after it. -/
theorem exchanges_cons_of_stays
    {line : Input}
    (stays : stripped line.text ∉ quitCommands)
    (session : Session)
    (rest : List Input) :
    exchanges session (line :: rest) =
      (line, linePieces session line) ::
        exchanges (session.after (sources [line])) rest := by
  unfold exchanges
  rw [answered_cons_of_stays stays, List.mapIdx_cons]
  have later
      (index : Nat) :
      sessionAt session (line :: answered rest) (index + 1) =
        sessionAt (session.after (sources [line])) (answered rest) index := by
    unfold sessionAt
    rw [List.take_succ_cons, sources_cons, Session.after_append]
  simp only [later]
  rfl

/-- A line that leaves the loop ends its exchanges. -/
theorem exchanges_cons_of_leaves
    {line : Input}
    (leaves : stripped line.text ∈ quitCommands)
    (session : Session)
    (rest : List Input) :
    exchanges session (line :: rest) = [] := by
  unfold exchanges
  rw [answered_cons_of_leaves leaves]
  rfl

/-- A line that leaves the loop is behind its last prompt. -/
theorem closing_cons_of_leaves
    {line : Input}
    (leaves : stripped line.text ∈ quitCommands)
    (session : Session)
    (rest : List Input) :
    closing session (line :: rest) = [promptPiece session] :=
  if_pos ⟨line, List.mem_cons_self, leaves⟩

/-- The loop ends behind a line that stays as it does without this line. -/
theorem closing_cons_of_stays
    {line : Input}
    (stays : stripped line.text ∉ quitCommands)
    (session : Session)
    (rest : List Input) :
    closing session (line :: rest) = closing session rest := by
  simp only [closing, List.exists_mem_cons_iff, stays, false_or]

/-- Evaluations leave the prompt alone. -/
theorem promptPiece_after
    (session : Session)
    (inputs : List Input) :
    promptPiece (session.after inputs) = promptPiece session :=
  rfl

/-- Evaluations leave alone what the loop writes when it ends. -/
theorem closing_after
    (session : Session)
    (inputs : List Input)
    (lines : List Input) :
    closing (session.after inputs) lines = closing session lines :=
  rfl

end Lines

section Steps

variable {safe : Prop}
variable {session : Session}

/-- An evaluation gives a value that can be shown, or a failure. -/
def IsAnswered
    (report : Report) :
    Prop :=
  (∃ value text, report.outcome = .value value ∧ displayed value = .ok text) ∨
    ∃ failure, report.outcome = .failed failure

/-- In a safe session every input gives a value that can be shown, or a failure. -/
theorem isAnswered_report
    (writable : session.WritableIf safe)
    (isSafe : safe)
    (input : Input) :
    IsAnswered (session.report input) := by
  have contained := writable.contained_report input
  cases outcome : (session.report input).outcome with
  | value value =>
      cases value with
      | none => exact .inl ⟨none, "", outcome, rfl⟩
      | some number =>
          obtain ⟨text, shown⟩ := (contained.value isSafe outcome).exists_display
          exact .inl ⟨some number, text, outcome, by simp only [displayed, shown]⟩
  | failed failure => exact .inr ⟨failure, outcome⟩
  | faulted fault => exact absurd isSafe (contained.fault outcome).2

/-- All inputs that are evaluated one after another give such a value or a failure. -/
theorem isAnswered_of_mem_reports
    (writable : session.WritableIf safe)
    (isSafe : safe)
    {inputs : List Input}
    {report : Report}
    (member : report ∈ Expression.reports nestingLimit session.values inputs) :
    IsAnswered report := by
  induction inputs generalizing session with
  | nil => cases member
  | cons input rest inductionHypothesis =>
      rcases List.mem_cons.1 member with rfl | isLater
      · exact isAnswered_report writable isSafe input
      · exact inductionHypothesis (writable.continued input) isLater

/-- A source is evaluated, and the loop goes on after it. -/
theorem answerSource_eq
    (writable : session.WritableIf safe)
    (isSafe : safe)
    (source : Input) :
    answerSource session source =
      ⟨evaluationPieces session.settings source.text (session.report source),
        .goOn (session.continued (session.report source))⟩ := by
  unfold answerSource evaluationPieces
  rcases isAnswered_report writable isSafe source with
    ⟨value, text, valued, shown⟩ | ⟨failure, failed⟩
  · cases value with
    | none => simp [valued, resultPieces, Session.reportPieces]
    | some number => simp [valued, shown, resultPieces, Session.reportPieces]
  · simp [failed, resultPieces, Session.reportPieces]

/-- The row of a variable, if its number can be written. -/
def variableRow?
    (entry : String × Number) :
    Option (List String) :=
  entry.2.display?.map fun text => [literal entry.1, text]

/-- The rows of writable variables. -/
theorem exists_variableRows
    {entries : List (String × Number)}
    (writable : ∀ entry ∈ entries, entry.2.Writable) :
    ∃ rows,
      variableRows entries = .ok rows ∧
        rows.map some = entries.map variableRow? := by
  induction entries with
  | nil => exact ⟨[], rfl, rfl⟩
  | cons entry rest inductionHypothesis =>
      rcases entry with ⟨name, value⟩
      obtain ⟨text, shown⟩ :=
        (writable (name, value) List.mem_cons_self).exists_display
      obtain ⟨rows, isRows, sameRows⟩ :=
        inductionHypothesis fun other inRest =>
          writable other (List.mem_cons_of_mem (name, value) inRest)
      refine ⟨[literal name, text] :: rows, ?_, ?_⟩
      · simp only [variableRows, displayed, shown, isRows]
      · simp [sameRows, variableRow?, shown]

/-- The table of variables with some rows. -/
def variablesTable
    (rows : List (List String)) :
    Grid where
  title := none
  columns := [⟨"Name", .left⟩, ⟨"Value", .right⟩]
  rows := rows

/-- A table lists variables if each of them has one row, and nothing else has. -/
def ListsVariables
    (values : Variables)
    (pieces : List Piece) :
    Prop :=
  ∃ rows,
    pieces = [.out (variablesTable rows).text] ∧
      (rows.map some).Perm (values.entries.map variableRow?)

/-- In a safe session the variables can be listed. -/
theorem exists_variablesGrid
    (writable : session.WritableIf safe)
    (isSafe : safe) :
    ∃ rows,
      variablesGrid session.values = .ok (variablesTable rows) ∧
        (rows.map some).Perm (session.values.entries.map variableRow?) := by
  have sorted :=
    List.mergeSort_perm session.values.entries
      fun left right => left.1 ≤ right.1
  have allWritable :
      ∀ entry ∈ sortedByName session.values.entries,
        entry.2.Writable :=
    fun entry member =>
      writable isSafe entry.1 entry.2
        ((Table.lookup_eq_some_iff session.values.distinct).2
          (sorted.mem_iff.1 member))
  obtain ⟨rows, isRows, sameRows⟩ := exists_variableRows allWritable
  refine ⟨rows, ?_, ?_⟩
  · rw [variablesGrid, isRows]
    rfl
  · rw [sameRows]
    exact sorted.map variableRow?

/-- A command is answered without changing the session. -/
theorem next_answerCommand
    (writable : session.WritableIf safe)
    (isSafe : safe)
    (command : Input) :
    (answerCommand session command).next = .goOn session := by
  obtain ⟨rows, listed, _⟩ := exists_variablesGrid writable isSafe
  unfold answerCommand
  split
  case isTrue => rw [listed]
  case isFalse =>
    split
    case isTrue => rfl
    case isFalse =>
      split
      case isTrue => rfl
      case isFalse => rfl

/-- A line that stays is answered, and the loop goes on in the session after it. -/
theorem step_of_stays
    (writable : session.WritableIf safe)
    (isSafe : safe)
    {line : Input}
    (stays : stripped line.text ∉ quitCommands) :
    step session line =
      ⟨linePieces session line, .goOn (session.after (sources [line]))⟩ := by
  unfold step linePieces
  dsimp only
  rw [text_strippedInput]
  by_cases isBlank : stripped line.text = ""
  · have noSource : isSource (stripped line.text) = false := by
      simp [isSource, isBlank]
    rw [sources_singleton_of_not_isSource noSource, Session.after_nil, noSource, isBlank]
    rfl
  · by_cases isCommand : (stripped line.text).toList.head? = some ':'
    · have noSource : isSource (stripped line.text) = false := by
        simp [isSource, isCommand]
      have next := next_answerCommand writable isSafe (strippedInput line)
      simp only [sources_singleton_of_not_isSource noSource, Session.after_nil, noSource,
        isBlank, stays, isCommand, if_true, if_false, Bool.false_eq_true]
      rw [← next]
    · have source : isSource (stripped line.text) = true := by
        simp [isSource, isBlank, isCommand]
      simp only [sources_singleton_of_isSource source, Session.after_singleton, source,
        isBlank, stays, isCommand, if_true, if_false, text_strippedInput,
        answerSource_eq writable isSafe]

/-- A blank line or a command never changes the session. -/
theorem next_step_of_not_isSource
    (writable : session.WritableIf safe)
    (isSafe : safe)
    {line : Input}
    (stays : stripped line.text ∉ quitCommands)
    (noSource : isSource (stripped line.text) = false) :
    (step session line).next = .goOn session := by
  rw [step_of_stays writable isSafe stays, sources_singleton_of_not_isSource noSource,
    Session.after_nil]

/-- A line that leaves the loop is answered by nothing. -/
theorem step_of_leaves
    {line : Input}
    (leaves : stripped line.text ∈ quitCommands)
    (session : Session) :
    step session line = ⟨[], .leave⟩ := by
  have notBlank : stripped line.text ≠ "" := by
    intro isBlank
    rw [isBlank] at leaves
    exact absurd leaves (by decide)
  simp only [step, text_strippedInput, notBlank, leaves, if_true, if_false]

/-- The loop answers its lines one after another and ends with exit code zero. -/
theorem run_eq
    (writable : session.WritableIf safe)
    (isSafe : safe)
    (lines : List Input) :
    run session lines =
      ⟨((exchanges session lines).flatMap fun exchange =>
          promptPiece session :: exchange.2) ++ closing session lines,
        .exit 0⟩ := by
  -- Behind a line that stays, the loop runs in the session after this line's source.
  induction lines generalizing session with
  | nil => rfl
  | cons line rest inductionHypothesis =>
      unfold run
      by_cases leaves : stripped line.text ∈ quitCommands
      · rw [exchanges_cons_of_leaves leaves, closing_cons_of_leaves leaves]
        simp only [step_of_leaves leaves]
        rfl
      · have later := inductionHypothesis (writable.after (sources [line]))
        rw [promptPiece_after, closing_after] at later
        rw [exchanges_cons_of_stays leaves, List.flatMap_cons,
          closing_cons_of_stays leaves]
        simp only [step_of_stays writable isSafe leaves, later]
        simp [Transcript.after]

/-- Above the level of failures, and without tokens, only the result is written. -/
theorem evaluationPieces_of_quiet
    {settings : Settings}
    (quiet : LogLevel.info.rank < settings.logLevel.rank)
    (noTokens : settings.showTokens = false)
    (source : String)
    (report : Report) :
    evaluationPieces settings source report = resultPieces report.outcome := by
  have noTable : tokenPieces settings report = [] := by
    unfold tokenPieces
    split
    case h_1 => rfl
    case h_2 => rw [noTokens]; rfl
  rw [evaluationPieces, noTable, journalPieces_eq_nil quiet (rank_ofReport source report)]
  rfl

/-- Then the results of inputs are all that is written about them. -/
theorem written_of_quiet
    {settings : Settings}
    (quiet : LogLevel.info.rank < settings.logLevel.rank)
    (noTokens : settings.showTokens = false)
    (values : Variables)
    (inputs : List Input) :
    written settings values inputs =
      (Expression.reports nestingLimit values inputs).map fun report =>
        resultPieces report.outcome := by
  induction inputs generalizing values with
  | nil => rfl
  | cons input rest inductionHypothesis =>
      exact
        congrArg₂ List.cons (evaluationPieces_of_quiet quiet noTokens input.text _)
          (inductionHypothesis _)

/-- What is written about inputs starts with what is written about the first. -/
theorem written_cons
    (session : Session)
    (input : Input)
    (later : List Input) :
    written session.settings session.values (input :: later) =
      evaluationPieces session.settings input.text (session.report input) ::
        written session.settings
          (session.continued (session.report input)).values later :=
  rfl

/-- What is written about inputs is written about the first of them, then the others. -/
theorem written_append
    (settings : Settings)
    (values : Variables)
    (before later : List Input) :
    written settings values (before ++ later) =
      written settings values before ++
        written settings (Expression.variablesAfter values before) later := by
  have sameLength :
      (before.map Input.text).length =
        (Expression.reports nestingLimit values before).length := by
    rw [List.length_map, Expression.length_reports]
  unfold written
  rw [Expression.reports_append, List.map_append, List.zipWith_append sameLength]

/-- What the loop writes for the lines that it evaluates is written about their inputs. -/
theorem evaluations_eq
    (session : Session)
    (lines : List Input) :
    evaluations session lines =
      written session.settings session.values (sources (answered lines)) := by
  induction lines generalizing session with
  | nil => rfl
  | cons line rest inductionHypothesis =>
      have later := inductionHypothesis (session.after (sources [line]))
      rw [Session.settings_after, Session.values_after] at later
      unfold evaluations at later ⊢
      by_cases leaves : stripped line.text ∈ quitCommands
      · rw [exchanges_cons_of_leaves leaves, answered_cons_of_leaves leaves]
        rfl
      · rw [exchanges_cons_of_stays leaves, answered_cons_of_stays leaves,
          sources_cons line (answered rest), written_append, ← later]
        cases source : isSource (stripped line.text) with
        | true =>
            rw [sources_singleton_of_isSource source]
            simp only [List.filter_cons, source, if_true, List.map_cons, linePieces,
              text_strippedInput]
            rfl
        | false =>
            rw [sources_singleton_of_not_isSource source]
            simp only [List.filter_cons, source, Bool.false_eq_true, if_false]
            rfl

end Steps

section Removal

variable {session : Session}
variable {before later : List Input}
variable {line : Input}

/-- Lines behind lines that are all answered are answered as they would be alone. -/
theorem answered_append_of_all
    (all : answered before = before)
    (later : List Input) :
    answered (before ++ later) = before ++ answered later := by
  have sameLength :
      (answered before).length = before.length := by
    rw [all]
  exact (List.takeWhile_append).trans (if_pos sameLength)

/-- Lines behind a line that leaves the loop are not answered. -/
theorem answered_append_of_not_all
    (notAll : answered before ≠ before)
    (later : List Input) :
    answered (before ++ later) = answered before := by
  have shorter : ¬ (answered before).length = before.length := fun sameLength =>
    notAll ((List.takeWhile_prefix _).eq_of_length sameLength)
  exact (List.takeWhile_append).trans (if_neg shorter)

/-- A blank line or a command can be left out. -/
theorem evaluations_without_command
    (stays : stripped line.text ∉ quitCommands)
    (noSource : isSource (stripped line.text) = false) :
    evaluations session (before ++ later) =
      evaluations session (before ++ line :: later) := by
  rw [evaluations_eq, evaluations_eq]
  -- If a line before leaves the loop, neither this line nor a later one is answered.
  by_cases all : answered before = before
  · rw [answered_append_of_all all, answered_append_of_all all,
      answered_cons_of_stays stays, sources_append, sources_append,
      sources_cons line (answered later), sources_singleton_of_not_isSource noSource,
      List.nil_append]
  · rw [answered_append_of_not_all all, answered_append_of_not_all all]

/-- Without a line that leaves the loop, what was written before is still written first. -/
theorem evaluations_without_leaving
    (leaves : stripped line.text ∈ quitCommands) :
    evaluations session (before ++ line :: later) <+:
      evaluations session (before ++ later) := by
  rw [evaluations_eq, evaluations_eq]
  by_cases all : answered before = before
  · rw [answered_append_of_all all, answered_append_of_all all,
      answered_cons_of_leaves leaves, List.append_nil, sources_append, written_append]
    exact List.prefix_append _ _
  · have same : answered (before ++ line :: later) = answered (before ++ later) := by
      rw [answered_append_of_not_all all, answered_append_of_not_all all]
    exact same ▸ List.prefix_refl _

/-- There is something written for each input. -/
theorem length_written
    (settings : Settings)
    (values : Variables)
    (inputs : List Input) :
    (written settings values inputs).length = inputs.length := by
  rw [written, List.length_zipWith, List.length_map, Expression.length_reports,
    Nat.min_self]

/-- Without a source that fails, only what is written for it is missing. -/
theorem evaluations_without_failure
    (stays : stripped line.text ∉ quitCommands)
    (source : isSource (stripped line.text) = true)
    (all : answered before = before)
    {failure : Failure}
    (failed :
      (Expression.reportAfter session.values (sources before)
        (strippedInput line)).outcome = .failed failure) :
    evaluations session (before ++ later) =
      (evaluations session (before ++ line :: later)).eraseIdx
        (sources before).length := by
  have unchanged :
      written session.settings
          (Expression.variablesAfter session.values (sources before))
          (strippedInput line :: sources (answered later)) =
        evaluationPieces session.settings (stripped line.text)
            (Expression.reportAfter session.values (sources before)
              (strippedInput line)) ::
          written session.settings
            (Expression.variablesAfter session.values (sources before))
            (sources (answered later)) := by
    have sameSession :
        (session.after (sources before)).continued
            ((session.after (sources before)).report (strippedInput line)) =
          session.after (sources before) :=
      Session.continued_of_failed failed
    have first :=
      written_cons (session.after (sources before)) (strippedInput line)
        (sources (answered later))
    rw [sameSession] at first
    exact first
  rw [evaluations_eq, evaluations_eq, answered_append_of_all all,
    answered_append_of_all all, answered_cons_of_stays stays, sources_append,
    sources_append, sources_cons line (answered later),
    sources_singleton_of_isSource source, List.singleton_append, written_append,
    written_append, unchanged,
    ← length_written session.settings session.values (sources before),
    List.eraseIdx_append_of_length_le (Nat.le_refl _), Nat.sub_self,
    List.eraseIdx_cons_zero]

end Removal

/-- The command that lists variables lists those of the session. -/
theorem listsVariables_linePieces
    {safe : Prop}
    {session : Session}
    (writable : session.WritableIf safe)
    (isSafe : safe)
    {line : Input}
    (asks : stripped line.text = ":vars") :
    ListsVariables session.values (linePieces session line) := by
  obtain ⟨rows, listed, sameRows⟩ := exists_variablesGrid writable isSafe
  have noSource : isSource (stripped line.text) = false := by
    rw [asks]
    decide
  refine ⟨rows, ?_, sameRows⟩
  unfold linePieces
  dsimp only
  rw [text_strippedInput, noSource, asks]
  simp only [answerCommand, text_strippedInput, asks, listed, Bool.false_eq_true, if_false,
    if_true]
  rfl

/--
The loop answers its lines up to the first one that leaves it, or all, and ends with
exit code zero. It starts with the variables that every calculator has, with those of the
settings set over them. What it writes for the lines that it evaluates is written about the
reports of a calculator that is given them in order, each of them with a value or a failure.
A blank line, a command, or a source that fails can be left out without a difference to the
others. A command never changes the session, and the variables that are listed are those
that the calculator has come to.
-/
theorem interact_refines_session
    {settings : Settings}
    (writable : settings.presets.Writable)
    (lines : List Input) :
    let values := Variables.builtin.insertAll settings.presets.entries
    let session : Session := ⟨settings, values⟩
    interact settings lines =
        ⟨startPieces settings ++
            (((exchanges session lines).flatMap fun exchange =>
              promptPiece session :: exchange.2) ++ closing session lines),
          .exit 0⟩ ∧
      evaluations session lines =
        List.zipWith (evaluationPieces settings)
          ((sources (answered lines)).map Input.text)
          (Expression.reports nestingLimit values (sources (answered lines))) ∧
      (∀ report ∈ Expression.reports nestingLimit values (sources (answered lines)),
        IsAnswered report) ∧
      (∀ before line later,
        lines = before ++ line :: later →
        (stripped line.text ∈ quitCommands →
            evaluations session lines <+: evaluations session (before ++ later)) ∧
          (stripped line.text ∉ quitCommands →
            isSource (stripped line.text) = false →
            evaluations session (before ++ later) = evaluations session lines) ∧
          ∀ failure,
            stripped line.text ∉ quitCommands →
            isSource (stripped line.text) = true →
            answered before = before →
            (Expression.reportAfter values (sources before)
              (strippedInput line)).outcome = .failed failure →
            evaluations session (before ++ later) =
              (evaluations session lines).eraseIdx (sources before).length) ∧
      ∀ index line,
        (answered lines)[index]? = some line →
        let inputs := sources ((answered lines).take index)
        let found : Session := ⟨settings, Expression.variablesAfter values inputs⟩
        (isSource (stripped line.text) = false →
            (step found line).next = .goOn found) ∧
          (stripped line.text = ":vars" →
            ListsVariables found.values (linePieces found line)) := by
  intro values session
  have safe : session.WritableIf settings.presets.Writable :=
    Session.writableIf_start settings
  refine
    ⟨?_, evaluations_eq session lines,
      fun _ => isAnswered_of_mem_reports safe writable, ?_, ?_⟩
  · change (run session lines).after (startPieces settings) = _
    rw [run_eq safe writable lines]
    rfl
  · rintro before line later rfl
    exact
      ⟨evaluations_without_leaving,
        evaluations_without_command,
        fun failure stays source all failed =>
          evaluations_without_failure stays source all failed⟩
  · intro index line isAnswered inputs found
    have safeFound : found.WritableIf settings.presets.Writable := safe.after inputs
    exact
      ⟨next_step_of_not_isSource safeFound writable (stays_of_answered isAnswered),
        listsVariables_linePieces safeFound writable⟩

/--
Two sources are evaluated before the line that leaves the loop. The blank line can be left
out, and so can the source that fails.
-/
theorem interact_refines_session_mixedLines :
    let settings : Settings :=
      { Settings.standard with presets := Table.ofList [("x", .int 3)] }
    let values := Variables.builtin.insertAll settings.presets.entries
    let session : Session := ⟨settings, values⟩
    let line (text : String) : Input := ⟨text, fun _ => 0.5⟩
    let assigning := line "y = x * 2"
    let failing := line "1 / 0"
    let leaving := [line "quit", line "7"]
    let lines := assigning :: line " " :: line ":vars" :: failing :: leaving
    settings.presets.Writable ∧
      (interact settings lines).ending = .exit 0 ∧
      evaluations session lines =
        [[.out "6\n"], [.out "Error: Division by zero (at position 2)\n"]] ∧
      evaluations session (assigning :: line ":vars" :: failing :: leaving) =
        evaluations session lines ∧
      evaluations session (assigning :: line " " :: line ":vars" :: leaving) =
        [[.out "6\n"]] := by
  intro settings values session line assigning failing leaving lines
  have writable : settings.presets.Writable :=
    writable_single (Arithmetic.writable_of_bitLength (by decide)) "x"
  have quiet : LogLevel.info.rank < settings.logLevel.rank := by decide
  obtain ⟨transcript, refines, _, removes, _⟩ :=
    interact_refines_session writable lines
  have assigningText : stripped "y = x * 2" = "y = x * 2" := by decide
  have blankText : stripped " " = "" := by decide
  have listingText : stripped ":vars" = ":vars" := by decide
  have failingText : stripped "1 / 0" = "1 / 0" := by decide
  have leavingText : stripped "quit" = "quit" := by decide
  have evaluated : sources (answered lines) = [assigning, failing] := by
    simp [sources, answered, strippedInput, isSource, quitCommands, lines, leaving,
      assigning, failing, line, assigningText, blankText, listingText, failingText,
      leavingText]
  have tokenizedAssigning :
      tokenize "y = x * 2" =
        .ok [
          ⟨.identifier, "y", 0⟩, ⟨.symbol, "=", 2⟩, ⟨.identifier, "x", 4⟩,
          ⟨.symbol, "*", 6⟩, ⟨.number, "2", 8⟩
        ] :=
    rfl
  have tokenizedFailing :
      tokenize "1 / 0" =
        .ok [⟨.number, "1", 0⟩, ⟨.symbol, "/", 2⟩, ⟨.number, "0", 4⟩] :=
    rfl
  have valued :
      (Expression.reportAfter values [] assigning).outcome =
        .value (some (.int 6)) := by
    rw [Expression.reportAfter_of_tokenized assigning tokenizedAssigning]
    rfl
  have failed :
      (Expression.reportAfter values [assigning] failing).outcome =
        .failed ⟨.divisionByZero, some 2⟩ := by
    rw [Expression.reportAfter_of_tokenized failing tokenizedFailing]
    rfl
  have printed :
      evaluations session lines =
        [[.out "6\n"], [.out "Error: Division by zero (at position 2)\n"]] := by
    have course :
        Expression.reports nestingLimit values [assigning, failing] =
          [Expression.reportAfter values [] assigning,
            Expression.reportAfter values [assigning] failing] :=
      rfl
    have shown : displayed (some (.int 6)) = .ok "6" :=
      displayed_int (Arithmetic.writable_of_bitLength (by decide))
    have message :
        onScreen ("Error: " ++ literal (Failure.text ⟨.divisionByZero, some 2⟩) ++ "\n") =
          "Error: Division by zero (at position 2)\n" := by
      decide +kernel
    have onlyResults := written_of_quiet quiet rfl values [assigning, failing]
    rw [written] at onlyResults
    rw [refines, evaluated, onlyResults, course]
    simp only [List.map_cons, List.map_nil, valued, failed, resultPieces, shown, message]
    rfl
  have withoutBlank :
      evaluations session (assigning :: line ":vars" :: failing :: leaving) =
        evaluations session lines :=
    (removes [assigning] (line " ") (line ":vars" :: failing :: leaving) rfl).2.1
      (by decide) (by decide)
  have withoutFailure :
      evaluations session (assigning :: line " " :: line ":vars" :: leaving) =
        [[.out "6\n"]] := by
    let before := [assigning, line " ", line ":vars"]
    have allAnswered : answered before = before := by
      simp [answered, quitCommands, before, assigning, line, assigningText, blankText,
        listingText]
    have evaluatedBefore : sources before = [assigning] := by
      simp [sources, strippedInput, isSource, before, assigning, line, assigningText,
        blankText, listingText]
    have unblanked : strippedInput failing = failing :=
      strippedInput_eq_self failingText
    have removed :=
      (removes before failing leaving rfl).2.2 ⟨.divisionByZero, some 2⟩
        (by decide) (by decide) allAnswered
        (by rw [evaluatedBefore, unblanked]; exact failed)
    rw [printed, evaluatedBefore] at removed
    exact removed
  refine ⟨writable, ?_, printed, withoutBlank, withoutFailure⟩
  rw [transcript]

end Loop

end Reckoner.CommandLine
