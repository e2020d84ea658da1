import Reckoner.Proofs.Evaluation.Session
import Reckoner.Workbench

namespace Reckoner

/-!
# Sources that fail leave no trace

Calculators on a workbench evaluate sources in any order, and those that share an
environment see the assignments of each other. A source that fails leaves the whole
workbench as it was. So the other sources have the same reports without it, and also if
it is tried again right away, be it by another calculator of the same environment.

With the functions every calculator has and with writable variables nothing but a
failure can take the place of a value. These two are kept by every evaluation, in all
environments of the workbench.
-/

/-- Whether a report has a value, which may be missing if nothing is written. -/
def Report.isSuccess
    (report : Report) :
    Bool :=
  match report.outcome with
  | .value _ => true
  | .failed _ => false
  | .faulted _ => false

/-- A report without a fault that is no success is a failure. -/
theorem Report.Clean.exists_failure
    {report : Report}
    (clean : report.Clean)
    (unsuccessful : report.isSuccess = false) :
    ∃ failure, report.outcome = .failed failure := by
  unfold isSuccess at unsuccessful
  cases outcome : report.outcome with
  | value value => simp [outcome] at unsuccessful
  | failed failure => exact ⟨failure, rfl⟩
  | faulted fault => exact absurd outcome (clean.returned fault)

/-- A source and the calculator that is asked for it. -/
structure Call where
  calculator : String
  source : String
  deriving Repr, DecidableEq

namespace Workbench

variable {workbench : Workbench}
variable {name other : String}

/-- The report of a call. -/
def report
    (workbench : Workbench)
    (call : Call) :
    Report :=
  (workbench.evaluate Grammar.frozenStandard call.calculator call.source).1

/-- The workbench after a call. -/
def next
    (workbench : Workbench)
    (call : Call) :
    Workbench :=
  (workbench.evaluate Grammar.frozenStandard call.calculator call.source).2

/-- The reports of calls that are made one after another. -/
def reports
    (workbench : Workbench) :
    List Call →
    List Report
  | [] => []
  | call :: rest => workbench.report call :: reports (workbench.next call) rest

/-- The workbench after calls have been made one after another. -/
def after
    (workbench : Workbench) :
    List Call →
    Workbench
  | [] => workbench
  | call :: rest => after (workbench.next call) rest

/-- The calls that succeed where they are made. -/
def successes
    (workbench : Workbench) :
    List Call →
    List Call
  | [] => []
  | call :: rest =>
      if (workbench.report call).isSuccess then
        call :: successes (workbench.next call) rest
      else
        successes (workbench.next call) rest

/-- The same source with each of some calculators. -/
def copies
    (calculators : List String)
    (source : String) :
    List Call :=
  calculators.map fun calculator => ⟨calculator, source⟩

/-- Calculators that work in the same environment. -/
def Share
    (workbench : Workbench)
    (name other : String) :
    Prop :=
  workbench.calculators.get? name = workbench.calculators.get? other

/-- An open calculator with the functions of every calculator and writable variables. -/
def IsSound
    (workbench : Workbench)
    (name : String) :
    Prop :=
  ∃ values draws,
    workbench.find? name = some ⟨values, Functions.builtin draws⟩ ∧
      values.Writable

/-- The calls ask sound calculators only. -/
def AllSound
    (workbench : Workbench)
    (calls : List Call) :
    Prop :=
  ∀ call ∈ calls, workbench.IsSound call.calculator

variable {call : Call}
variable {calls : List Call}

/-- Calculators that share an environment find the same one. -/
theorem Share.find?_eq
    (share : workbench.Share name other) :
    workbench.find? name = workbench.find? other :=
  congrArg (·.bind fun index => workbench.environments[index]?) share

/-- A calculator that is opened in the environment of another one shares it. -/
theorem share_share
    (workbench : Workbench)
    (name other : String) :
    (workbench.share name other).Share name other := by
  obtain ⟨index, known, _⟩ := workbench.exists_index_ensure other
  simp [Share, share, known, Table.get?_insert]

/-- Calculators that share an environment have the same report of a source. -/
theorem Share.report_eq
    (share : workbench.Share name other)
    (source : String) :
    workbench.report ⟨name, source⟩ = workbench.report ⟨other, source⟩ := by
  simp only [report, evaluate, Workbench.environment, share.find?_eq]

namespace IsSound

/-- A calculator that shares the environment of a sound one is sound. -/
theorem ofShare
    (sound : workbench.IsSound other)
    (share : workbench.Share name other) :
    workbench.IsSound name := by
  unfold IsSound
  rwa [share.find?_eq]

/-- What a sound calculator reports is clean. -/
theorem clean
    (sound : workbench.IsSound call.calculator) :
    (workbench.report call).Clean := by
  obtain ⟨values, draws, opened, writable⟩ := sound
  rw [report, evaluate, environment_of_find? opened]
  exact Expression.clean_evaluateWithin nestingLimit writable draws call.source

/-- A call of a sound calculator keeps all sound calculators sound. -/
theorem next
    (sound : workbench.IsSound call.calculator)
    (otherSound : workbench.IsSound other) :
    (workbench.next call).IsSound other := by
  have stored := sound.clean.stored
  obtain ⟨values, draws, opened, _⟩ := sound
  have functions :
      (workbench.report call).environment.functions =
        Functions.builtin draws := by
    rw [report, evaluate, environment_of_find? opened]
    exact Expression.functions_evaluateWithin _ _ _ call.source
  obtain ⟨otherValues, otherDraws, otherOpened, otherWritable⟩ := otherSound
  -- The other calculator shares the environment that has changed, or it does not.
  rcases find?_update opened (workbench.report call).environment
      otherOpened with
    changed | kept
  · refine ⟨(workbench.report call).environment.values, draws, ?_, stored⟩
    rw [← functions]
    exact changed
  · exact ⟨otherValues, otherDraws, kept, otherWritable⟩

/-- A call without a value leaves the workbench as it was. -/
theorem next_eq
    (sound : workbench.IsSound call.calculator)
    (unsuccessful : (workbench.report call).isSuccess = false) :
    workbench.next call = workbench := by
  obtain ⟨failure, failed⟩ := sound.clean.exists_failure unsuccessful
  obtain ⟨values, draws, opened, _⟩ := sound
  have kept :
      (workbench.report call).environment =
        workbench.environment call.calculator :=
    Expression.environment_of_failed failed
  have unchanged := update_of_find? opened
  rw [← environment_of_find? opened, ← kept] at unchanged
  exact unchanged

end IsSound

namespace AllSound

/-- What the first call leaves behind is sound for the other calls. -/
theorem rest
    {later : List Call}
    (allSound : workbench.AllSound (call :: later)) :
    (workbench.next call).AllSound later := by
  obtain ⟨sound, restSound⟩ := List.forall_mem_cons.1 allSound
  exact fun other member => sound.next (restSound other member)

/-- Calls keep all sound calculators sound. -/
theorem after
    (allSound : workbench.AllSound calls)
    (sound : workbench.IsSound name) :
    (workbench.after calls).IsSound name := by
  induction calls generalizing workbench with
  | nil => exact sound
  | cons call rest inductionHypothesis =>
      have callSound := allSound call List.mem_cons_self
      exact inductionHypothesis allSound.rest (callSound.next sound)

end AllSound

/-- A call does not change who shares an environment. -/
theorem Share.next
    (share : workbench.Share name other)
    (sound : workbench.IsSound call.calculator) :
    (workbench.next call).Share name other := by
  obtain ⟨values, draws, opened, _⟩ := sound
  obtain ⟨_, _, _, updated⟩ :=
    exists_update_eq opened (workbench.report call).environment
  have moved :
      workbench.next call =
        workbench.update call.calculator (workbench.report call).environment :=
    rfl
  rw [moved, updated]
  exact share

/-- Calls do not change who shares an environment. -/
theorem Share.after
    (share : workbench.Share name other)
    (allSound : workbench.AllSound calls) :
    (workbench.after calls).Share name other := by
  induction calls generalizing workbench with
  | nil => exact share
  | cons call rest inductionHypothesis =>
      have callSound := allSound call List.mem_cons_self
      exact inductionHypothesis (share.next callSound) allSound.rest

/-- There is one report of each call. -/
theorem length_reports
    (workbench : Workbench)
    (calls : List Call) :
    (workbench.reports calls).length = calls.length := by
  induction calls generalizing workbench with
  | nil => rfl
  | cons call rest inductionHypothesis =>
      exact congrArg Nat.succ (inductionHypothesis _)

/-- Later reports are those of the workbench that the calls before have led to. -/
theorem reports_append
    (workbench : Workbench)
    (before later : List Call) :
    workbench.reports (before ++ later) =
      workbench.reports before ++ (workbench.after before).reports later := by
  induction before generalizing workbench with
  | nil => rfl
  | cons call rest inductionHypothesis =>
      exact congrArg (List.cons _) (inductionHypothesis _)

/-- Calls are made one after another, also if some are made later. -/
theorem after_append
    (workbench : Workbench)
    (before later : List Call) :
    workbench.after (before ++ later) =
      (workbench.after before).after later := by
  induction before generalizing workbench with
  | nil => rfl
  | cons call rest inductionHypothesis => exact inductionHypothesis _

/-- Without the calls that fail the others are what they were. -/
theorem reports_successes
    (allSound : workbench.AllSound calls) :
    workbench.reports (workbench.successes calls) =
        (workbench.reports calls).filter Report.isSuccess ∧
      workbench.after (workbench.successes calls) =
        workbench.after calls := by
  induction calls generalizing workbench with
  | nil => exact ⟨rfl, rfl⟩
  | cons call rest inductionHypothesis =>
      obtain ⟨sameReports, sameAfter⟩ := inductionHypothesis allSound.rest
      simp only [successes, reports, after]
      cases success : (workbench.report call).isSuccess with
      | true =>
          rw [List.filter_cons_of_pos success, if_pos rfl]
          exact ⟨congrArg (List.cons _) sameReports, sameAfter⟩
      | false =>
          -- The call is left out, and the others begin where it has begun.
          have sound := allSound call List.mem_cons_self
          rw [List.filter_cons_of_neg (by simp [success]),
            if_neg Bool.false_ne_true]
          rw [sound.next_eq success] at sameReports sameAfter ⊢
          exact ⟨sameReports, sameAfter⟩

/-- A call that fails does so again for all who share its environment. -/
theorem reports_copies
    (sound : workbench.IsSound call.calculator)
    (unsuccessful : (workbench.report call).isSuccess = false)
    {calculators : List String}
    (allShare :
      ∀ calculator ∈ calculators,
        workbench.Share calculator call.calculator) :
    workbench.reports (copies calculators call.source) =
        List.replicate calculators.length (workbench.report call) ∧
      workbench.after (copies calculators call.source) = workbench := by
  induction calculators with
  | nil => exact ⟨rfl, rfl⟩
  | cons calculator rest inductionHypothesis =>
      obtain ⟨share, restShare⟩ := List.forall_mem_cons.1 allShare
      obtain ⟨sameReports, sameAfter⟩ := inductionHypothesis restShare
      have sameReport := share.report_eq call.source
      have unchanged :
          workbench.next ⟨calculator, call.source⟩ = workbench :=
        (sound.ofShare share).next_eq (by rwa [sameReport])
      simp only [copies, List.map_cons, reports, after, unchanged, sameReport]
      exact ⟨congrArg (List.cons _) sameReports, sameAfter⟩

/--
Failures leave no trace. Calculators that may share environments are asked for sources
in any order. Without the calls that fail, the others have the same reports, and the
workbench is the same afterwards. It also does not matter if a source that has failed
is tried again any number of times, by any calculators that share the environment: it
has the same report, all other reports stay, and the workbench is the same afterwards.
-/
theorem unaffected_by_failures
    {workbench : Workbench}
    {calls : List Call}
    (allSound : workbench.AllSound calls) :
    workbench.reports (workbench.successes calls) =
        (workbench.reports calls).filter Report.isSuccess ∧
      workbench.after (workbench.successes calls) = workbench.after calls ∧
      ∀ before call later inFront report behind calculators,
        calls = before ++ call :: later →
        workbench.reports calls = inFront ++ report :: behind →
        inFront.length = before.length →
        report.isSuccess = false →
        (∀ calculator ∈ calculators,
          workbench.Share calculator call.calculator) →
        let repeated :=
          before ++ call :: (copies calculators call.source ++ later)
        workbench.reports repeated =
            inFront ++
              report ::
                (List.replicate calculators.length report ++ behind) ∧
          workbench.after repeated = workbench.after calls := by
  obtain ⟨sameReports, sameAfter⟩ := reports_successes allSound
  refine ⟨sameReports, sameAfter, ?_⟩
  rintro before call later inFront report behind calculators rfl reported
    sameLength unsuccessful allShare repeated
  obtain ⟨beforeSound, restSound⟩ := List.forall_mem_append.1 allSound
  have sound : (workbench.after before).IsSound call.calculator :=
    AllSound.after beforeSound (restSound call List.mem_cons_self)
  -- The reports are cut where the call is made.
  rw [reports_append] at reported
  obtain ⟨rfl, sameRest⟩ :=
    List.append_inj reported (by rw [length_reports, sameLength])
  obtain ⟨rfl, rfl⟩ := List.cons.inj sameRest
  have unchanged := sound.next_eq unsuccessful
  obtain ⟨copiedReports, copiedAfter⟩ :=
    reports_copies sound unsuccessful fun calculator member =>
      (allShare calculator member).after beforeSound
  constructor
  · rw [reports_append, reports, unchanged, reports_append, copiedReports,
      copiedAfter]
  · rw [after_append, after_append, after, after, unchanged, after_append,
      copiedAfter]

/-- A failure of one calculator is not seen by another one of the same environment. -/
theorem unaffected_by_failures_sharedEnvironment :
    let environment : Environment := ⟨Table.empty, Functions.builtin fun _ => 0⟩
    let workbench :=
      ((empty Environment.empty).openIn "left" environment).share "right"
        "left"
    let calls : List Call :=
      [⟨"left", "x=2"⟩, ⟨"right", "(x=3)+z"⟩, ⟨"left", "x"⟩]
    workbench.AllSound calls ∧
      workbench.Share "right" "left" ∧
      workbench.successes calls = [⟨"left", "x=2"⟩, ⟨"left", "x"⟩] ∧
      workbench.after [⟨"left", "x=2"⟩, ⟨"left", "x"⟩] =
        workbench.after calls ∧
      workbench.after [
          ⟨"left", "x=2"⟩, ⟨"right", "(x=3)+z"⟩, ⟨"left", "(x=3)+z"⟩,
          ⟨"left", "x"⟩
        ] = workbench.after calls := by
  intro environment workbench calls
  have writable : Variables.Writable Table.empty := by
    intro name number found
    rw [Table.get?_empty] at found
    cases found
  have sound : workbench.IsSound "left" := ⟨Table.empty, fun _ => 0, rfl, writable⟩
  have share : workbench.Share "right" "left" := share_share _ _ _
  have allSound : workbench.AllSound calls := by
    intro call member
    simp only [calls, List.mem_cons, List.not_mem_nil, or_false] at member
    rcases member with rfl | rfl | rfl
    · exact sound
    · exact sound.ofShare share
    · exact sound
  have successes :
      workbench.successes calls = [⟨"left", "x=2"⟩, ⟨"left", "x"⟩] := by
    decide +kernel
  obtain ⟨_, sameAfter, repeats⟩ := unaffected_by_failures allSound
  rw [successes] at sameAfter
  have unsuccessful :
      ((workbench.next ⟨"left", "x=2"⟩).report
        ⟨"right", "(x=3)+z"⟩).isSuccess = false := by
    decide +kernel
  have allShare :
      ∀ calculator ∈ ["left"], workbench.Share calculator "right" := by
    intro calculator member
    obtain rfl := List.mem_singleton.1 member
    exact share.symm
  obtain ⟨_, sameAgain⟩ :=
    repeats [⟨"left", "x=2"⟩] ⟨"right", "(x=3)+z"⟩ [⟨"left", "x"⟩]
      [workbench.report ⟨"left", "x=2"⟩] _ _ ["left"] rfl rfl rfl
      unsuccessful allShare
  exact ⟨allSound, share, successes, sameAfter, sameAgain⟩

end Workbench

end Reckoner
