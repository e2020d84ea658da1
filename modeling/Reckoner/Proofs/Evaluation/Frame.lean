import Mathlib.Data.List.Infix
import Reckoner.Proofs.Evaluation.Invariant
import Reckoner.Proofs.Grammar.Standard

namespace Reckoner

/-!
# What an evaluation leaves alone

An evaluation writes nothing but variables, and of these only such as have a name that
stands in front of an equals sign. This holds for every part of an expression and
however its evaluation ends: what has been assigned so far is part of the progress,
and the invariant is that all names in it come from such places in the tokens.

A source without such a place can therefore be evaluated again and again, always with
the same report.
-/

namespace Token

/-- The name that tokens begin with, if an equals sign is behind it. -/
def assignedFirst? : List Token → Option String
  | token :: sign :: _ =>
      if token.kind = .identifier ∧ sign.isSymbol "=" = true then
        some token.lexeme
      else
        none
  | _ => none

/-- The names that stand in front of an equals sign. -/
def assignedNames
    (tokens : List Token) :
    List String :=
  tokens.tails.filterMap assignedFirst?

/-- A name is assigned exactly if it stands somewhere with an equals sign behind it. -/
theorem mem_assignedNames_iff
    {tokens : List Token}
    {name : String} :
    name ∈ assignedNames tokens ↔
      ∃ token sign later,
        token :: sign :: later <:+ tokens ∧
          token.kind = .identifier ∧ token.lexeme = name ∧
          sign.isSymbol "=" = true := by
  rw [assignedNames, List.mem_filterMap]
  constructor
  · rintro ⟨tail, isTail, assigned⟩
    have isSuffix : tail <:+ tokens := (List.mem_tails tail tokens).1 isTail
    match tail, assigned with
    | token :: sign :: later, assigned =>
        rw [assignedFirst?, Option.ite_none_right_eq_some] at assigned
        obtain ⟨⟨isName, isSign⟩, same⟩ := assigned
        exact
          ⟨token, sign, later, isSuffix, isName, Option.some.inj same, isSign⟩
  · rintro ⟨token, sign, later, isSuffix, isName, rfl, isSign⟩
    refine ⟨token :: sign :: later, (List.mem_tails _ _).2 isSuffix, ?_⟩
    rw [assignedFirst?, if_pos ⟨isName, isSign⟩]

end Token

/--
An environment that differs from the one before in the variables of some names at
most. All that were bound still are, and without names nothing changes at all.
-/
structure Environment.ChangesOnly
    (before : Environment)
    (names : List String)
    (after : Environment) : Prop where
  functions : after.functions = before.functions
  bound :
    ∀ name,
      (before.values.get? name).isSome = true →
      (after.values.get? name).isSome = true
  kept :
    ∀ name,
      name ∉ names →
      after.values.get? name = before.values.get? name
  same : names = [] → after = before

namespace Environment.ChangesOnly

variable {before : Environment}
variable {names : List String}

/-- Nothing has changed. -/
theorem refl
    (before : Environment)
    (names : List String) :
    before.ChangesOnly names before where
  functions := rfl
  bound _ isBound := isBound
  kept _ _ := rfl
  same _ := rfl

/-- Assignments to some of the names change no others. -/
theorem ofSetAll
    {assigned : List (String × Number)}
    (listed : ∀ entry ∈ assigned, entry.1 ∈ names) :
    before.ChangesOnly names (before.setAll assigned) where
  functions := rfl
  bound name isBound := by
    rcases Table.get?_insertAll_bound_or_kept assigned name with
      ⟨number, _, found⟩ | ⟨_, kept⟩
    · rw [setAll, found]
      rfl
    · rw [setAll, kept]
      exact isBound
  kept name unlisted := by
    rcases Table.get?_insertAll_bound_or_kept assigned name with
      ⟨number, member, _⟩ | ⟨_, kept⟩
    · exact absurd (listed _ member) unlisted
    · exact kept before.values
  same noNames := by
    have nothing : assigned = [] := by
      apply List.eq_nil_iff_forall_not_mem.2
      intro entry member
      have impossible := listed entry member
      rw [noNames] at impossible
      exact List.not_mem_nil impossible
    rw [nothing]
    rfl

end Environment.ChangesOnly

/-- The progress that a step leaves behind, with a value or with an exit. -/
def Step.progressAfter
    {α : Type}
    (step : Step α)
    (progress : Progress) :
    Progress :=
  match step.run progress with
  | .ok _ moved => moved
  | .error _ moved => moved

/-- A step leaves its invariant behind, however it ends. -/
theorem Step.Ensures.invariant_progressAfter
    {α : Type}
    {invariant : Progress → Prop}
    {value : α → Prop}
    {exits : Exit → Prop}
    {step : Step α}
    (ensures : Ensures invariant value exits step)
    {progress : Progress}
    (holds : invariant progress) :
    invariant (step.progressAfter progress) := by
  have leaves := ensures progress holds
  unfold progressAfter
  cases ran : step.run progress with
  | ok result moved =>
      rw [ran] at leaves
      exact leaves.2
  | error exit moved =>
      rw [ran] at leaves
      exact leaves.2

namespace Step

variable {α β : Type}

/-- What a step leaves behind shows in its result. -/
theorem progressAfter_congr
    {step other : Step α}
    {progress start : Progress}
    (same : step.run progress = other.run start) :
    step.progressAfter progress = other.progressAfter start := by
  rw [progressAfter, progressAfter, same]

/-- Mapping the value of a step does not move it. -/
@[simp] theorem progressAfter_map
    (apply : α → β)
    (step : Step α)
    (progress : Progress) :
    (apply <$> step).progressAfter progress = step.progressAfter progress := by
  rw [progressAfter, progressAfter, run_map]
  cases step.run progress with
  | ok value moved => rfl
  | error exit moved => rfl

end Step

/-- The environment with all assignments that have been made, none taken back. -/
def Progress.environment
    (progress : Progress)
    (before : Environment) :
    Environment :=
  before.setAll progress.assigned.reverse

/-- Among tokens: what is still to come, and what has been assigned. -/
structure Progress.AssignsWithin
    (tokens : List Token)
    (progress : Progress) : Prop where
  isSuffix : progress.stream.rest <:+ tokens
  listed : ∀ entry ∈ progress.assigned, entry.1 ∈ Token.assignedNames tokens

namespace Progress.AssignsWithin

variable {tokens : List Token}
variable {progress : Progress}

/-- At every place in the tokens nothing has been assigned yet. -/
theorem start
    (tokens : List Token)
    (passed : Nat) :
    ((Progress.start tokens).skip passed).AssignsWithin tokens where
  isSuffix := List.drop_suffix passed tokens
  listed _ impossible := by cases impossible

/-- The assignments made so far change only the names that stand before a sign. -/
theorem changesOnly
    (within : progress.AssignsWithin tokens)
    (before : Environment) :
    before.ChangesOnly (Token.assignedNames tokens)
      (progress.environment before) :=
  .ofSetAll fun entry member =>
    within.listed entry (List.mem_reverse.1 member)

end Progress.AssignsWithin

/-- If only identifiers open names, every step assigns within the tokens. -/
theorem Evaluator.closed_assignsWithin
    {context : EvaluationContext}
    {tokens : List Token}
    (identifies :
      ∀ token ∈ tokens,
        context.grammar.opening? token = some .name →
        token.kind = .identifier) :
    Closed context
      (fun token later => token :: later <:+ tokens)
      (Progress.AssignsWithin tokens)
      (fun _ => True)
      (fun _ => True) := by
  apply Closed.ofFound
  case finds =>
    intro progress token later within shape
    exact shape ▸ within.isSuffix
  case skips =>
    intro progress within _
    exact {
      isSuffix := (List.drop_suffix 1 _).trans within.isSuffix
      listed := within.listed
    }
  case assigns =>
    intro progress token sign later number within isFound opens isSign
    -- The value has been evaluated since, but the name was found in front of the sign.
    refine ⟨within.isSuffix, ?_⟩
    intro entry member
    rcases List.mem_cons.1 member with rfl | isEarlier
    · have isName : token.kind = .identifier :=
        identifies token (isFound.subset List.mem_cons_self) opens
      exact
        Token.mem_assignedNames_iff.2
          ⟨token, sign, later, isFound, isName, rfl, isSign⟩
    · exact within.listed entry isEarlier

/-- In a source only identifiers open names, so every step assigns within its tokens. -/
theorem Evaluator.closed_assignsWithin_of_tokenize
    (environment : Environment)
    {source : String}
    {tokens : List Token}
    (tokenized : tokenize source = .ok tokens) :
    Closed ⟨Grammar.frozenStandard, environment⟩
      (fun token later => token :: later <:+ tokens)
      (Progress.AssignsWithin tokens)
      (fun _ => True)
      (fun _ => True) := by
  apply closed_assignsWithin
  intro token member opens
  have named := namesNoKind_of_tokenize tokenized member
  exact Grammar.isIdentifier_of_opening named opens

namespace Expression

/-- The names that a source assigns; none if it has no tokens. -/
def assignedNames
    (source : String) :
    List String :=
  match tokenize source with
  | .ok tokens => Token.assignedNames tokens
  | .error _ => []

/-- The names that the tokens of a source assign are those of the source. -/
theorem assignedNames_of_tokenize
    {source : String}
    {tokens : List Token}
    (tokenized : tokenize source = .ok tokens) :
    assignedNames source = Token.assignedNames tokens := by
  rw [assignedNames, tokenized]

/-- The assignments of a report are those that its evaluation leaves behind. -/
theorem assigned_reportOfTokens
    (grammar : Grammar)
    (environment : Environment)
    (levels : Nat)
    (tokens : List Token) :
    (reportOfTokens grammar environment levels tokens).assigned =
      ((complete ⟨grammar, environment⟩ levels).progressAfter
        (Progress.start tokens)).assigned.reverse := by
  unfold reportOfTokens Step.progressAfter
  cases (complete ⟨grammar, environment⟩ levels).run (Progress.start tokens) with
  | ok value progress => rfl
  | error exit progress => rfl

/-- All assignments of a report are to names that the source assigns. -/
theorem mem_assignedNames_of_assigned
    {levels : Nat}
    {environment : Environment}
    {source : String}
    {entry : String × Number}
    (member :
      entry ∈
        (evaluateWithin levels Grammar.frozenStandard environment
          source).assigned) :
    entry.1 ∈ assignedNames source := by
  unfold evaluateWithin at member
  cases tokenized : tokenize source with
  | error failure =>
      rw [tokenized] at member
      cases member
  | ok tokens =>
      simp only [tokenized, assigned_reportOfTokens, List.mem_reverse] at member
      have closed :=
        Evaluator.closed_assignsWithin_of_tokenize environment tokenized
      have within :=
        (closed.complete (fun _ _ _ => trivial) levels).invariant_progressAfter
          (Progress.AssignsWithin.start tokens 0)
      rw [assignedNames_of_tokenize tokenized]
      exact within.listed entry member

/-- However a source ends, it changes only the names that it assigns. -/
theorem changesOnly_evaluateWithin
    (levels : Nat)
    (environment : Environment)
    (source : String) :
    environment.ChangesOnly (assignedNames source)
      (evaluateWithin levels Grammar.frozenStandard environment
        source).environment := by
  have listed :
      ∀ entry ∈
        (evaluateWithin levels Grammar.frozenStandard environment
          source).assigned,
        entry.1 ∈ assignedNames source :=
    fun _ member => mem_assignedNames_of_assigned member
  have after :=
    environment_evaluateWithin levels Grammar.frozenStandard environment source
  rw [after]
  cases (evaluateWithin levels Grammar.frozenStandard environment
      source).outcome with
  | value optional => exact .ofSetAll listed
  | failed failure => exact .refl environment _
  | faulted fault => exact .ofSetAll listed

/--
The variables after sources that are evaluated one after another, each with the
variables that the one before has left behind and with functions of its own.
-/
def valuesAfter
    (levels : Nat)
    (grammar : Grammar) :
    Variables →
    List (Functions × String) →
    Variables
  | values, [] => values
  | values, (functions, source) :: later =>
      let report := evaluateWithin levels grammar ⟨values, functions⟩ source
      valuesAfter levels grammar report.environment.values later

/-- Sources that assign nothing leave the variables of a session as they are. -/
theorem valuesAfter_of_assignsNothing
    (levels : Nat)
    (values : Variables)
    {calls : List (Functions × String)}
    (nothing : ∀ call ∈ calls, assignedNames call.2 = []) :
    valuesAfter levels Grammar.frozenStandard values calls = values := by
  induction calls with
  | nil => rfl
  | cons call later inductionHypothesis =>
      rcases call with ⟨functions, source⟩
      obtain ⟨first, others⟩ := List.forall_mem_cons.1 nothing
      have unchanged :
          (evaluateWithin levels Grammar.frozenStandard ⟨values, functions⟩
            source).environment = ⟨values, functions⟩ :=
        (changesOnly_evaluateWithin levels ⟨values, functions⟩ source).same first
      rw [valuesAfter, unchanged]
      exact inductionHypothesis others

/--
Evaluation writes only variables whose names stand in front of an equals sign. This
is so wherever in the tokens an evaluator begins, at every threshold and however it
ends, with nothing taken back; and it is so of a source as a whole. A source without
such a name leaves the environment as it was, so its report does not depend on how
often it has been evaluated before.
-/
theorem changesOnly_assignedNames
    (levels : Nat)
    (environment : Environment)
    (source : String) :
    let context : EvaluationContext := ⟨Grammar.frozenStandard, environment⟩
    let report :=
      evaluateWithin levels Grammar.frozenStandard environment source
    (∀ tokens,
      tokenize source = .ok tokens →
      ∀ passed threshold,
        environment.ChangesOnly (assignedNames source)
          (((Evaluator.evaluate context levels threshold).progressAfter
            ((Progress.start tokens).skip passed)).environment
              environment)) ∧
      environment.ChangesOnly (assignedNames source) report.environment ∧
      (assignedNames source = [] →
        ∀ times,
          let values :=
            valuesAfter levels Grammar.frozenStandard environment.values
              (List.replicate times (environment.functions, source))
          values = environment.values ∧
            evaluateWithin levels Grammar.frozenStandard
              ⟨values, environment.functions⟩ source = report) := by
  intro context report
  refine
    ⟨fun tokens tokenized passed threshold => ?_,
      changesOnly_evaluateWithin levels environment source,
      fun nothing times => ?_⟩
  · have closed :=
      Evaluator.closed_assignsWithin_of_tokenize environment tokenized
    have within :=
      (closed.evaluate levels threshold).invariant_progressAfter
        (Progress.AssignsWithin.start tokens passed)
    rw [assignedNames_of_tokenize tokenized]
    exact within.changesOnly environment
  · have unchanged :
        valuesAfter levels Grammar.frozenStandard environment.values
            (List.replicate times (environment.functions, source)) =
          environment.values := by
      apply valuesAfter_of_assignsNothing
      intro call member
      rw [List.eq_of_mem_replicate member]
      exact nothing
    simp only [unchanged]
    exact ⟨trivial, rfl⟩

/-- In `(y=1)+z` nothing but `y` is written, and `x*x` can be evaluated again. -/
theorem changesOnly_assignedNames_interruptedSum :
    let environment : Environment :=
      ⟨Table.ofList [("x", .int 5)], Table.empty⟩
    let context : EvaluationContext := ⟨Grammar.frozenStandard, environment⟩
    let tokens : List Token := [
      ⟨.symbol, "(", 0⟩, ⟨.identifier, "y", 1⟩, ⟨.symbol, "=", 2⟩,
      ⟨.number, "1", 3⟩, ⟨.symbol, ")", 4⟩, ⟨.symbol, "+", 5⟩,
      ⟨.identifier, "z", 6⟩
    ]
    let after :=
      ((Evaluator.evaluate context 3 0).progressAfter
        ((Progress.start tokens).skip 0)).environment environment
    let values :=
      valuesAfter 3 Grammar.frozenStandard environment.values
        (List.replicate 2 (environment.functions, "x*x"))
    tokenize "(y=1)+z" = .ok tokens ∧
      after.values.get? "y" = some (.int 1) ∧
      after.values.get? "x" = some (.int 5) ∧
      after.values.get? "z" = none ∧
      assignedNames "x*x" = [] ∧
      (evaluateWithin 3 Grammar.frozenStandard
        ⟨values, environment.functions⟩ "x*x").outcome =
          .value (some (.int 25)) := by
  intro environment context tokens after values
  have tokenized : tokenize "(y=1)+z" = .ok tokens := rfl
  have tokenizedSquare :
      tokenize "x*x" = .ok [
        ⟨.identifier, "x", 0⟩, ⟨.symbol, "*", 1⟩, ⟨.identifier, "x", 2⟩
      ] := rfl
  have onlySum : assignedNames "(y=1)+z" = ["y"] := rfl
  have nothing : assignedNames "x*x" = [] := rfl
  obtain ⟨interrupted, _, _⟩ :=
    changesOnly_assignedNames 3 environment "(y=1)+z"
  have changes : environment.ChangesOnly (assignedNames "(y=1)+z") after :=
    interrupted tokens tokenized 0 0
  rw [onlySum] at changes
  obtain ⟨_, _, repeated⟩ := changesOnly_assignedNames 3 environment "x*x"
  have sameReport := (repeated nothing 2).2
  refine ⟨tokenized, ?_, ?_, ?_, nothing, ?_⟩
  · rfl
  · exact changes.kept "x" (by decide)
  · exact changes.kept "z" (by decide)
  · rw [sameReport, evaluateWithin_of_tokenized tokenizedSquare]
    rfl

end Expression

end Reckoner
