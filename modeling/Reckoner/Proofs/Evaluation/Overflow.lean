import Reckoner.Proofs.Evaluation.Finite
import Reckoner.Proofs.Evaluation.Guard
import Reckoner.Proofs.Grammar.Standard
import Reckoner.Proofs.Syntax.Extension

namespace Reckoner

/-!
# Numbers beyond the doubles

A calculator reports overflow if it checks what every numeral, operator and call gives, and
fails there if that is not finite. The calculator as it is does without most of these
checks. On every source the two agree and have finite numbers only, unless the one that
reports fails at a numeral with a point or at a sum, difference, product or quotient of
doubles: there the other one goes on with a number that is not finite.
-/

namespace Table

variable {κ α β : Type}

/-- The table of the same keys with each value changed as its key asks. -/
def mapKeyed
    (change : κ → α → β)
    (table : Table κ α) :
    Table κ β where
  entries := table.entries.map fun entry => (entry.1, change entry.1 entry.2)
  distinct := by
    rw [List.map_map]
    exact table.distinct

/-- Among changed entries the changed value of each key is found. -/
theorem lookup_mapKeyed
    [DecidableEq κ]
    (change : κ → α → β)
    (key : κ)
    (entries : List (κ × α)) :
    lookup key (entries.map fun entry => (entry.1, change entry.1 entry.2)) =
      (lookup key entries).map (change key) := by
  induction entries with
  | nil => rfl
  | cons entry rest inductionHypothesis =>
      by_cases same : entry.1 = key
      · simp [lookup, same]
      · simp [lookup, same, inductionHypothesis]

/-- A changed table binds each key to its changed value. -/
theorem get?_mapKeyed
    [DecidableEq κ]
    (change : κ → α → β)
    (table : Table κ α)
    (key : κ) :
    (table.mapKeyed change).get? key = (table.get? key).map (change key) :=
  lookup_mapKeyed change key table.entries

end Table

/-- An attempt that ends with an exit in place of a number that is not finite. -/
def Attempt.reporting
    (attempt : Attempt Number)
    (exit : Exit) :
    Attempt Number :=
  attempt.bind fun result =>
    if result.isFinite then .ok result else .error exit

/-- The opening that reports overflow: numerals are malformed, results too large. -/
def Opening.reporting
    (symbol : String) :
    Opening →
    Opening
  | .literal read =>
      .literal fun lexeme =>
        (read lexeme).reporting (.unplaced (.malformedNumber lexeme))
  | .operator operation precedence =>
      .operator
        (fun operand =>
          (operation operand).reporting (.unplaced (.tooLarge symbol)))
        precedence
  | .group => .group
  | .name => .name

/-- The continuation that reports results that are too large. -/
def Continuation.reporting
    (symbol : String) :
    Continuation →
    Continuation
  | .binary operation precedence associativity =>
      .binary
        (fun left right =>
          (operation left right).reporting (.unplaced (.tooLarge symbol)))
        precedence associativity
  | .trailing operation precedence =>
      .trailing
        (fun operand =>
          (operation operand).reporting (.unplaced (.tooLarge symbol)))
        precedence

/-- The grammar of a calculator that reports overflow. -/
def Grammar.reporting
    (grammar : Grammar) :
    Grammar where
  openings := grammar.openings.mapKeyed Opening.reporting
  continuations := grammar.continuations.mapKeyed Continuation.reporting
  frozen := grammar.frozen

/-- The function that has no value where its result is not finite. -/
def Function.reporting
    (function : Function) :
    Function :=
  fun site argument =>
    (function site argument).bind fun
      | none => .ok none
      | some result =>
          if result.isFinite then .ok (some result) else .error .outsideDomain

/-- The functions of a calculator that reports overflow. -/
def Functions.reporting
    (functions : Functions) :
    Functions :=
  functions.map Function.reporting

/-- The operators that give the double they compute without a check. -/
def Arithmetic.unchecked : List (String × BinaryOperation) :=
  sumOperators ++ [("*", multiply), ("/", divide)]

/--
A token reports a number beyond the doubles: the number it denotes, or what it makes of
finite operands as an unchecked operator. Powers and logarithms are among them only if
those of the platform are not finite.
-/
inductive Token.ReportsOverflow
    (token : Token) :
    Cause →
    Prop where
  | numeral
      {value : Number}
      (isNumber : token.kind = .number)
      (written : Arithmetic.number token.lexeme = .ok value)
      (overflows : value.isFinite = false) :
      ReportsOverflow token (.malformedNumber token.lexeme)
  | operator
      {symbol : String}
      {operation : BinaryOperation}
      {left right result : Number}
      (isOperator : token.isSymbol symbol = true)
      (isUnchecked : (symbol, operation) ∈ Arithmetic.unchecked)
      (leftFinite : left.isFinite = true)
      (rightFinite : right.isFinite = true)
      (computed : operation left right = .ok result)
      (overflows : result.isFinite = false) :
      ReportsOverflow token (.tooLarge symbol)
  | power
      {left right result : Number}
      (isOperator : token.isSymbol "^" = true)
      (leftFinite : left.isFinite = true)
      (rightFinite : right.isFinite = true)
      (computed : Arithmetic.power left right = .ok result)
      (overflows : result.isFinite = false)
      (loses : Arithmetic.LosesPower) :
      ReportsOverflow token (.tooLarge "^")
  | logarithm
      {argument result : Number}
      {text : String}
      (isLog : token.lexeme = "log")
      (finite : argument.isFinite = true)
      (shown : Arithmetic.shown argument = .ok text)
      (computed :
        Function.log (some token.position) (some argument) = .ok (some result))
      (overflows : result.isFinite = false) :
      ReportsOverflow token
        (.callUndefined token.lexeme text Fault.outsideDomain.message)

/-- Overflow is reported as a malformed number or as a result that does not exist. -/
theorem Token.ReportsOverflow.kind_eq
    {token : Token}
    {cause : Cause}
    (reports : token.ReportsOverflow cause) :
    cause.kind = .malformedNumber ∨ cause.kind = .mathDomain := by
  cases reports with
  | numeral => exact .inl rfl
  | operator => exact .inr rfl
  | power => exact .inr rfl
  | logarithm => exact .inr rfl

/-- An exit with the overflow that one of the tokens reports, at its place. -/
def Exit.ReportsOverflow
    (tokens : List Token)
    (exit : Exit) :
    Prop :=
  ∃ token ∈ tokens,
    ∃ cause,
      exit = .placed cause token.position ∧ token.ReportsOverflow cause

/-- All numbers of a report are finite: its value and what has been assigned. -/
structure Report.Finite
    (report : Report) :
    Prop where
  value :
    ∀ number,
      report.outcome = .value (some number) →
      number.isFinite = true
  assigned : ∀ entry ∈ report.assigned, entry.2.isFinite = true

namespace Report.Finite

variable {report other : Report}

/-- A failure gives no number, so only the assignments have to be finite. -/
theorem ofFailed
    {failure : Failure}
    (failed : report.outcome = .failed failure)
    (assigned : ∀ entry ∈ report.assigned, entry.2.isFinite = true) :
    report.Finite := by
  refine ⟨fun number valued => ?_, assigned⟩
  cases failed.symm.trans valued

/-- Reports with the same numbers are finite together. -/
theorem congr
    (finite : report.Finite)
    (outcome : other.outcome = report.outcome)
    (assigned : other.assigned = report.assigned) :
    other.Finite := by
  refine ⟨?_, ?_⟩
  · rw [outcome]
    exact finite.value
  · rw [assigned]
    exact finite.assigned

end Report.Finite

/-- An attempt that reports is guarded if its exit is a stop wherever it is needed. -/
theorem Attempt.guards_reporting
    {attempt : Attempt Number}
    {exit : Exit}
    {stops : Exit → Prop}
    (isStop :
      ∀ result,
        attempt = .ok result →
        result.isFinite = false →
        stops exit) :
    (attempt.reporting exit).Guards (fun x => x.isFinite = true) stops
      attempt := by
  cases attempt with
  | error other => exact .error other
  | ok result =>
      cases finite : result.isFinite with
      | true =>
          have same : Attempt.reporting (.ok result) exit = .ok result := by
            simp [Attempt.reporting, Except.bind, finite]
          rw [same]
          exact .ok finite
      | false =>
          have stopped : Attempt.reporting (.ok result) exit = .error exit := by
            simp [Attempt.reporting, Except.bind, finite]
          rw [stopped]
          exact .stopped (isStop result rfl finite) _

/-- An attempt whose result is finite has nothing to report. -/
theorem Attempt.Finite.guards_reporting
    {attempt : Attempt Number}
    (finite : attempt.Finite)
    (exit : Exit)
    (stops : Exit → Prop) :
    (attempt.reporting exit).Guards (fun x => x.isFinite = true) stops
      attempt := by
  refine Attempt.guards_reporting fun result given overflows => ?_
  rw [given] at finite
  cases finite with
  | ok satisfied => cases satisfied.symm.trans overflows

section Tokens

variable {tokens : List Token}
variable {token : Token}

/-- What an unchecked operator gives is finite or reported. -/
theorem Arithmetic.guards_unchecked
    (isToken : token ∈ tokens)
    {symbol : String}
    (isOperator : token.isSymbol symbol = true)
    {operation : BinaryOperation}
    (isUnchecked : (symbol, operation) ∈ unchecked)
    {left right : Number}
    (leftFinite : left.isFinite = true)
    (rightFinite : right.isFinite = true) :
    ((operation left right).reporting (.unplaced (.tooLarge symbol))).Guards
      (fun x => x.isFinite = true)
      (fun exit => (exit.attributedTo token.position).ReportsOverflow tokens)
      (operation left right) :=
  Attempt.guards_reporting fun _ computed overflows =>
    ⟨token, isToken, _, rfl,
      .operator isOperator isUnchecked leftFinite rightFinite computed
        overflows⟩

/-- A power is finite, or the platform has lost one. -/
theorem Arithmetic.guards_power
    (isToken : token ∈ tokens)
    (isOperator : token.isSymbol "^" = true)
    {left right : Number}
    (leftFinite : left.isFinite = true)
    (rightFinite : right.isFinite = true) :
    ((power left right).reporting (.unplaced (.tooLarge "^"))).Guards
      (fun x => x.isFinite = true)
      (fun exit => (exit.attributedTo token.position).ReportsOverflow tokens)
      (power left right) := by
  refine Attempt.guards_reporting fun result computed overflows => ?_
  have powers := satisfies_power leftFinite rightFinite
  rw [computed] at powers
  cases powers with
  | ok satisfied =>
      rcases satisfied with finite | loses
      · cases finite.symm.trans overflows
      · exact
          ⟨token, isToken, _, rfl,
            .power isOperator leftFinite rightFinite computed overflows loses⟩

namespace Grammar

/-- The openings of the calculator, guarded by those that report overflow. -/
theorem guards_opening
    (isToken : token ∈ tokens)
    (named : token.NamesNoKind) :
    Option.Rel
      (Opening.Guards (fun x => x.isFinite = true)
        (Exit.ReportsOverflow tokens) token)
      (frozenStandard.reporting.opening? token)
      (frozenStandard.opening? token) := by
  have reported :
      frozenStandard.reporting.opening? token =
        (frozenStandard.opening? token).map
          (Opening.reporting (SlotKey.ofToken token).slot) :=
    Table.get?_mapKeyed _ _ _
  rw [reported]
  cases known : frozenStandard.opening? token with
  | none => exact .none
  | some opening =>
      refine .some ?_
      cases standardOpening known with
      | group => exact .group
      | literal slot =>
          exact
            .literal
              (Attempt.guards_reporting fun _ written overflows =>
                ⟨token, isToken, _, rfl,
                  .numeral (isNumber_of_slot named slot) written overflows⟩)
      | name => exact .name
      | sign =>
          exact
            .operator _ fun _ finite =>
              (Arithmetic.finite_negate finite).guards_reporting _ _

/-- The continuations of the calculator, guarded by those that report overflow. -/
theorem guards_continuation
    (isToken : token ∈ tokens) :
    Option.Rel
      (Continuation.Guards (fun x => x.isFinite = true)
        (Exit.ReportsOverflow tokens) token)
      (frozenStandard.reporting.continuation? token)
      (frozenStandard.continuation? token) := by
  have reported :
      frozenStandard.reporting.continuation? token =
        (frozenStandard.continuation? token).map
          (Continuation.reporting (SlotKey.ofToken token).slot) :=
    Table.get?_mapKeyed _ _ _
  have ofUnchecked
      (precedence : Precedence)
      {symbol : String}
      {operation : BinaryOperation}
      (isOperator : token.isSymbol symbol = true)
      (isUnchecked : (symbol, operation) ∈ Arithmetic.unchecked) :
      Continuation.Guards (fun x => x.isFinite = true)
        (Exit.ReportsOverflow tokens) token
        (.reporting symbol (.binary operation precedence .left))
        (.binary operation precedence .left) :=
    .binary _ _ fun _ _ leftFinite rightFinite =>
      Arithmetic.guards_unchecked isToken isOperator isUnchecked leftFinite
        rightFinite
  rw [reported]
  cases known : frozenStandard.continuation? token with
  | none => exact .none
  | some continuation =>
      refine .some ?_
      cases standardContinuation known with
      | sum listed isOperator =>
          rw [slot_of_isSymbol isOperator]
          refine ofUnchecked _ isOperator ?_
          exact List.mem_append_left _ listed
      | product listed isOperator =>
          rw [slot_of_isSymbol isOperator]
          simp only [productOperators, List.mem_cons, Prod.mk.injEq,
            List.not_mem_nil, or_false] at listed
          rcases listed with ⟨rfl, rfl⟩ | ⟨rfl, rfl⟩ | ⟨rfl, rfl⟩
          · exact ofUnchecked _ isOperator (by simp [Arithmetic.unchecked])
          · exact ofUnchecked _ isOperator (by simp [Arithmetic.unchecked])
          · exact
              .binary _ _ fun _ _ leftFinite rightFinite =>
                (Arithmetic.finite_modulo leftFinite
                  rightFinite).guards_reporting _ _
      | power isOperator =>
          rw [slot_of_isSymbol isOperator]
          exact
            .binary _ _ fun _ _ leftFinite rightFinite =>
              Arithmetic.guards_power isToken isOperator leftFinite rightFinite
      | factorial =>
          exact
            .trailing _ fun operand _ =>
              (Arithmetic.finite_factorial operand).guards_reporting _ _

end Grammar

end Tokens

namespace Functions

/-- A call is checked, whether the name has a function or not. -/
theorem call_reporting
    (functions : Functions)
    (name : String)
    (site : CallSite)
    (argument : Option Number) :
    functions.reporting.call name site argument =
      Function.reporting (functions.call name) site argument := by
  unfold call reporting
  rw [Table.get?_map]
  cases functions.get? name with
  | none => rfl
  | some function => rfl

/-- Of the functions only the logarithm can overflow. -/
theorem isLog_of_overflow
    {draws : Draws}
    (areDraws : ∀ site, Function.IsDraw (draws site))
    {name : String}
    {site : CallSite}
    {argument : Option Number}
    (finite : OptionSatisfies (fun x => x.isFinite = true) argument)
    {result : Number}
    (called : (builtin draws).call name site argument = .ok (some result))
    (overflows : result.isFinite = false) :
    name = "log" ∧
      ∃ x,
        argument = some x ∧
          x.isFinite = true ∧
          Function.log site (some x) = .ok (some result) := by
  unfold call at called
  cases found : (builtin draws).get? name with
  | none =>
      rw [found] at called
      cases called
  | some function =>
      rw [found] at called
      rcases keepsFinite_builtin areDraws found with keeps | ⟨isLog, rfl⟩
      · have resultFinite := keeps site argument result finite called
        cases resultFinite.symm.trans overflows
      · cases argument with
        | none => cases called
        | some x => exact ⟨isLog, x, rfl, finite x rfl, called⟩

/-- The calls of the calculator, guarded by those that report overflow. -/
theorem guards_value
    {draws : Draws}
    (areDraws : ∀ site, Function.IsDraw (draws site))
    {tokens : List Token}
    {token : Token}
    (isToken : token ∈ tokens)
    {argument : Option Number}
    (finite : OptionSatisfies (fun x => x.isFinite = true) argument) :
    ((builtin draws).reporting.value token.lexeme argument
      (some token.position)).Guards (fun x => x.isFinite = true)
      (Exit.ReportsOverflow tokens)
      ((builtin draws).value token.lexeme argument (some token.position)) := by
  unfold value
  rw [call_reporting, Function.reporting]
  cases called :
      (builtin draws).call token.lexeme (some token.position) argument with
  | error fault =>
      dsimp only [Except.bind]
      cases fault.kind <;> cases shownArgument argument <;> exact .error _
  | ok answer =>
      cases answer with
      | none => exact .error _
      | some result =>
          cases overflows : result.isFinite with
          | true =>
              simp only [Except.bind, overflows, if_true]
              cases shownArgument argument with
              | ok text => exact .ok overflows
              | error exit => exact .error _
          | false =>
              simp only [Except.bind, overflows, Bool.false_eq_true, if_false]
              obtain ⟨isLog, x, rfl, xFinite, computed⟩ :=
                isLog_of_overflow areDraws finite called overflows
              cases shown : shownArgument (some x) with
              | ok text =>
                  exact
                    .stopped
                      ⟨token, isToken, _, rfl,
                        .logarithm isLog xFinite shown computed overflows⟩
                      _
              | error exit => exact .error _

end Functions

/-- The two calculators on finite variables and on tokens of a source. -/
theorem EvaluationContext.guards_reporting
    {draws : Draws}
    (areDraws : ∀ site, Function.IsDraw (draws site))
    {values : Variables}
    (finite :
      ∀ name number,
        values.get? name = some number →
        number.isFinite = true)
    {tokens : List Token}
    (named : ∀ token ∈ tokens, token.NamesNoKind) :
    EvaluationContext.Guards tokens (fun x => x.isFinite = true)
      (Exit.ReportsOverflow tokens)
      ⟨Grammar.frozenStandard.reporting,
        ⟨values, (Functions.builtin draws).reporting⟩⟩
      ⟨Grammar.frozenStandard, ⟨values, Functions.builtin draws⟩⟩ where
  values := rfl
  bound := finite
  openings token isToken := Grammar.guards_opening isToken (named token isToken)
  continuations _ isToken := Grammar.guards_continuation isToken
  call _ isToken _ argumentFinite :=
    Functions.guards_value areDraws isToken argumentFinite

/-- The constants every calculator starts with are finite. -/
theorem Variables.isFinite_builtin
    {name : String}
    {number : Number}
    (found : Variables.builtin.get? name = some number) :
    number.isFinite = true := by
  have member := Table.mem_of_get?_ofList found
  simp only [List.mem_cons, Prod.mk.injEq, List.not_mem_nil,
    or_false] at member
  rcases member with ⟨_, rfl⟩ | ⟨_, rfl⟩
  · decide +kernel
  · decide +kernel

/-- The number that an outcome gives, if it gives one. -/
def Outcome.number? : Outcome → Option Number
  | .value optional => optional
  | .failed _ => none
  | .faulted _ => none

/-- Only values give numbers. -/
theorem Outcome.number?_eq_some_iff
    {outcome : Outcome}
    {number : Number} :
    outcome.number? = some number ↔ outcome = .value (some number) := by
  cases outcome with
  | value optional => simp [number?]
  | failed failure => simp [number?]
  | faulted fault => simp [number?]

/--
On every source the calculator ends as the one that reports overflow does, with finite
numbers only, unless an overflow is reported there at one of the tokens.
-/
theorem Expression.finite_or_reportsOverflow
    {draws : Draws}
    (areDraws : ∀ site, Function.IsDraw (draws site))
    {values : Variables}
    (finite :
      ∀ name number,
        values.get? name = some number →
        number.isFinite = true)
    (levels : Nat)
    (source : String) :
    let functions := Functions.builtin draws
    let report :=
      evaluateWithin levels Grammar.frozenStandard ⟨values, functions⟩ source
    let reporting :=
      evaluateWithin levels Grammar.frozenStandard.reporting
        ⟨values, functions.reporting⟩ source
    reporting.Finite ∧
      (reporting.outcome = report.outcome ∧
          reporting.assigned = report.assigned ∧
          report.Finite ∨
        ∃ tokens token cause,
          tokenize source = .ok tokens ∧
            token ∈ tokens ∧
            token.ReportsOverflow cause ∧
            reporting.outcome = .failed ⟨cause, some token.position⟩ ∧
            (cause.kind = .malformedNumber ∨ cause.kind = .mathDomain)) := by
  intro functions report reporting
  cases tokenized : tokenize source with
  | error failure =>
      have same :
          reporting.outcome = report.outcome ∧
            reporting.assigned = report.assigned := by
        simp only [reporting, report, evaluateWithin_of_untokenized tokenized,
          and_self]
      have reportFinite : report.Finite := by
        simp only [report, evaluateWithin_of_untokenized tokenized]
        exact .ofFailed rfl fun _ member => absurd member List.not_mem_nil
      exact
        ⟨reportFinite.congr same.1 same.2,
          .inl ⟨same.1, same.2, reportFinite⟩⟩
  | ok tokens =>
      have named : ∀ token ∈ tokens, token.NamesNoKind :=
        fun _ member => namesNoKind_of_tokenize tokenized member
      have guards :
          reporting.Guards (fun x => x.isFinite = true)
            (Exit.ReportsOverflow tokens) report := by
        simp only [reporting, report, evaluateWithin_of_tokenized tokenized]
        exact
          (EvaluationContext.guards_reporting areDraws finite
            named).reportOfTokens levels
      cases guards with
      | same outcome assigned value assigns =>
          have reportFinite : report.Finite := ⟨value, assigns⟩
          exact
            ⟨reportFinite.congr outcome assigned,
              .inl ⟨outcome, assigned, reportFinite⟩⟩
      | stopped isStop outcome assigns =>
          obtain ⟨token, isToken, cause, rfl, reports⟩ := isStop
          exact
            ⟨.ofFailed outcome assigns,
              .inr
                ⟨tokens, token, cause, rfl, isToken, reports, outcome,
                  reports.kind_eq⟩⟩

/-- Nothing overflows in `y=rnd(4)*rnd()`, whatever is drawn for the two calls. -/
theorem Expression.finite_or_reportsOverflow_product :
    let draws : Draws := fun site => if site = some 2 then 0.5 else 0.25
    let values := Variables.builtin
    let functions := Functions.builtin draws
    (∀ site, Function.IsDraw (draws site)) ∧
      (∀ name number,
        values.get? name = some number →
        number.isFinite = true) ∧
      ∃ number,
        (evaluateWithin 3 Grammar.frozenStandard ⟨values, functions⟩
          "y=rnd(4)*rnd()").outcome = .value (some number) ∧
          number.isFinite = true := by
  intro draws values functions
  have areDraws (site : CallSite) : Function.IsDraw (draws site) := by
    change Function.IsDraw (if site = some 2 then 0.5 else 0.25)
    split
    · exact ⟨by decide +kernel, by decide +kernel⟩
    · exact ⟨by decide +kernel, by decide +kernel⟩
  have finite :
      ∀ name number,
        values.get? name = some number →
        number.isFinite = true :=
    fun _ _ => Variables.isFinite_builtin
  have gives :
      (evaluateWithin 3 Grammar.frozenStandard.reporting
        ⟨values, functions.reporting⟩
        "y=rnd(4)*rnd()").outcome.number?.isSome = true := by
    decide +kernel
  obtain ⟨number, given⟩ := Option.isSome_iff_exists.1 gives
  have outcome := Outcome.number?_eq_some_iff.1 given
  obtain ⟨_, ⟨same, _, reportFinite⟩ |
      ⟨_, _, _, _, _, _, failed, _⟩⟩ :=
    finite_or_reportsOverflow areDraws finite 3 "y=rnd(4)*rnd()"
  · have reported := same.symm.trans outcome
    exact ⟨areDraws, finite, number, reported, reportFinite.value _ reported⟩
  · cases outcome.symm.trans failed

/-- A product of doubles that overflows becomes a value. -/
theorem Expression.evaluate_overflowingProduct :
    let environment := Environment.builtin fun _ => 0.5
    (∀ name number,
      environment.values.get? name = some number →
      number.isFinite = true) ∧
      ∃ number,
        (evaluate Grammar.frozenStandard environment "10^308*10.0").outcome =
          .value (some number) ∧
          number.isFinite = false := by
  intro environment
  have overflows :
      (evaluate Grammar.frozenStandard environment
        "10^308*10.0").outcome.number?.map Number.isFinite =
        some false := by
    decide +kernel
  obtain ⟨number, given, notFinite⟩ := Option.map_eq_some_iff.1 overflows
  exact
    ⟨fun _ _ => Variables.isFinite_builtin, number,
      Outcome.number?_eq_some_iff.1 given, notFinite⟩

end Reckoner
