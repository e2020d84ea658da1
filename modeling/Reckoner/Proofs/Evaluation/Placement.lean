import Reckoner.Proofs.Evaluation.Frame
import Reckoner.Proofs.Syntax.Offence

namespace Reckoner

/-!
# Where failures are reported

Every failure of a source is reported at a place in the source, unless it is nested too
deeply. The place is a token, or the end of all tokens if a parenthesis is still open
there, or the first number that is malformed. A message that shows a piece of the
source shows the text that is found at the place.

While tokens are evaluated it is enough to know that the token in hand is one of them:
what fails for a token is given its position at once, and what fails for the next token
looks it up in the stream.
-/

/-- The kinds of failure whose message shows a piece of the source. -/
def FailureKind.ShowsText : FailureKind → Prop
  | .invalidExpressionStart => True
  | .unexpectedToken => True
  | .missingOperand => True
  | .undefinedIdentifier => True
  | .malformedNumber => True
  | _ => False

/-- The piece of the source that a message shows, for all kinds that show one. -/
inductive FailureKind.Shows :
    FailureKind →
    String →
    String →
    Prop where
  | unexpectedStart
      (lexeme : String) :
      Shows .invalidExpressionStart
        ("Unexpected " ++ Text.quoted lexeme ++ " at start of expression")
        lexeme
  | unexpectedToken
      (lexeme : String) :
      Shows .unexpectedToken
        ("Unexpected " ++ Text.quoted lexeme ++ " after expression") lexeme
  | missingOperand
      (lexeme : String) :
      Shows .missingOperand ("Missing operand for " ++ Text.quoted lexeme)
        lexeme
  | malformedNumber
      (lexeme : String) :
      Shows .malformedNumber ("Malformed number: " ++ Text.quoted lexeme)
        lexeme
  | undefinedVariable
      (name : String) :
      Shows .undefinedIdentifier ("Undefined identifier: " ++ name) name
  | undefinedFunction
      (name : String) :
      Shows .undefinedIdentifier ("Undefined function: " ++ name ++ "()") name

/-- A cause that shows no other piece of a source than a text. -/
def Cause.ShowsAtMost
    (cause : Cause)
    (text : String) :
    Prop :=
  cause.kind.ShowsText → cause.kind.Shows cause.message text

/-- A cause of another kind shows no piece of the source. -/
theorem Cause.showsAtMost_of_not_showsText
    {cause : Cause}
    (shows : ¬ cause.kind.ShowsText)
    (text : String) :
    cause.ShowsAtMost text :=
  fun impossible => absurd impossible shows

/-- An exit that belongs to one of the tokens, unless a parenthesis is open. -/
inductive Exit.PointsTo
    (tokens : List Token) :
    Exit →
    Prop where
  | token
      {cause : Cause}
      {token : Token}
      (member : token ∈ tokens)
      (shows : cause.ShowsAtMost token.lexeme) :
      PointsTo tokens (.placed cause token.position)
  | unbalanced
      {cause : Cause}
      {position : Nat}
      (isUnbalanced : cause.kind = .unbalancedParentheses) :
      PointsTo tokens (.placed cause position)
  | fault
      {fault : Fault} :
      PointsTo tokens (.fault fault)

/-- What the calculator exits with points to one of the tokens. -/
theorem Exit.OfCalculator.pointsTo
    {tokens : List Token}
    {exit : Exit}
    (raised : exit.OfCalculator tokens) :
    exit.PointsTo tokens := by
  cases raised with
  | fault => exact .fault
  | unexpectedStart member => exact .token member fun _ => .unexpectedStart _
  | unexpectedToken member => exact .token member fun _ => .unexpectedToken _
  | missingOperand member => exact .token member fun _ => .missingOperand _
  | unbalanced isUnbalanced => exact .unbalanced isUnbalanced
  | undefinedVariable member => exact .token member fun _ => .undefinedVariable _
  | call member raised =>
      cases raised with
      | undefinedFunction => exact .token member fun _ => .undefinedFunction _
      | argumentMismatch count =>
          exact .token member (Cause.showsAtMost_of_not_showsText id _)
      | callUndefined argument reason =>
          exact .token member (Cause.showsAtMost_of_not_showsText id _)
      | fault => exact .fault
  | operation member raised =>
      cases raised with
      | operation raised =>
          cases raised with
          | domain isDomain =>
              refine .token member (Cause.showsAtMost_of_not_showsText ?_ _)
              rw [isDomain]
              exact id
          | unwritable => exact .fault
      | malformed => exact .token member fun _ => .malformedNumber _

namespace Expression

/--
The places where a failure of a source may be reported, with the text that is there:
a token; the end of all tokens, if a parenthesis is open when they are used up; or the
first malformed number of a source that has no tokens.
-/
inductive FailurePlace
    (environment : Environment)
    (levels : Nat)
    (source : String)
    (kind : FailureKind) :
    Nat →
    String →
    Prop where
  | token
      {tokens : List Token}
      {token : Token}
      (tokenized : tokenize source = .ok tokens)
      (member : token ∈ tokens) :
      FailurePlace environment levels source kind
        token.position token.lexeme
  | usedUp
      {tokens : List Token}
      (tokenized : tokenize source = .ok tokens)
      (isUnbalanced : kind = .unbalancedParentheses)
      (noneLeft :
        ((complete ⟨Grammar.frozenStandard, environment⟩
          levels).progressAfter (Progress.start tokens)).stream.rest = []) :
      FailurePlace environment levels source kind (Token.endOfAll tokens) ""
  | malformedRun
      {before after : List Run}
      {bad : Run}
      (untokenized : ∀ tokens, tokenize source ≠ .ok tokens)
      (cut : Run.runs source.toList = before ++ bad :: after)
      (wellFormed : ∀ run ∈ before, run.WellFormed)
      (malformed : ¬ bad.WellFormed) :
      FailurePlace environment levels source kind
        (before.flatMap Run.text).length (String.ofList bad.text)

variable {environment : Environment}
variable {levels : Nat}
variable {source : String}
variable {kind : FailureKind}

/-- The text of a place stands there. -/
theorem FailurePlace.standsAt
    {position : Nat}
    {text : String}
    (place : FailurePlace environment levels source kind position text) :
    StandsAt source position text := by
  cases place with
  | token tokenized member =>
      exact Token.standsAt_of_tokenize tokenized member
  | usedUp tokenized _ _ =>
      exact .ofNothing (Token.endOfAll_le_length tokenized)
  | @malformedRun before after bad _ cut _ _ =>
      refine
        ⟨before.flatMap Run.text, after.flatMap Run.text, ?_, rfl⟩
      rw [← Run.flatten_runs source.toList, cut]
      simp

/-- A failure at a place of a source, of which the message shows what is there. -/
structure FailsAt
    (environment : Environment)
    (levels : Nat)
    (source : String)
    (failure : Failure)
    (position : Nat)
    (text : String) : Prop where
  position_eq : failure.position = some position
  place : FailurePlace environment levels source failure.kind position text
  shows :
    failure.kind.ShowsText →
    text ≠ "" ∧ failure.kind.Shows failure.message text

/-- A source without tokens fails at its first malformed number. -/
theorem exists_failsAt_of_untokenized
    (environment : Environment)
    (levels : Nat)
    {failure : Failure}
    (untokenized : tokenize source = .error failure) :
    ∃ position text,
      FailsAt environment levels source failure position text := by
  have noTokens : ∀ tokens, tokenize source ≠ .ok tokens := by
    intro tokens tokenized
    cases tokenized.symm.trans untokenized
  rw [tokenize_eq_tokensFrom] at untokenized
  rcases Run.wellFormed_or_exists_first (Run.runs source.toList) with
    wellFormed | ⟨before, bad, after, cut, wellFormed, malformed⟩
  · rw [Run.tokensFrom_of_wellFormed 0 wellFormed] at untokenized
    cases untokenized
  · rw [cut, Run.tokensFrom_of_malformed 0 wellFormed malformed,
      Nat.zero_add] at untokenized
    cases untokenized
    refine
      ⟨_, _, rfl, .malformedRun noTokens cut wellFormed malformed,
        fun _ => ⟨?_, .malformedNumber _⟩⟩
    have inRuns : bad ∈ Run.runs source.toList := by simp [cut]
    simpa using Run.text_ne_nil inRuns

/-- An open parenthesis is reported at the next token, or behind the last one. -/
theorem exists_failsAt_of_unbalanced
    {tokens : List Token}
    (tokenized : tokenize source = .ok tokens)
    {failure : Failure}
    {after : Progress}
    (offends : Offends environment levels tokens failure after)
    (isUnbalanced : failure.kind = .unbalancedParentheses) :
    ∃ position text,
      FailsAt environment levels source failure position text := by
  have silent : ¬ failure.kind.ShowsText := by
    rw [isUnbalanced]
    exact id
  have position :=
    offends.interrupts.located.position_eq (Or.inr (Or.inr isUnbalanced))
  by_cases exhausted : after.stream.rest = []
  · rw [TokenStream.position_nil exhausted, offends.endPosition_eq]
      at position
    refine
      ⟨_, _, position, .usedUp tokenized isUnbalanced ?_,
        fun impossible => absurd impossible silent⟩
    rw [Step.progressAfter, offends.ran]
    exact exhausted
  · obtain ⟨token, member, position⟩ :=
      offends.exists_mem_of_position_eq tokenized exhausted position
    exact
      ⟨_, _, position, .token tokenized member,
        fun impossible => absurd impossible silent⟩

/-- Tokens fail at one of them, or at their end if a parenthesis is open. -/
theorem exists_failsAt_of_tokenized
    {tokens : List Token}
    (tokenized : tokenize source = .ok tokens)
    {failure : Failure}
    {after : Progress}
    (ran :
      (complete ⟨Grammar.frozenStandard, environment⟩ levels).run
        (Progress.start tokens) = .error (.failure failure) after) :
    ∃ position text,
      FailsAt environment levels source failure position text := by
  -- Only an open parenthesis is reported at the cursor, which may be at the end.
  by_cases isUnbalanced : failure.kind = .unbalancedParentheses
  · have isSyntactic : failure.kind.IsSyntactic := by
      rw [isUnbalanced]
      trivial
    exact exists_failsAt_of_unbalanced tokenized ⟨ran, isSyntactic⟩ isUnbalanced
  · have pointsTo := (ofCalculator_of_run_complete ran).pointsTo
    cases pointsTo with
    | token member shows =>
        exact
          ⟨_, _, rfl, .token tokenized member, fun showsText =>
            ⟨Token.lexeme_ne_empty_of_tokenize tokenized member,
              shows showsText⟩⟩
    | unbalanced kind => exact absurd kind isUnbalanced

/--
Failures point into the source. Unless a source is nested too deeply, its failure has a
position, and a text stands there that ends within the source. It is that of a token;
or nothing, at the end of all tokens, if a parenthesis is open when they are used up;
or that of the first malformed number. If the message shows a piece of the source, it
is this text.
-/
theorem failure_points_into_source
    (environment : Environment)
    (levels : Nat)
    {source : String}
    {failure : Failure}
    (failed :
      (evaluateWithin levels Grammar.frozenStandard environment
        source).outcome = .failed failure)
    (notTooDeep : failure.kind ≠ .nestingTooDeep) :
    ∃ position text,
      failure.position = some position ∧
        FailurePlace environment levels source failure.kind position text ∧
        StandsAt source position text ∧
        position + text.length ≤ source.length ∧
        (failure.kind.ShowsText →
          text ≠ "" ∧ failure.kind.Shows failure.message text) := by
  have failsAt :
      ∃ position text,
        FailsAt environment levels source failure position text := by
    unfold evaluateWithin at failed
    cases tokenized : tokenize source with
    | error unread =>
        simp only [tokenized] at failed
        cases failed
        exact exists_failsAt_of_untokenized environment levels tokenized
    | ok tokens =>
        simp only [tokenized] at failed
        obtain ⟨after, ran⟩ := exists_run_of_failed failed notTooDeep
        exact exists_failsAt_of_tokenized tokenized ran
  obtain ⟨position, text, failsAt⟩ := failsAt
  have stands := failsAt.place.standsAt
  exact
    ⟨position, text, failsAt.position_eq, failsAt.place, stands,
      stands.end_le_length, failsAt.shows⟩

/-- In `2*(rate)` the undefined name is reported where it stands. -/
theorem failure_points_into_source_undefinedName :
    let failure : Failure := ⟨.undefinedVariable "rate", some 3⟩
    (evaluateWithin 3 Grammar.frozenStandard (Environment.builtin fun _ => 0)
        "2*(rate)").outcome = .failed failure ∧
      failure.kind ≠ .nestingTooDeep ∧
      ∃ text,
        StandsAt "2*(rate)" 3 text ∧ text ≠ "" ∧
          FailureKind.Shows .undefinedIdentifier
            "Undefined identifier: rate" text := by
  intro failure
  have tokenized :
      tokenize "2*(rate)" = .ok [
        ⟨.number, "2", 0⟩, ⟨.symbol, "*", 1⟩, ⟨.symbol, "(", 2⟩,
        ⟨.identifier, "rate", 3⟩, ⟨.symbol, ")", 7⟩
      ] := rfl
  have failed :
      (evaluateWithin 3 Grammar.frozenStandard (Environment.builtin fun _ => 0)
        "2*(rate)").outcome = .failed failure := by
    rw [evaluateWithin_of_tokenized tokenized]
    rfl
  have notTooDeep : failure.kind ≠ .nestingTooDeep := by decide
  obtain ⟨position, text, place, _, stands, _, shows⟩ :=
    failure_points_into_source (Environment.builtin fun _ => 0) 3 failed notTooDeep
  obtain rfl : 3 = position := Option.some.inj place
  exact ⟨failed, notTooDeep, text, stands, shows trivial⟩

end Expression

end Reckoner
