import Reckoner.Proofs.Evaluation.Operations
import Reckoner.Proofs.Evaluation.SideBySide
import Reckoner.Proofs.Token.Concatenation

namespace Reckoner

/-!
# Layout does not matter

Two sources with the same tokens may place them differently. Positions are carried
along with the tokens, but nothing is ever decided by them: evaluations of the two
sources stay at the same index of their tokens and make the same assignments. So they
have the same outcome, and a failure of one is reported at the token of the other that
has the same index.

This needs operations that leave the position of a failure open, which then is that of
their own token. An operation that names a position itself would name the same one for
both sources.
-/

namespace Token

/-- Two tokens that stand at the same index. -/
def AtSameIndex
    (tokens others : List Token)
    (token other : Token) :
    Prop :=
  ∃ index : Nat, tokens[index]? = some token ∧ others[index]? = some other

/-- Two positions that belong to the same index, to both ends or to nothing. -/
inductive SamePlace
    (tokens others : List Token) :
    Option Nat →
    Option Nat →
    Prop where
  | nowhere : SamePlace tokens others none none
  | token
      {token other : Token}
      (atSameIndex : AtSameIndex tokens others token other) :
      SamePlace tokens others (some token.position) (some other.position)
  | atEnd :
      SamePlace tokens others
        (some (endOfAll tokens)) (some (endOfAll others))

namespace SameContent

variable {tokens others : List Token}
variable {token other : Token}

/-- What stands at an index is the same. -/
theorem map_getElem?
    (sameContent : SameContent tokens others)
    (index : Nat) :
    tokens[index]?.map content = others[index]?.map content := by
  rw [← List.getElem?_map, ← List.getElem?_map, sameContent]

/-- A token is matched by the token at its index. -/
theorem exists_of_getElem?
    (sameContent : SameContent tokens others)
    {index : Nat}
    (here : tokens[index]? = some token) :
    ∃ other, others[index]? = some other := by
  have same := sameContent.map_getElem? index
  rw [here, Option.map_some] at same
  obtain ⟨other, there, _⟩ := Option.map_eq_some_iff.1 same.symm
  exact ⟨other, there⟩

/-- Tokens at the same index say the same. -/
theorem content_eq
    (sameContent : SameContent tokens others)
    (atSameIndex : AtSameIndex tokens others token other) :
    token.content = other.content := by
  obtain ⟨index, here, there⟩ := atSameIndex
  simpa [here, there] using sameContent.map_getElem? index

/-- Tokens at the same index have the same text. -/
theorem lexeme_eq
    (sameContent : SameContent tokens others)
    (atSameIndex : AtSameIndex tokens others token other) :
    token.lexeme = other.lexeme :=
  congrArg Prod.snd (sameContent.content_eq atSameIndex)

/-- There are as many tokens on both sides. -/
theorem length_eq
    (sameContent : SameContent tokens others) :
    tokens.length = others.length := by
  simpa using congrArg List.length sameContent

end SameContent

variable {token other : Token}

/-- Tokens that say the same are the same symbols. -/
theorem isSymbol_eq_of_content
    (same : token.content = other.content)
    (symbol : String) :
    token.isSymbol symbol = other.isSymbol symbol := by
  obtain ⟨sameKind, sameLexeme⟩ := Prod.mk.inj same
  rw [isSymbol, isSymbol, sameKind, sameLexeme]

end Token

namespace Grammar

variable {token other : Token}

/-- Tokens that say the same share their slots. -/
theorem slotKey_eq_of_content
    (same : token.content = other.content) :
    SlotKey.ofToken token = SlotKey.ofToken other := by
  obtain ⟨sameKind, sameLexeme⟩ := Prod.mk.inj same
  rw [SlotKey.ofToken, SlotKey.ofToken, sameKind, sameLexeme]

/-- Tokens that say the same open the same. -/
theorem opening?_eq_of_content
    (grammar : Grammar)
    (same : token.content = other.content) :
    grammar.opening? token = grammar.opening? other := by
  rw [opening?, opening?, slotKey_eq_of_content same]

/-- Tokens that say the same continue the same. -/
theorem continuation?_eq_of_content
    (grammar : Grammar)
    (same : token.content = other.content) :
    grammar.continuation? token = grammar.continuation? other := by
  rw [continuation?, continuation?, slotKey_eq_of_content same]

end Grammar

namespace Exit

/-- An exit that does not say where it belongs. -/
def IsUnplaced : Exit → Prop
  | .failure reported => reported.position = none
  | .fault _ => True

/-- Two exits for the same reason, in places that belong together. -/
inductive SameUpToPlace
    (tokens others : List Token) :
    Exit →
    Exit →
    Prop where
  | failure
      {cause : Cause}
      {position other : Option Nat}
      (samePlace : Token.SamePlace tokens others position other) :
      SameUpToPlace tokens others
        (.failure ⟨cause, position⟩) (.failure ⟨cause, other⟩)
  | fault
      {fault : Fault} :
      SameUpToPlace tokens others (.fault fault) (.fault fault)

variable {tokens others : List Token}
variable {exit : Exit}

/-- Operations do not say where their exits belong. -/
theorem OfOperation.isUnplaced
    (raised : exit.OfOperation) :
    exit.IsUnplaced := by
  cases raised with
  | domain isDomain => rfl
  | unwritable => trivial

/-- What does not say where it belongs is the same exit for both sources. -/
theorem IsUnplaced.sameUpToPlace
    (isUnplaced : exit.IsUnplaced) :
    SameUpToPlace tokens others exit exit := by
  cases exit with
  | fault fault => exact .fault
  | failure reported =>
      obtain ⟨cause, position⟩ := reported
      obtain rfl : position = none := isUnplaced
      exact .failure .nowhere

/-- An exit that is given to two tokens at the same index is the same up to its place. -/
theorem IsUnplaced.sameUpToPlace_attributedTo
    (isUnplaced : exit.IsUnplaced)
    {token other : Token}
    (atSameIndex : Token.AtSameIndex tokens others token other) :
    SameUpToPlace tokens others
      (exit.attributedTo token.position)
      (exit.attributedTo other.position) := by
  cases exit with
  | fault fault => exact .fault
  | failure reported =>
      obtain ⟨cause, position⟩ := reported
      obtain rfl : position = none := isUnplaced
      exact .failure (.token atSameIndex)

end Exit

/-- The exits of the calculator's operations do not say where they belong. -/
theorem Grammar.RaisedAt.isUnplaced
    {token : Token}
    {exit : Exit}
    (raised : RaisedAt token exit) :
    exit.IsUnplaced := by
  cases raised with
  | operation raised => exact raised.isUnplaced
  | malformed => rfl

section Places

variable {tokens others : List Token}
variable {position otherPosition : Option Nat}

/-- A name is bound in both places or undefined in both. -/
theorem agrees_boundValue
    (samePlace : Token.SamePlace tokens others position otherPosition)
    (found : Option Number)
    (name : String) :
    (boundValue found name position).Agrees
      (Exit.SameUpToPlace tokens others)
      (boundValue found name otherPosition) := by
  cases found with
  | some number => exact .ok number
  | none => exact .error (.failure samePlace)

/-- Functions that give the same wherever they are called. -/
def Functions.Deterministic
    (functions : Functions) :
    Prop :=
  ∀ name site other argument,
    functions.call name site argument = functions.call name other argument

/-- Apart from draws the functions every calculator starts with are deterministic. -/
theorem Functions.deterministic_builtin
    {draws : Draws}
    (same : ∀ site other, draws site = draws other) :
    (Functions.builtin draws).Deterministic := by
  intro name site other argument
  unfold call
  cases found : (builtin draws).get? name with
  | none => rfl
  | some function =>
      have member := Table.mem_of_get?_ofList found
      simp only [List.mem_cons, Prod.mk.injEq, List.not_mem_nil,
        or_false] at member
      rcases member with ⟨_, rfl⟩ | ⟨_, rfl⟩ | ⟨_, rfl⟩ | ⟨_, rfl⟩ | ⟨_, rfl⟩ |
        ⟨_, rfl⟩ | ⟨_, rfl⟩ | ⟨_, rfl⟩ | ⟨_, rfl⟩ | ⟨_, rfl⟩ | ⟨_, rfl⟩ |
        ⟨_, rfl⟩ | ⟨_, rfl⟩
      case inl =>
        cases argument with
        | none => simp only [Function.scaledDraw, same site other]
        | some scale => simp only [Function.scaledDraw, same site other]
      all_goals cases argument <;> rfl

/-- A call has the same value in both places, or it fails for the same reason. -/
theorem Functions.Deterministic.agrees_value
    {functions : Functions}
    (deterministic : functions.Deterministic)
    (samePlace : Token.SamePlace tokens others position otherPosition)
    (name : String)
    (argument : Option Number) :
    (functions.value name argument position).Agrees
      (Exit.SameUpToPlace tokens others)
      (functions.value name argument otherPosition) := by
  have shownAgrees :
      (shownArgument argument).Agrees
        (Exit.SameUpToPlace tokens others) (shownArgument argument) := by
    cases argument with
    | none => exact .ok _
    | some number =>
        exact
          (Arithmetic.calculates_shown number).agrees fun _ raised =>
            raised.isUnplaced.sameUpToPlace
  unfold value
  rw [deterministic name position otherPosition]
  cases functions.call name otherPosition argument with
  | error fault =>
      dsimp only
      cases fault.kind with
      | arguments => exact .error (.failure samePlace)
      | value =>
          exact shownAgrees.bind fun _ => .error (.failure samePlace)
      | overflow =>
          exact shownAgrees.bind fun _ => .error (.failure samePlace)
      | exhausted => exact .error .fault
      | nesting => exact .error .fault
  | ok result =>
      cases result with
      | none => exact .error (.failure samePlace)
      | some result => exact shownAgrees.map fun _ => result

end Places

namespace Coupling

/-- Two evaluations that have passed as many tokens of their own source. -/
structure Relaid
    (tokens others : List Token)
    (left right : Progress) : Prop where
  assigned : left.assigned = right.assigned
  endLeft : left.stream.endPosition = Token.endOfAll tokens
  endRight : right.stream.endPosition = Token.endOfAll others
  passed :
    ∃ count,
      left.stream.rest = tokens.drop count ∧
        right.stream.rest = others.drop count

/-- Evaluations of two sources whose tokens say the same. -/
def relaid
    (tokens others : List Token) :
    Coupling where
  together := Relaid tokens others
  beyond _ := False
  tokens := Token.AtSameIndex tokens others
  thresholds := Eq
  exits := Exit.SameUpToPlace tokens others
  abandons _ := False

variable {tokens others : List Token}
variable {left right : Progress}

namespace Relaid

/-- Both evaluations begin at their first tokens. -/
theorem start
    (tokens others : List Token) :
    Relaid tokens others (Progress.start tokens) (Progress.start others) where
  assigned := rfl
  endLeft := rfl
  endRight := rfl
  passed := ⟨0, rfl, rfl⟩

/-- A token on one side is matched by one at its index on the other side. -/
theorem peeks
    (relaid : Relaid tokens others left right)
    (sameContent : Token.SameContent tokens others) :
    left.stream.rest = [] ∧ right.stream.rest = [] ∨
      ∃ token later other otherLater,
        left.stream.rest = token :: later ∧
          right.stream.rest = other :: otherLater ∧
          Token.AtSameIndex tokens others token other := by
  obtain ⟨count, leftRest, rightRest⟩ := relaid.passed
  -- Both next tokens stand at the index that has been reached.
  have leftNext : left.stream.rest.head? = tokens[count]? := by
    rw [leftRest, List.head?_drop]
  have rightNext : right.stream.rest.head? = others[count]? := by
    rw [rightRest, List.head?_drop]
  cases shape : left.stream.rest with
  | nil =>
      have allPassed : tokens.length ≤ count :=
        List.drop_eq_nil_iff.1 (leftRest.symm.trans shape)
      have otherRest : right.stream.rest = [] := by
        rw [rightRest, List.drop_eq_nil_iff, ← sameContent.length_eq]
        exact allPassed
      exact Or.inl ⟨rfl, otherRest⟩
  | cons token later =>
      rw [shape, List.head?_cons] at leftNext
      obtain ⟨other, there⟩ := sameContent.exists_of_getElem? leftNext.symm
      obtain ⟨otherLater, otherShape⟩ :=
        List.head?_eq_some_iff.1 (rightNext.trans there)
      exact
        Or.inr
          ⟨token, later, other, otherLater, rfl, otherShape, count,
            leftNext.symm, there⟩

/-- Both evaluations pass their next token. -/
theorem skip
    (relaid : Relaid tokens others left right)
    (count : Nat) :
    Relaid tokens others (left.skip count) (right.skip count) where
  assigned := relaid.assigned
  endLeft := relaid.endLeft
  endRight := relaid.endRight
  passed := by
    obtain ⟨before, leftRest, rightRest⟩ := relaid.passed
    refine ⟨before + count, ?_, ?_⟩
    · simp [leftRest]
    · simp [rightRest]

/-- Both evaluations make the same assignment. -/
theorem assign
    (relaid : Relaid tokens others left right)
    (name : String)
    (value : Number) :
    Relaid tokens others (left.assign name value) (right.assign name value) where
  assigned := congrArg ((name, value) :: ·) relaid.assigned
  endLeft := relaid.endLeft
  endRight := relaid.endRight
  passed := relaid.passed

/-- Both evaluations are at the same index or at the end. -/
theorem samePlace
    (relaid : Relaid tokens others left right)
    (sameContent : Token.SameContent tokens others) :
    Token.SamePlace tokens others
      (some left.stream.position) (some right.stream.position) := by
  rcases relaid.peeks sameContent with
    ⟨leftEnd, rightEnd⟩ |
      ⟨token, later, other, otherLater, shape, otherShape, atSameIndex⟩
  · rw [TokenStream.position_nil leftEnd, TokenStream.position_nil rightEnd,
      relaid.endLeft, relaid.endRight]
    exact .atEnd
  · rw [TokenStream.position_cons shape, TokenStream.position_cons otherShape]
    exact .token atSameIndex

end Relaid

variable {token other : Token}

/-- An operation gives the same at two tokens with the same index. -/
theorem agrees_relaid
    {α : Type}
    {attempt : Attempt α}
    (unplaced :
      attempt.Satisfies (fun _ => True) fun exit => exit.IsUnplaced)
    (atSameIndex : Token.AtSameIndex tokens others token other) :
    attempt.Agrees ((relaid tokens others).exitsAt token other) attempt :=
  unplaced.agrees fun _ isUnplaced =>
    isUnplaced.sameUpToPlace_attributedTo atSameIndex

/-- Tokens at the same index open alike. -/
theorem openingsAgree_relaid
    {grammar : Grammar}
    (unplaced : grammar.Raises fun _ exit => exit.IsUnplaced)
    (sameContent : Token.SameContent tokens others)
    (atSameIndex : Token.AtSameIndex tokens others token other) :
    OpeningsAgree (relaid tokens others) token other
      (grammar.opening? token) (grammar.opening? other) := by
  rw [← grammar.opening?_eq_of_content (sameContent.content_eq atSameIndex)]
  cases known : grammar.opening? token with
  | none => exact .neither
  | some opening =>
      cases opening with
      | literal read =>
          refine .literal ?_
          rw [← sameContent.lexeme_eq atSameIndex]
          exact agrees_relaid (unplaced.literal known) atSameIndex
      | operator operation precedence =>
          exact
            .operator rfl fun operand =>
              agrees_relaid (unplaced.operator operand known) atSameIndex
      | group => exact .group
      | name => exact .name

/-- Tokens at the same index continue alike. -/
theorem continuationsAgree_relaid
    {grammar : Grammar}
    (unplaced : grammar.Raises fun _ exit => exit.IsUnplaced)
    (sameContent : Token.SameContent tokens others)
    (atSameIndex : Token.AtSameIndex tokens others token other) :
    ContinuationsAgree (relaid tokens others) token other
      (grammar.continuation? token) (grammar.continuation? other) := by
  rw [← grammar.continuation?_eq_of_content
    (sameContent.content_eq atSameIndex)]
  cases known : grammar.continuation? token with
  | none => exact .neither
  | some continuation =>
      cases continuation with
      | binary operation precedence associativity =>
          exact
            .binary rfl (fun _ _ same => by rw [show _ = _ from same])
              fun left right =>
                agrees_relaid (unplaced.binary left right known) atSameIndex
      | trailing operation precedence =>
          exact
            .trailing (fun _ _ same => by rw [show _ = _ from same])
              fun operand =>
                agrees_relaid (unplaced.trailing operand known) atSameIndex

/-- Two sources whose tokens say the same are evaluated side by side. -/
theorem coupled_relaid
    {grammar : Grammar}
    (unplaced : grammar.Raises fun _ exit => exit.IsUnplaced)
    (sameContent : Token.SameContent tokens others)
    {environment : Environment}
    (deterministic : environment.functions.Deterministic) :
    (relaid tokens others).Coupled
      ⟨grammar, environment⟩ ⟨grammar, environment⟩ where
  peeks relaid := relaid.peeks sameContent
  skips relaid _ := Or.inl (relaid.skip 1)
  assigns value atSameIndex relaid := by
    rw [← sameContent.lexeme_eq atSameIndex]
    exact relaid.assign _ value
  beyondSkips _ impossible := impossible
  beyondAssigns _ _ _ impossible := impossible
  symbols symbol atSameIndex :=
    Token.isSymbol_eq_of_content (sameContent.content_eq atSameIndex) symbol
  bottom := rfl
  nesting := .fault
  unexpectedStart atSameIndex := by
    rw [sameContent.lexeme_eq atSameIndex]
    exact .failure (.token atSameIndex)
  missingOperand atSameIndex := by
    rw [sameContent.lexeme_eq atSameIndex]
    exact .failure (.token atSameIndex)
  unexpectedToken atSameIndex := by
    rw [sameContent.lexeme_eq atSameIndex]
    exact .failure (.token atSameIndex)
  unclosedGroup relaid := .failure (relaid.samePlace sameContent)
  unclosedCall relaid atSameIndex := by
    rw [sameContent.lexeme_eq atSameIndex]
    exact .failure (relaid.samePlace sameContent)
  opens atSameIndex := openingsAgree_relaid unplaced sameContent atSameIndex
  continues atSameIndex :=
    continuationsAgree_relaid unplaced sameContent atSameIndex
  call argument atSameIndex := by
    rw [← sameContent.lexeme_eq atSameIndex]
    exact deterministic.agrees_value (.token atSameIndex) _ argument
  reference := by
    intro left right token later other otherLater relaid shape otherShape _ _ _
    obtain ⟨_, _, _, _, leftShape, rightShape, atSameIndex⟩ :=
      (relaid.peeks sameContent).resolve_left fun ended => by
        simp [shape] at ended
    cases shape.symm.trans leftShape
    cases otherShape.symm.trans rightShape
    rw [← sameContent.lexeme_eq atSameIndex, Progress.values,
      Progress.values, relaid.assigned]
    exact agrees_boundValue (.token atSameIndex) _ _

end Coupling

/-- Two outcomes that differ in nothing but where a failure is reported. -/
inductive Outcome.SameUpToPlace
    (tokens others : List Token) :
    Outcome →
    Outcome →
    Prop where
  | value
      {value : Option Number} :
      SameUpToPlace tokens others (.value value) (.value value)
  | failed
      {cause : Cause}
      {position other : Option Nat}
      (samePlace : Token.SamePlace tokens others position other) :
      SameUpToPlace tokens others
        (.failed ⟨cause, position⟩) (.failed ⟨cause, other⟩)
  | faulted
      {fault : Fault} :
      SameUpToPlace tokens others (.faulted fault) (.faulted fault)

namespace Expression

variable {tokens others : List Token}

/-- Exits that are the same up to their places give outcomes that are so. -/
theorem sameUpToPlace_outcomeOfExit
    {exit other : Exit}
    (same : Exit.SameUpToPlace tokens others exit other) :
    Outcome.SameUpToPlace tokens others
      (outcomeOfExit exit) (outcomeOfExit other) := by
  cases same with
  | failure samePlace => exact .failed samePlace
  | @fault fault =>
      cases fault with
      | nesting => exact .failed .nowhere
      | _ => exact .faulted

/-- Outcomes that are the same up to their places keep the same assignments. -/
theorem environmentAfter_eq
    {outcome other : Outcome}
    (same : Outcome.SameUpToPlace tokens others outcome other)
    (environment : Environment)
    (assigned : List (String × Number)) :
    environmentAfter environment assigned outcome =
      environmentAfter environment assigned other := by
  cases same <;> rfl

/-- Tokens that say the same have the same outcome up to its place. -/
theorem sameUpToPlace_reportOfTokens
    {grammar : Grammar}
    (unplaced : grammar.Raises fun _ exit => exit.IsUnplaced)
    (sameContent : Token.SameContent tokens others)
    {environment : Environment}
    (deterministic : environment.functions.Deterministic)
    (levels : Nat) :
    let report := reportOfTokens grammar environment levels tokens
    let other := reportOfTokens grammar environment levels others
    report.outcome.SameUpToPlace tokens others other.outcome ∧
      report.assigned = other.assigned ∧
      report.environment = other.environment := by
  intro report other
  have parallel :
      (Coupling.relaid tokens others).Parallel
        (complete ⟨grammar, environment⟩ levels)
        (complete ⟨grammar, environment⟩ levels) :=
    (Coupling.coupled_relaid unplaced sameContent deterministic).complete
      (Or.inl rfl)
  have corresponds := parallel.corresponds (Coupling.Relaid.start tokens others)
  have sameRun :
      report.outcome.SameUpToPlace tokens others other.outcome ∧
        report.assigned = other.assigned := by
    -- Of the two runs only their results matter, and these correspond.
    simp only [report, other, reportOfTokens]
    generalize (complete _ levels).run (Progress.start tokens) = result
      at corresponds ⊢
    generalize (complete _ levels).run (Progress.start others) = otherResult
      at corresponds ⊢
    cases corresponds with
    | value relaid => exact ⟨.value, congrArg List.reverse relaid.assigned⟩
    | exit correspond relaid =>
        exact
          ⟨sameUpToPlace_outcomeOfExit correspond,
            congrArg List.reverse relaid.assigned⟩
    | valueBeyond impossible => exact impossible.elim
    | exitBeyond impossible => exact impossible.elim
    | abandoned impossible => exact impossible.elim
  obtain ⟨sameOutcome, sameAssigned⟩ := sameRun
  refine ⟨sameOutcome, sameAssigned, ?_⟩
  change
    environmentAfter environment report.assigned report.outcome =
      environmentAfter environment other.assigned other.outcome
  rw [sameAssigned, environmentAfter_eq sameOutcome]

/--
Layout does not matter. If two sources have tokens that say the same one by one, the
operations of the grammar leave open where their failures belong, and the functions are
deterministic, then both sources have the same outcome up to its place: the same value,
or a failure for the same reason. Its position is that of the tokens at the same index,
or the end of either source, or it is not known for both. The same assignments are made,
and the environment is the same afterwards.
-/
theorem unaffected_by_layout
    {grammar : Grammar}
    (unplaced : grammar.Raises fun _ exit => exit.IsUnplaced)
    {source otherSource : String}
    {tokens others : List Token}
    (tokenized : tokenize source = .ok tokens)
    (otherTokenized : tokenize otherSource = .ok others)
    (sameContent : Token.SameContent tokens others)
    {environment : Environment}
    (deterministic : environment.functions.Deterministic)
    (levels : Nat) :
    let report := evaluateWithin levels grammar environment source
    let other := evaluateWithin levels grammar environment otherSource
    report.outcome.SameUpToPlace tokens others other.outcome ∧
      report.assigned = other.assigned ∧
      report.environment = other.environment := by
  intro report other
  simp only [report, other, evaluateWithin_of_tokenized tokenized,
    evaluateWithin_of_tokenized otherTokenized]
  exact
    sameUpToPlace_reportOfTokens unplaced sameContent deterministic levels

/-- In `2+3*x` and ` 2 +3* x` the same name is undefined, at its own place in each. -/
theorem unaffected_by_layout_undefinedName :
    let tokens : List Token := [
      ⟨.number, "2", 0⟩, ⟨.symbol, "+", 1⟩, ⟨.number, "3", 2⟩,
      ⟨.symbol, "*", 3⟩, ⟨.identifier, "x", 4⟩
    ]
    let others : List Token := [
      ⟨.number, "2", 1⟩, ⟨.symbol, "+", 3⟩, ⟨.number, "3", 4⟩,
      ⟨.symbol, "*", 5⟩, ⟨.identifier, "x", 7⟩
    ]
    let environment := Environment.builtin fun _ => 0.5
    let report :=
      evaluateWithin 3 Grammar.frozenStandard environment "2+3*x"
    let other :=
      evaluateWithin 3 Grammar.frozenStandard environment " 2 +3* x"
    environment.functions.Deterministic ∧
      report.outcome = .failed ⟨.undefinedVariable "x", some 4⟩ ∧
      other.outcome = .failed ⟨.undefinedVariable "x", some 7⟩ ∧
      report.outcome.SameUpToPlace tokens others other.outcome := by
  intro tokens others environment report other
  have unplaced :
      Grammar.frozenStandard.Raises fun _ exit => exit.IsUnplaced :=
    Grammar.raises_frozenStandard.mono fun _ _ => Grammar.RaisedAt.isUnplaced
  have deterministic : environment.functions.Deterministic :=
    Functions.deterministic_builtin fun _ _ => rfl
  have tokenized : tokenize "2+3*x" = .ok tokens := rfl
  have otherTokenized : tokenize " 2 +3* x" = .ok others := rfl
  have failed :
      report.outcome = .failed ⟨.undefinedVariable "x", some 4⟩ := by
    simp only [report, evaluateWithin_of_tokenized tokenized]
    rfl
  have otherFailed :
      other.outcome = .failed ⟨.undefinedVariable "x", some 7⟩ := by
    simp only [other, evaluateWithin_of_tokenized otherTokenized]
    rfl
  obtain ⟨same, _⟩ :=
    unaffected_by_layout unplaced tokenized otherTokenized rfl deterministic 3
  exact ⟨deterministic, failed, otherFailed, same⟩

end Expression

end Reckoner
