import Reckoner.Proofs.Grammar.Registration
import Reckoner.Proofs.Syntax.Reading

namespace Reckoner

/-!
# Grammars with registered operators

The grammar of the calculator may be copied and given further operators. However
many are registered, and whatever they compute, the tokens of a shaped tree are
still evaluated as the tree says: punctuation keeps its meaning because its slots
are out of reach, and that is all that reading back asks of a grammar.
-/

namespace Grammar

/-- The symbols and slot names with a meaning that operators must leave alone. -/
def reserved : List String :=
  ["(", ")", "=", TokenKind.number.name, TokenKind.identifier.name]

/-- A grammar that comes from the standard one by registrations of operators. -/
inductive Extension : Grammar → Prop where
  | copied : Extension frozenStandard.copy
  | before
      {grammar grown : Grammar}
      {symbol : String}
      {operation : UnaryOperation}
      {precedence : Precedence}
      (extended : Extension grammar)
      (free : symbol ∉ reserved)
      (registered :
        grammar.registerOpening (.symbol symbol)
          (.operator operation precedence) = .ok grown) :
      Extension grown
  /-- An operator between two operands or after one. -/
  | behind
      {grammar grown : Grammar}
      {symbol : String}
      {continuation : Continuation}
      (extended : Extension grammar)
      (free : symbol ∉ reserved)
      (atLeastAssignment : .assignment ≤ continuation.precedence)
      (registered :
        grammar.registerContinuation (.symbol symbol) continuation =
          .ok grown) :
      Extension grown

/-- A successful registration of an opening fills the slot of its symbol only. -/
theorem openings_of_registerOpening
    {grammar grown : Grammar}
    {key : SlotKey}
    {opening : Opening}
    (registered : grammar.registerOpening key opening = .ok grown) :
    grown.openings = grammar.openings.insert key.slot opening ∧
      grown.continuations = grammar.continuations := by
  obtain ⟨_, rfl⟩ := eq_of_registerOpening registered
  exact ⟨rfl, rfl⟩

/-- A successful registration of a continuation fills the slot of its symbol only. -/
theorem continuations_of_registerContinuation
    {grammar grown : Grammar}
    {key : SlotKey}
    {continuation : Continuation}
    (registered :
      grammar.registerContinuation key continuation = .ok grown) :
    grown.continuations =
        grammar.continuations.insert key.slot continuation ∧
      grown.openings = grammar.openings := by
  obtain ⟨_, rfl⟩ := eq_of_registerContinuation registered
  exact ⟨rfl, rfl⟩

/-- The slots that punctuation owns, and operators above the bottom elsewhere. -/
structure Orderly
    (grammar : Grammar) : Prop where
  signFree : grammar.continuations.get? "=" = none
  openedFree : grammar.continuations.get? "(" = none
  closedFree : grammar.continuations.get? ")" = none
  closedUnopened : grammar.openings.get? ")" = none
  aboveBottom :
    ∀ slot continuation,
      grammar.continuations.get? slot = some continuation →
      .belowAssignment < continuation.precedence

/-- The slot of a symbol is its text. -/
theorem slot_of_isSymbol
    {token : Token}
    {symbol : String}
    (isSymbol : token.isSymbol symbol = true) :
    (SlotKey.ofToken token).slot = symbol := by
  rcases token with ⟨kind, lexeme, position⟩
  simp only [Token.isSymbol, Bool.and_eq_true, decide_eq_true_eq] at isSymbol
  obtain ⟨rfl, rfl⟩ := isSymbol
  rfl

/-- What the slots of a grammar are is what its tokens mean. -/
theorem Orderly.regular
    {grammar : Grammar}
    (orderly : grammar.Orderly) :
    grammar.Regular where
  signContinuesNothing token isSign := by
    rw [continuation?, slot_of_isSymbol isSign]
    exact orderly.signFree
  openedContinuesNothing token isOpened := by
    rw [continuation?, slot_of_isSymbol isOpened]
    exact orderly.openedFree
  closedContinuesNothing token isClosed := by
    rw [continuation?, slot_of_isSymbol isClosed]
    exact orderly.closedFree
  closedOpensNothing token isClosed := by
    rw [opening?, slot_of_isSymbol isClosed]
    exact orderly.closedUnopened
  aboveBottom token continuation known :=
    orderly.aboveBottom _ continuation known

/-- The standard grammar is orderly, frozen or not. -/
theorem orderly_standard
    (frozen : Bool) :
    Orderly { standard with frozen := frozen } where
  signFree := rfl
  openedFree := rfl
  closedFree := rfl
  closedUnopened := rfl
  aboveBottom slot continuation known := by
    have member := Table.mem_of_get?_ofList known
    simp only [List.mem_cons, Prod.mk.injEq, List.not_mem_nil,
      or_false] at member
    rcases member with ⟨_, rfl⟩ | ⟨_, rfl⟩ | ⟨_, rfl⟩ | ⟨_, rfl⟩ |
      ⟨_, rfl⟩ | ⟨_, rfl⟩ | ⟨_, rfl⟩ <;> decide

/-- The standard grammar is regular also if it is frozen. -/
theorem regular_frozenStandard : frozenStandard.Regular :=
  (orderly_standard true).regular

/-- A slot keeps what it has when a symbol of another name is registered. -/
theorem get?_insert_symbol
    {α : Type}
    {symbol slot : String}
    (differs : symbol ≠ slot)
    (table : Table String α)
    (entry : α) :
    (table.insert (SlotKey.symbol symbol).slot entry).get? slot =
      table.get? slot := by
  rw [Table.get?_insert]
  exact if_neg differs

/-- A slot that is reserved keeps what it has when another symbol is registered. -/
private theorem get?_insert_of_reserved
    {α : Type}
    {symbol slot : String}
    (free : symbol ∉ reserved)
    (isReserved : slot ∈ reserved)
    (table : Table String α)
    (entry : α) :
    (table.insert (SlotKey.symbol symbol).slot entry).get? slot =
      table.get? slot :=
  get?_insert_symbol (ne_of_mem_of_not_mem isReserved free).symm table entry

/-- Registrations keep a grammar orderly. -/
theorem Extension.orderly
    {grammar : Grammar}
    (extended : grammar.Extension) :
    grammar.Orderly := by
  induction extended with
  | copied => exact orderly_standard false
  | before extended free registered inductionHypothesis =>
      obtain ⟨openings, continuations⟩ :=
        openings_of_registerOpening registered
      constructor
      case closedUnopened =>
        rw [openings, get?_insert_of_reserved free (by decide)]
        exact inductionHypothesis.closedUnopened
      all_goals rw [continuations]
      case signFree => exact inductionHypothesis.signFree
      case openedFree => exact inductionHypothesis.openedFree
      case closedFree => exact inductionHypothesis.closedFree
      case aboveBottom => exact inductionHypothesis.aboveBottom
  | behind extended free atLeastAssignment registered
      inductionHypothesis =>
      obtain ⟨continuations, openings⟩ :=
        continuations_of_registerContinuation registered
      constructor
      case closedUnopened =>
        rw [openings]
        exact inductionHypothesis.closedUnopened
      all_goals rw [continuations]
      case signFree =>
        rw [get?_insert_of_reserved free (by decide)]
        exact inductionHypothesis.signFree
      case openedFree =>
        rw [get?_insert_of_reserved free (by decide)]
        exact inductionHypothesis.openedFree
      case closedFree =>
        rw [get?_insert_of_reserved free (by decide)]
        exact inductionHypothesis.closedFree
      case aboveBottom =>
        intro slot other known
        rw [Table.get?_insert] at known
        split at known
        case isTrue =>
          cases known
          exact Int.lt_of_lt_of_le Int.zero_lt_one atLeastAssignment
        case isFalse =>
          exact inductionHypothesis.aboveBottom slot other known

end Grammar

/-- What a report says about the end of the evaluation and what it leaves behind. -/
def Report.result
    (report : Report) :
    Outcome × Environment :=
  (report.outcome, report.environment)

/-- A result says what the outcome is and which environment is left behind. -/
theorem Report.eq_of_result
    {report : Report}
    {outcome : Outcome}
    {environment : Environment}
    (same : report.result = (outcome, environment)) :
    report.outcome = outcome ∧ report.environment = environment :=
  Prod.mk.inj same

namespace Tree

/-- The outcome of a tree as a complete expression, and the environment afterwards. -/
def result
    (environment : Environment)
    (tree : Tree) :
    Outcome × Environment :=
  match (tree.evaluate environment.functions).run environment.values with
  | .ok value values =>
      (.value (some value), { environment with values := values })
  | .error exit values =>
      match Expression.outcomeOfExit exit with
      | .failed failure => (.failed failure, environment)
      | outcome => (outcome, { environment with values := values })

/-- Nothing that follows a complete expression could become a part of it. -/
theorem followedBy_nil
    (grammar : Grammar)
    (tree : Tree) :
    tree.FollowedBy grammar [] :=
  fun _ _ impossible => by cases impossible

/-- A complete expression that is a shaped tree does what the tree does. -/
theorem simulates_complete
    (context : EvaluationContext)
    (regular : context.grammar.Regular)
    {tree : Tree}
    (isOver : tree.Over context.grammar)
    (shaped : tree.Shaped)
    {levels : Nat}
    (enough : tree.levels ≤ levels) :
    Simulates context.environment.values
      ((TokenStream.ofTokens tree.tokens).skip tree.tokens.length)
      (fun value => pure (some value))
      ((Expression.complete context levels).run
        (Progress.start tree.tokens))
      ((tree.evaluate context.environment.functions).run
        context.environment.values) := by
  have atStart :
      (Progress.start tree.tokens).stream.rest = tree.tokens ++ [] :=
    (List.append_nil _).symm
  have exhausted :
      ((TokenStream.ofTokens tree.tokens).skip
        tree.tokens.length).peek? = none :=
    TokenStream.peek?_eq_none_iff.2 (by simp [TokenStream.ofTokens])
  unfold Expression.complete
  refine
    (ReadsBack.inside (readsBack regular isOver shaped)
      (above_belowAssignment regular isOver) enough atStart
      (followedBy_nil _ tree)
      (fun _ _ _ impossible => by cases impossible) rfl _).congr
      fun value assigned => ?_
  simp [Progress.start, exhausted]

/-- In a regular grammar the tokens of a shaped tree have the result of the tree. -/
theorem result_reportOfTokens
    {grammar : Grammar}
    (regular : grammar.Regular)
    {tree : Tree}
    (isOver : tree.Over grammar)
    (shaped : tree.Shaped)
    (environment : Environment)
    {levels : Nat}
    (enough : tree.levels ≤ levels) :
    (Expression.reportOfTokens grammar environment levels
      tree.tokens).result = tree.result environment := by
  have simulated :=
    simulates_complete ⟨grammar, environment⟩ regular isOver shaped enough
  unfold Expression.reportOfTokens Report.result result
  cases computed :
      (tree.evaluate environment.functions).run environment.values with
  | ok value values =>
      rw [show _ = _ from computed] at simulated
      obtain ⟨assigned, rfl, ran⟩ := simulated
      simp only [ran]
      rfl
  | error exit values =>
      rw [show _ = _ from computed] at simulated
      obtain ⟨progress, rfl, ran⟩ := simulated
      simp only [ran]
      rcases exit with failure | fault
      · rfl
      · cases fault <;> rfl

/-- A source whose tokens are those of a shaped tree has the result of the tree. -/
theorem result_evaluateWithin
    {grammar : Grammar}
    (regular : grammar.Regular)
    {tree : Tree}
    (isOver : tree.Over grammar)
    (shaped : tree.Shaped)
    (environment : Environment)
    {levels : Nat}
    (enough : tree.levels ≤ levels)
    {source : String}
    (tokenized : tokenize source = .ok tree.tokens) :
    (Expression.evaluateWithin levels grammar environment source).result =
      tree.result environment := by
  rw [Expression.evaluateWithin_of_tokenized tokenized]
  exact result_reportOfTokens regular isOver shaped environment enough

/--
Over every extension of the standard grammar, the tokens of a shaped tree have the
result of the tree, and so has every source that consists of these tokens. All that
is asked for is enough levels of nesting.
-/
theorem evaluated_of_shaped
    {grammar : Grammar}
    (extended : grammar.Extension)
    {tree : Tree}
    (isOver : tree.Over grammar)
    (shaped : tree.Shaped)
    (environment : Environment)
    {levels : Nat}
    (enough : tree.levels ≤ levels) :
    (Expression.reportOfTokens grammar environment levels
        tree.tokens).result = tree.result environment ∧
      ∀ source,
        tokenize source = .ok tree.tokens →
        (Expression.evaluateWithin levels grammar environment
          source).result = tree.result environment := by
  have regular : grammar.Regular := extended.orderly.regular
  exact
    ⟨result_reportOfTokens regular isOver shaped environment enough,
      fun _ tokenized =>
        result_evaluateWithin regular isOver shaped environment enough
          tokenized⟩

/-- The tree of `~1*2` where `~` binds like a sum. -/
def negatedProduct : Tree :=
  .before ⟨.symbol, "~", 0⟩ Arithmetic.negate .sum
    (.between
      (.literal ⟨.number, "1", 1⟩ Arithmetic.number)
      ⟨.symbol, "*", 2⟩ Arithmetic.multiply .product .left
      (.literal ⟨.number, "2", 3⟩ Arithmetic.number))

/-- The new sign takes the whole product as its operand. -/
theorem evaluated_of_shaped_negatedProduct :
    ∃ grown,
      Grammar.frozenStandard.copy.registerOpening (.symbol "~")
          (.operator Arithmetic.negate .sum) = .ok grown ∧
        tokenize "~1*2" = .ok negatedProduct.tokens ∧
        (Expression.evaluateWithin 3 grown Environment.empty
          "~1*2").result = (.value (some (.int (-2))), Environment.empty) := by
  let grown : Grammar :=
    {
      Grammar.frozenStandard.copy with
      openings :=
        Grammar.standard.openings.insert "~"
          (.operator Arithmetic.negate .sum)
    }
  have registered :
      Grammar.frozenStandard.copy.registerOpening (.symbol "~")
        (.operator Arithmetic.negate .sum) = .ok grown := rfl
  have extended : grown.Extension :=
    .before .copied (by decide) registered
  have isOver : negatedProduct.Over grown :=
    ⟨rfl, rfl, rfl, rfl⟩
  have shaped : negatedProduct.Shaped :=
    ⟨⟨trivial, trivial, trivial, trivial⟩, by decide, trivial⟩
  have tokenized : tokenize "~1*2" = .ok negatedProduct.tokens := by
    rfl
  refine ⟨grown, registered, tokenized, ?_⟩
  rw [(evaluated_of_shaped extended isOver shaped Environment.empty
    (by decide)).2 "~1*2" tokenized]
  rfl

end Tree

end Reckoner
