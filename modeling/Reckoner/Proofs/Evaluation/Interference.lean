import Reckoner.Proofs.Evaluation.SideBySide
import Reckoner.Proofs.Grammar.Standard
import Reckoner.Proofs.Syntax.Extension

namespace Reckoner

/-!
# The variables that matter to an expression

Variables and functions have separate names, and a name in front of an equals sign is
only bound. So an expression depends on no other variables than those whose names
stand somewhere in it without being assigned or called there, whether that place is
reached or not. Two evaluations under environments that agree on these names go
through the same states.
-/

namespace Token

/-- Whether a list of tokens begins with a symbol. -/
def beginsWith
    (symbol : String)
    (tokens : List Token) :
    Bool :=
  tokens.head?.any fun token => token.isSymbol symbol

/-- The names that stand for variables: those that are neither assigned nor called. -/
def readNames : List Token → List String
  | [] => []
  | token :: rest =>
      if token.kind = .identifier ∧ beginsWith "=" rest = false ∧
          beginsWith "(" rest = false then
        token.lexeme :: readNames rest
      else
        readNames rest

/-- A name is read exactly if it stands somewhere without being assigned or called. -/
theorem mem_readNames_iff
    {tokens : List Token}
    {name : String} :
    name ∈ readNames tokens ↔
      ∃ before token later,
        tokens = before ++ token :: later ∧
          token.kind = .identifier ∧ token.lexeme = name ∧
          beginsWith "=" later = false ∧ beginsWith "(" later = false := by
  induction tokens with
  | nil => simp [readNames]
  | cons first rest inductionHypothesis =>
      constructor
      · intro member
        have inFront :
            name ∈ readNames rest →
            ∃ before token later,
              first :: rest = before ++ token :: later ∧
                token.kind = .identifier ∧ token.lexeme = name ∧
                beginsWith "=" later = false ∧
                beginsWith "(" later = false := by
          intro later
          obtain ⟨before, token, behind, rfl, isRead⟩ :=
            inductionHypothesis.1 later
          exact ⟨first :: before, token, behind, rfl, isRead⟩
        unfold readNames at member
        split at member
        case isTrue isRead =>
          rcases List.mem_cons.1 member with rfl | later
          · exact ⟨[], first, rest, rfl, isRead.1, rfl, isRead.2⟩
          · exact inFront later
        case isFalse => exact inFront member
      · rintro ⟨before, token, later, shape, isName, rfl, isRead⟩
        unfold readNames
        cases before with
        | nil =>
            cases shape
            simp [isName, isRead]
        | cons other before =>
            cases shape
            have member :
                token.lexeme ∈ readNames (before ++ token :: later) :=
              inductionHypothesis.2
                ⟨before, token, later, rfl, isName, rfl, isRead⟩
            split
            · exact List.mem_cons_of_mem _ member
            · exact member

/-- A symbol that is not next is not the beginning of the tokens to come. -/
theorem beginsWith_eq_false
    {progress : Progress}
    {token : Token}
    {later : List Token}
    {symbol : String}
    (shape : progress.stream.rest = token :: later)
    (notNext : (progress.skip 1).stream.nextIs symbol = false) :
    beginsWith symbol later = false := by
  have behind : (progress.skip 1).stream.rest = later := by simp [shape]
  cases later with
  | nil => rfl
  | cons next others =>
      rw [TokenStream.nextIs_cons behind] at notNext
      simpa [beginsWith] using notNext

end Token

namespace Expression

/-- The names of the variables that a source reads; none if it has no tokens. -/
def readNames
    (source : String) :
    List String :=
  match tokenize source with
  | .ok tokens => Token.readNames tokens
  | .error _ => []

end Expression

namespace Coupling

/-- Evaluations of the tokens that have gone through the same states. -/
def inStep
    (tokens : List Token) :
    Coupling :=
  .ofProgress
    (fun left right => left = right ∧ left.stream.rest <:+ tokens)
    (fun _ => False)
    (fun _ => False)

/-- Environments that agree on the names that are read keep evaluations in step. -/
theorem coupled_inStep
    {tokens : List Token}
    (named : ∀ token ∈ tokens, token.NamesNoKind)
    {first second : Environment}
    (functions :
      ∀ name, first.functions.get? name = second.functions.get? name)
    (agree :
      ∀ name ∈ Token.readNames tokens,
        first.values.get? name = second.values.get? name) :
    (inStep tokens).Coupled
      ⟨Grammar.frozenStandard, first⟩ ⟨Grammar.frozenStandard, second⟩ := by
  refine Accord.coupled ?_ _
  constructor
  case peeks =>
    rintro left right ⟨rfl, _⟩
    exact ⟨rfl, rfl⟩
  case skips =>
    rintro left right ⟨rfl, isSuffix⟩ _
    exact Or.inl ⟨rfl, (List.drop_suffix 1 _).trans isSuffix⟩
  case assigns =>
    rintro left right name value ⟨rfl, isSuffix⟩
    exact ⟨rfl, isSuffix⟩
  case beyondSkips => exact fun _ impossible => impossible
  case beyondAssigns => exact fun _ _ _ impossible => impossible
  case functions => exact functions
  case reference =>
    rintro left right token later ⟨rfl, before, split⟩ shape opens noSign
      notOpened
    rw [shape] at split
    have isName : token.kind = .identifier :=
      Grammar.isIdentifier_of_opening (named token (by simp [← split])) opens
    have isRead : token.lexeme ∈ Token.readNames tokens :=
      Token.mem_readNames_iff.2
        ⟨before, token, later, split.symm, isName, rfl,
          Token.beginsWith_eq_false shape noSign,
          Token.beginsWith_eq_false shape notOpened⟩
    rw [Progress.values, Progress.values, Table.get?_insertAll,
      Table.get?_insertAll, agree _ isRead]

end Coupling

namespace Expression

/-- Tokens have the same outcome wherever the names that are read have the same numbers. -/
theorem outcome_reportOfTokens_eq
    {tokens : List Token}
    (named : ∀ token ∈ tokens, token.NamesNoKind)
    {first second : Environment}
    (functions :
      ∀ name, first.functions.get? name = second.functions.get? name)
    (agree :
      ∀ name ∈ Token.readNames tokens,
        first.values.get? name = second.values.get? name)
    (levels : Nat) :
    let report := reportOfTokens Grammar.frozenStandard first levels tokens
    let other := reportOfTokens Grammar.frozenStandard second levels tokens
    report.outcome = other.outcome ∧ report.assigned = other.assigned := by
  have parallel :
      (Coupling.inStep tokens).Parallel
        (complete ⟨Grammar.frozenStandard, first⟩ levels)
        (complete ⟨Grammar.frozenStandard, second⟩ levels) :=
    (Coupling.coupled_inStep named functions agree).complete (Or.inl rfl)
  have same :=
    (parallel.corresponds
      ⟨Eq.refl (Progress.start tokens), List.suffix_refl tokens⟩).eq
        And.left id (fun _ => id) fun _ => id
  simp only [reportOfTokens, same, and_self]

/-- A source has the same outcome wherever the names it reads have the same numbers. -/
theorem outcome_evaluateWithin_eq
    (levels : Nat)
    {source : String}
    {first second : Environment}
    (functions :
      ∀ name, first.functions.get? name = second.functions.get? name)
    (agree :
      ∀ name ∈ readNames source,
        first.values.get? name = second.values.get? name) :
    let report := evaluateWithin levels Grammar.frozenStandard first source
    let other := evaluateWithin levels Grammar.frozenStandard second source
    report.outcome = other.outcome ∧ report.assigned = other.assigned := by
  simp only [evaluateWithin]
  cases tokenized : tokenize source with
  | error failure => exact ⟨rfl, rfl⟩
  | ok tokens =>
      simp only [readNames, tokenized] at agree
      exact
        outcome_reportOfTokens_eq
          (fun token member => namesNoKind_of_tokenize tokenized member)
          functions agree levels

/--
The outcome of a source depends on no variables but those whose names it reads. In
particular it does not matter whether a variable has the name of a function that is
called, or what a variable was before it is assigned. After a value, an assigned name
has the same new number whatever the variables were, and all others are kept.
-/
theorem unaffected_by_unread_variables
    (levels : Nat)
    (source : String)
    {first second : Environment}
    (functions :
      ∀ name, first.functions.get? name = second.functions.get? name)
    (agree :
      ∀ name ∈ readNames source,
        first.values.get? name = second.values.get? name) :
    let report := evaluateWithin levels Grammar.frozenStandard first source
    let other := evaluateWithin levels Grammar.frozenStandard second source
    report.outcome = other.outcome ∧
      report.assigned = other.assigned ∧
      (∀ value,
        report.outcome = .value value →
        ∀ name,
          (∃ number,
            (name, number) ∈ report.assigned ∧
              report.environment.values.get? name = some number ∧
              other.environment.values.get? name = some number) ∨
            (∀ number, (name, number) ∉ report.assigned) ∧
              report.environment.values.get? name =
                first.values.get? name ∧
              other.environment.values.get? name =
                second.values.get? name) ∧
      ∀ name number,
        name ∉ readNames source →
        (evaluateWithin levels Grammar.frozenStandard
          (first.set name number) source).outcome = report.outcome := by
  intro report other
  obtain ⟨sameOutcome, sameAssigned⟩ :
      report.outcome = other.outcome ∧ report.assigned = other.assigned :=
    outcome_evaluateWithin_eq levels functions agree
  refine ⟨sameOutcome, sameAssigned, fun value outcome name => ?_, ?_⟩
  · have bindings :
        report.environment.values = first.values.insertAll report.assigned :=
      congrArg Environment.values (environment_of_outcome_eq_value outcome)
    have otherBindings :
        other.environment.values =
          second.values.insertAll report.assigned := by
      rw [sameAssigned]
      exact
        congrArg Environment.values
          (environment_of_outcome_eq_value (sameOutcome.symm.trans outcome))
    rw [bindings, otherBindings]
    rcases Table.get?_insertAll_bound_or_kept report.assigned name with
      ⟨number, member, bound⟩ | ⟨absent, kept⟩
    · exact Or.inl ⟨number, member, bound _, bound _⟩
    · exact Or.inr ⟨absent, kept _, kept _⟩
  · intro name number unread
    have kept :
        ∀ other ∈ readNames source,
          (first.set name number).values.get? other =
            first.values.get? other := by
      intro other isRead
      have differs : name ≠ other := by
        rintro rfl
        exact unread isRead
      rw [Environment.set, Table.get?_insert]
      exact if_neg differs
    have sameFunctions :
        ∀ other,
          (first.set name number).functions.get? other =
            first.functions.get? other :=
      fun _ => rfl
    exact (outcome_evaluateWithin_eq levels sameFunctions kept).1

/-- The tree of `y=f()*x`. -/
def assignedProduct : Tree :=
  .assignment ⟨.identifier, "y", 0⟩ ⟨.symbol, "=", 1⟩
    (.between
      (.emptyCall ⟨.identifier, "f", 2⟩ ⟨.symbol, "(", 3⟩ ⟨.symbol, ")", 4⟩)
      ⟨.symbol, "*", 5⟩ Arithmetic.multiply .product .left
      (.reference ⟨.identifier, "x", 6⟩))

/-- It does not matter to `y=f()*x` whether there are variables `f` and `y`. -/
theorem unaffected_by_unread_variables_assignedProduct :
    let plain : Environment :=
      ⟨Table.ofList [("x", .int (-3))],
        Table.ofList [("f", fun _ _ => .ok (some (.int 7)))]⟩
    let crowded := (plain.set "f" (.int 9)).set "y" (.int 5)
    (∀ name ∈ readNames "y=f()*x",
        plain.values.get? name = crowded.values.get? name) ∧
      (evaluateWithin 3 Grammar.frozenStandard plain
          "y=f()*x").outcome = .value (some (.int (-21))) ∧
      (evaluateWithin 3 Grammar.frozenStandard crowded
          "y=f()*x").outcome = .value (some (.int (-21))) := by
  intro plain crowded
  have onlyRead : readNames "y=f()*x" = ["x"] := rfl
  have agree :
      ∀ name ∈ readNames "y=f()*x",
        plain.values.get? name = crowded.values.get? name := by
    intro name isRead
    rw [onlyRead, List.mem_singleton] at isRead
    subst isRead
    rfl
  have isOver : assignedProduct.Over Grammar.frozenStandard :=
    ⟨rfl, rfl, ⟨rfl, rfl, rfl⟩, rfl, rfl⟩
  have shaped : assignedProduct.Shaped := ⟨trivial, trivial, trivial, trivial⟩
  have tokenized : tokenize "y=f()*x" = .ok assignedProduct.tokens := rfl
  have result :
      (evaluateWithin 3 Grammar.frozenStandard plain "y=f()*x").result =
        (.value (some (.int (-21))), plain.set "y" (.int (-21))) :=
    Tree.result_evaluateWithin Grammar.regular_frozenStandard isOver shaped
      plain (by decide) tokenized
  have outcome := (Report.eq_of_result result).1
  have functions :
      ∀ name, plain.functions.get? name = crowded.functions.get? name :=
    fun _ => rfl
  obtain ⟨same, _⟩ :=
    unaffected_by_unread_variables 3 "y=f()*x" functions agree
  exact ⟨agree, outcome, same.symm.trans outcome⟩

end Expression

end Reckoner
