import Reckoner.Proofs.Evaluation.SideBySide

namespace Reckoner

/-!
# Grammars that are evaluated alike

Precedences are only compared. All levels of a grammar can therefore be moved without
any effect on an evaluation, as long as their order is kept and the bottom stays where
it is. The threshold behind an operator that groups to the right is one below the
level of the operator, which need not be a level itself; so two thresholds correspond
not by the move, but if the same operators bind tighter than each of them.

What a grammar says about tokens that do not occur has no effect either.
-/

/-- The same opening with its precedence moved, if it has one. -/
def Opening.relevel
    (move : Precedence → Precedence) :
    Opening →
    Opening
  | .literal read => .literal read
  | .operator operation precedence => .operator operation (move precedence)
  | .group => .group
  | .name => .name

/-- The same continuation with its precedence moved. -/
def Continuation.relevel
    (move : Precedence → Precedence) :
    Continuation →
    Continuation
  | .binary operation precedence associativity =>
      .binary operation (move precedence) associativity
  | .trailing operation precedence => .trailing operation (move precedence)

/-- Openings whose precedences stay are the same. -/
theorem Opening.relevel_id :
    relevel id = id := by
  funext opening
  cases opening with
  | literal read => rfl
  | operator operation precedence => rfl
  | group => rfl
  | name => rfl

/-- Continuations whose precedences stay are the same. -/
theorem Continuation.relevel_id :
    relevel id = id := by
  funext continuation
  cases continuation with
  | binary operation precedence associativity => rfl
  | trailing operation precedence => rfl

/-- The same grammar with all precedences moved. -/
def Grammar.relevel
    (grammar : Grammar)
    (move : Precedence → Precedence) :
    Grammar where
  openings := grammar.openings.map (Opening.relevel move)
  continuations := grammar.continuations.map (Continuation.relevel move)
  frozen := grammar.frozen

/-- The precedences that a grammar knows, and the bottom. -/
inductive Grammar.IsLevel
    (grammar : Grammar) :
    Precedence →
    Prop where
  | bottom : IsLevel grammar .belowAssignment
  | opening
      {slot : String}
      {operation : UnaryOperation}
      {precedence : Precedence}
      (known :
        grammar.openings.get? slot = some (.operator operation precedence)) :
      IsLevel grammar precedence
  | continuation
      {slot : String}
      {continuation : Continuation}
      (known : grammar.continuations.get? slot = some continuation) :
      IsLevel grammar continuation.precedence

/-- The levels of a grammar can be moved without changing their order or the bottom. -/
structure Grammar.Movable
    (grammar : Grammar)
    (move : Precedence → Precedence) : Prop where
  increasing :
    ∀ lower upper,
      grammar.IsLevel lower →
      grammar.IsLevel upper →
      lower < upper →
      move lower < move upper
  bottom : move .belowAssignment = .belowAssignment

namespace Grammar.Movable

variable {grammar : Grammar}
variable {move : Precedence → Precedence}
variable {lower upper : Precedence}

/-- All levels may stay where they are. -/
theorem refl
    (grammar : Grammar) :
    grammar.Movable id where
  increasing _ _ _ _ below := below
  bottom := rfl

/-- Of two levels the same one is below the other after a move. -/
theorem lt_iff
    (movable : grammar.Movable move)
    (lowerKnown : grammar.IsLevel lower)
    (upperKnown : grammar.IsLevel upper) :
    move lower < move upper ↔ lower < upper := by
  rcases Int.lt_trichotomy lower upper with below | same | above
  · have movedBelow :=
      movable.increasing lower upper lowerKnown upperKnown below
    exact iff_of_true movedBelow below
  · subst same
    exact iff_of_false (Int.lt_irrefl _) (Int.lt_irrefl _)
  · have movedAbove :=
      movable.increasing upper lower upperKnown lowerKnown above
    exact iff_of_false (Int.lt_asymm movedAbove) (Int.lt_asymm above)

/-- Of two levels the same one is at most the other after a move. -/
theorem le_iff
    (movable : grammar.Movable move)
    (lowerKnown : grammar.IsLevel lower)
    (upperKnown : grammar.IsLevel upper) :
    move lower ≤ move upper ↔ lower ≤ upper := by
  rw [← Int.not_lt, ← Int.not_lt, movable.lt_iff upperKnown lowerKnown]

end Grammar.Movable

/-- Two grammars in which the tokens that occur differ by a move at most. -/
structure Grammar.Alike
    (occurs : Token → Prop)
    (move : Precedence → Precedence)
    (first second : Grammar) : Prop where
  openings :
    ∀ token,
      occurs token →
      second.opening? token =
        (first.opening? token).map (Opening.relevel move)
  continuations :
    ∀ token,
      occurs token →
      second.continuation? token =
        (first.continuation? token).map (Continuation.relevel move)

namespace Coupling

/-- Evaluations of the tokens that occur, before and after a move of all levels. -/
def moved
    (grammar : Grammar)
    (occurs : Token → Prop)
    (move : Precedence → Precedence) :
    Coupling where
  together left right :=
    left = right ∧ ∀ token ∈ left.stream.rest, occurs token
  beyond _ := False
  tokens token other := token = other ∧ occurs token
  thresholds threshold other :=
    ∀ level,
      grammar.IsLevel level →
      (level ≤ threshold ↔ move level ≤ other)
  exits := Eq
  abandons _ := False

variable {first second : Grammar}
variable {occurs : Token → Prop}
variable {move : Precedence → Precedence}

/-- A level corresponds to where it is moved, at the right of an operator as well. -/
theorem thresholds_moved
    (movable : first.Movable move)
    {precedence : Precedence}
    (isLevel : first.IsLevel precedence)
    (associativity : Associativity) :
    (moved first occurs move).thresholds
      (Evaluator.rightThreshold precedence associativity)
      (Evaluator.rightThreshold (move precedence) associativity) := by
  intro level levelKnown
  cases associativity with
  | left =>
      exact (movable.le_iff levelKnown isLevel).symm
  | right =>
      -- Neither threshold is a level, but the same levels are below both operators.
      calc
        level ≤ precedence - 1 ↔ level < precedence := Int.le_sub_one_iff
        _ ↔ move level < move precedence :=
          (movable.lt_iff levelKnown isLevel).symm
        _ ↔ move level ≤ move precedence - 1 := Int.le_sub_one_iff.symm

/-- An opening is the same for both evaluations, up to its precedence. -/
theorem openingsAgree_moved
    (movable : first.Movable move)
    {token : Token}
    {opening : Option Opening}
    (known : first.opening? token = opening) :
    OpeningsAgree (moved first occurs move) token token opening
      (opening.map (Opening.relevel move)) := by
  cases opening with
  | none => exact .neither
  | some opening =>
      cases opening with
      | literal read => exact .literal (agrees_exitsAt (fun _ => rfl) token _)
      | operator operation precedence =>
          exact
            .operator (thresholds_moved movable (.opening known) .left)
              fun _ => agrees_exitsAt (fun _ => rfl) token _
      | group => exact .group
      | name => exact .name

/-- A continuation is the same for both evaluations, up to its precedence. -/
theorem continuationsAgree_moved
    (movable : first.Movable move)
    {token : Token}
    {continuation : Option Continuation}
    (known : first.continuation? token = continuation) :
    ContinuationsAgree (moved first occurs move) token token continuation
      (continuation.map (Continuation.relevel move)) := by
  cases continuation with
  | none => exact .neither
  | some continuation =>
      have isLevel : first.IsLevel continuation.precedence :=
        .continuation known
      cases continuation with
      | binary operation precedence associativity =>
          exact
            .binary (thresholds_moved movable isLevel associativity)
              (fun _ _ correspond => correspond precedence isLevel)
              fun _ _ => agrees_exitsAt (fun _ => rfl) token _
      | trailing operation precedence =>
          exact
            .trailing (fun _ _ correspond => correspond precedence isLevel)
              fun _ => agrees_exitsAt (fun _ => rfl) token _

/-- Grammars that are alike are evaluated side by side. -/
theorem coupled_moved
    (alike : Grammar.Alike occurs move first second)
    (movable : first.Movable move)
    (environment : Environment) :
    (moved first occurs move).Coupled
      ⟨first, environment⟩ ⟨second, environment⟩ where
  peeks := by
    rintro left right ⟨rfl, allOccur⟩
    cases shape : left.stream.rest with
    | nil => exact Or.inl ⟨rfl, rfl⟩
    | cons token later =>
        have occurring : occurs token := by
          apply allOccur
          rw [shape]
          exact List.mem_cons_self
        exact Or.inr ⟨token, later, token, later, rfl, rfl, rfl, occurring⟩
  skips := by
    rintro left right ⟨rfl, allOccur⟩ _
    refine Or.inl ⟨rfl, fun token member => allOccur token ?_⟩
    exact List.mem_of_mem_drop member
  assigns := by
    rintro left right token other value ⟨rfl, _⟩ ⟨rfl, allOccur⟩
    exact ⟨rfl, allOccur⟩
  beyondSkips _ impossible := impossible
  beyondAssigns _ _ _ impossible := impossible
  symbols := by
    rintro token other symbol ⟨rfl, _⟩
    rfl
  bottom := by
    have bottom :
        (moved first occurs move).thresholds .belowAssignment
          (move .belowAssignment) :=
      thresholds_moved movable .bottom .left
    rwa [movable.bottom] at bottom
  nesting := rfl
  unexpectedStart := by
    rintro token other ⟨rfl, _⟩
    rfl
  missingOperand := by
    rintro token other ⟨rfl, _⟩
    rfl
  unexpectedToken := by
    rintro token other ⟨rfl, _⟩
    rfl
  unclosedGroup := by
    rintro left right ⟨rfl, _⟩
    rfl
  unclosedCall := by
    rintro left right token other ⟨rfl, _⟩ ⟨rfl, _⟩
    rfl
  opens := by
    rintro token other ⟨rfl, occurring⟩
    rw [alike.openings token occurring]
    exact openingsAgree_moved movable rfl
  continues := by
    rintro token other ⟨rfl, occurring⟩
    rw [alike.continuations token occurring]
    exact continuationsAgree_moved movable rfl
  call := by
    rintro token other argument ⟨rfl, _⟩
    exact .refl (fun _ => rfl) _
  reference := by
    rintro left right token later other others ⟨rfl, _⟩ shape otherShape _ _ _
    cases shape.symm.trans otherShape
    exact .refl (fun _ => rfl) _

end Coupling

namespace Grammar.Alike

variable {first second : Grammar}
variable {occurs : Token → Prop}
variable {move : Precedence → Precedence}

/-- Tokens that occur have the same report in grammars that are alike. -/
theorem reportOfTokens_eq
    (alike : Alike occurs move first second)
    (movable : first.Movable move)
    {tokens : List Token}
    (allOccur : ∀ token ∈ tokens, occurs token)
    (levels : Nat)
    (environment : Environment) :
    Expression.reportOfTokens second environment levels tokens =
      Expression.reportOfTokens first environment levels tokens := by
  have parallel :
      (Coupling.moved first occurs move).Parallel
        (Expression.complete ⟨first, environment⟩ levels)
        (Expression.complete ⟨second, environment⟩ levels) :=
    (Coupling.coupled_moved alike movable environment).complete (Or.inl rfl)
  have same :=
    (parallel.corresponds
      ⟨Eq.refl (Progress.start tokens), allOccur⟩).eq
        And.left id (fun _ => id) fun _ => id
  simp only [Expression.reportOfTokens, same]

/-- A source whose tokens occur has the same report in grammars that are alike. -/
theorem evaluateWithin_eq
    (alike : Alike occurs move first second)
    (movable : first.Movable move)
    {source : String}
    (allOccur :
      ∀ tokens,
        tokenize source = .ok tokens →
        ∀ token ∈ tokens, occurs token)
    (levels : Nat)
    (environment : Environment) :
    Expression.evaluateWithin levels second environment source =
      Expression.evaluateWithin levels first environment source := by
  unfold Expression.evaluateWithin
  cases tokenized : tokenize source with
  | error failure => rfl
  | ok tokens =>
      exact
        alike.reportOfTokens_eq movable (allOccur tokens tokenized) levels
          environment

end Grammar.Alike

/-- Moving all precedences of a grammar gives one that is alike for all tokens. -/
theorem Grammar.alike_relevel
    (grammar : Grammar)
    (move : Precedence → Precedence) :
    Alike (fun _ => True) move grammar (grammar.relevel move) where
  openings _ _ := Table.get?_map _ _ _
  continuations _ _ := Table.get?_map _ _ _

/--
Of the precedences in a grammar only the order matters. If they are moved such that
the order stays and the bottom is where it was, then every source has the same report
in every environment: the same outcome, the same assignments and the same environment
afterwards.
-/
theorem Grammar.evaluateWithin_relevel
    {grammar : Grammar}
    {move : Precedence → Precedence}
    (increasing :
      ∀ lower upper,
        grammar.IsLevel lower →
        grammar.IsLevel upper →
        lower < upper →
        move lower < move upper)
    (bottom : move .belowAssignment = .belowAssignment)
    (levels : Nat)
    (environment : Environment)
    (source : String) :
    Expression.evaluateWithin levels (grammar.relevel move) environment source =
      Expression.evaluateWithin levels grammar environment source :=
  (grammar.alike_relevel move).evaluateWithin_eq ⟨increasing, bottom⟩
    (fun _ _ _ _ => trivial) levels environment

/-- Powers still group to the right if all precedences are ten times as high. -/
theorem Grammar.evaluateWithin_relevel_tenfold :
    let move : Precedence → Precedence := fun precedence => 10 * precedence
    (∀ lower upper, lower < upper → move lower < move upper) ∧
      move .belowAssignment = .belowAssignment ∧
      (Expression.evaluateWithin 4 (frozenStandard.relevel move)
        Environment.empty "2^3^2").outcome = .value (some (.int 512)) := by
  intro move
  have increasing : ∀ lower upper, lower < upper → move lower < move upper := by
    intro lower upper below
    exact Int.mul_lt_mul_of_pos_left below (by decide)
  have tokenized :
      tokenize "2^3^2" = .ok [
        ⟨.number, "2", 0⟩, ⟨.symbol, "^", 1⟩, ⟨.number, "3", 2⟩,
        ⟨.symbol, "^", 3⟩, ⟨.number, "2", 4⟩
      ] := rfl
  have sameReport :=
    evaluateWithin_relevel
      (fun lower upper (_ : frozenStandard.IsLevel lower) _ =>
        increasing lower upper)
      rfl 4 Environment.empty "2^3^2"
  refine ⟨increasing, rfl, ?_⟩
  rw [sameReport, Expression.evaluateWithin_of_tokenized tokenized]
  rfl

end Reckoner
