import Reckoner.Proofs.Evaluation.Invariant

namespace Reckoner

/-!
# Steps that correspond

Two steps correspond if they take the same turns: they give the same value or exits
that correspond, and leave their progress together. A `Coupling` says what the latter
two mean in a comparison, and the rules here compare steps that are composed alike.

A comparison may end early. The first step may go *beyond* the part of the input that
the two have in common, and it may exit in a way that nothing is said about. Being
beyond is an invariant, so what is compared is every step that has not gone beyond in
the end.
-/

/-- Two attempts have the same value, or exits that correspond. -/
inductive Attempt.Agrees
    {α : Type}
    (exits : Exit → Exit → Prop) :
    Attempt α →
    Attempt α →
    Prop where
  | ok
      (value : α) :
      Agrees exits (.ok value) (.ok value)
  | error
      {left right : Exit}
      (correspond : exits left right) :
      Agrees exits (.error left) (.error right)

/-- An attempt agrees with itself if its exits correspond to themselves. -/
theorem Attempt.Agrees.refl
    {α : Type}
    {exits : Exit → Exit → Prop}
    (reflexive : ∀ exit, exits exit exit)
    (attempt : Attempt α) :
    attempt.Agrees exits attempt := by
  cases attempt with
  | ok value => exact .ok value
  | error exit => exact .error (reflexive exit)

namespace Attempt

variable {α β : Type}
variable {exits : Exit → Exit → Prop}
variable {allowed : Exit → Prop}

/-- An attempt agrees with itself if all its exits correspond to themselves. -/
theorem Satisfies.agrees
    {attempt : Attempt α}
    (satisfies : attempt.Satisfies (fun _ => True) allowed)
    (correspond : ∀ exit, allowed exit → exits exit exit) :
    attempt.Agrees exits attempt := by
  cases satisfies with
  | ok _ => exact .ok _
  | error isAllowed => exact .error (correspond _ isAllowed)

/-- What is done with the value of an attempt may agree on its own. -/
theorem Agrees.bind
    {attempt other : Attempt α}
    {next otherNext : α → Attempt β}
    (agrees : attempt.Agrees exits other)
    (nextAgrees : ∀ value, (next value).Agrees exits (otherNext value)) :
    Agrees exits (Except.bind attempt next) (Except.bind other otherNext) := by
  cases agrees with
  | ok value => exact nextAgrees value
  | error correspond => exact .error correspond

/-- Attempts that agree do so after the same map. -/
theorem Agrees.map
    {attempt other : Attempt α}
    (agrees : attempt.Agrees exits other)
    (apply : α → β) :
    Agrees exits (Except.map apply attempt) (Except.map apply other) := by
  cases agrees with
  | ok value => exact .ok _
  | error correspond => exact .error correspond

end Attempt

/-- How two evaluations correspond while they run and when they exit. -/
structure Coupling where
  /-- Where two evaluations are that have taken the same turns. -/
  together : Progress → Progress → Prop
  /-- Where the first evaluation is no longer compared. -/
  beyond : Progress → Prop
  tokens : Token → Token → Prop
  thresholds : Precedence → Precedence → Prop
  exits : Exit → Exit → Prop
  /-- The exits of the first evaluation that are not compared. -/
  abandons : Exit → Prop

namespace Coupling

variable {α β : Type}
variable {coupling : Coupling}

/-- The exits of operations correspond once they belong to two tokens. -/
def exitsAt
    (coupling : Coupling)
    (left right : Token)
    (first second : Exit) :
    Prop :=
  coupling.exits
    (first.attributedTo left.position)
    (second.attributedTo right.position)

/-- Where exits correspond to themselves, an attempt at one token agrees with itself. -/
theorem agrees_exitsAt
    (reflexive : ∀ exit, coupling.exits exit exit)
    (token : Token)
    (attempt : Attempt α) :
    attempt.Agrees (coupling.exitsAt token token) attempt :=
  Attempt.Agrees.refl
    (fun exit => reflexive (exit.attributedTo token.position)) attempt

/-- How two tokens that correspond may open operands. -/
inductive OpeningsAgree
    (coupling : Coupling)
    (left right : Token) :
    Option Opening →
    Option Opening →
    Prop where
  | neither : OpeningsAgree coupling left right none none
  | literal
      {read other : String → Attempt Number}
      (agree :
        (read left.lexeme).Agrees (coupling.exitsAt left right)
          (other right.lexeme)) :
      OpeningsAgree coupling left right
        (some (.literal read)) (some (.literal other))
  | operator
      {operation other : UnaryOperation}
      {precedence otherPrecedence : Precedence}
      (correspond : coupling.thresholds precedence otherPrecedence)
      (agree :
        ∀ operand,
          (operation operand).Agrees (coupling.exitsAt left right)
            (other operand)) :
      OpeningsAgree coupling left right
        (some (.operator operation precedence))
        (some (.operator other otherPrecedence))
  | group :
      OpeningsAgree coupling left right (some .group) (some .group)
  | name :
      OpeningsAgree coupling left right (some .name) (some .name)

/-- How two tokens that correspond may continue values. -/
inductive ContinuationsAgree
    (coupling : Coupling)
    (left right : Token) :
    Option Continuation →
    Option Continuation →
    Prop where
  | neither : ContinuationsAgree coupling left right none none
  | binary
      {operation other : BinaryOperation}
      {precedence otherPrecedence : Precedence}
      {associativity : Associativity}
      (correspond :
        coupling.thresholds
          (Evaluator.rightThreshold precedence associativity)
          (Evaluator.rightThreshold otherPrecedence associativity))
      (compare :
        ∀ threshold otherThreshold,
          coupling.thresholds threshold otherThreshold →
          (precedence ≤ threshold ↔ otherPrecedence ≤ otherThreshold))
      (agree :
        ∀ operand operand',
          (operation operand operand').Agrees
            (coupling.exitsAt left right) (other operand operand')) :
      ContinuationsAgree coupling left right
        (some (.binary operation precedence associativity))
        (some (.binary other otherPrecedence associativity))
  | trailing
      {operation other : UnaryOperation}
      {precedence otherPrecedence : Precedence}
      (compare :
        ∀ threshold otherThreshold,
          coupling.thresholds threshold otherThreshold →
          (precedence ≤ threshold ↔ otherPrecedence ≤ otherThreshold))
      (agree :
        ∀ operand,
          (operation operand).Agrees (coupling.exitsAt left right)
            (other operand)) :
      ContinuationsAgree coupling left right
        (some (.trailing operation precedence))
        (some (.trailing other otherPrecedence))

/-- A coupling of evaluations that read the same tokens and exit in the same way. -/
def ofProgress
    (together : Progress → Progress → Prop)
    (beyond : Progress → Prop)
    (abandons : Exit → Prop) :
    Coupling where
  together := together
  beyond := beyond
  tokens := Eq
  thresholds := Eq
  exits := Eq
  abandons := abandons

section SameGrammar

variable {together : Progress → Progress → Prop}
variable {beyond : Progress → Prop}
variable {abandons : Exit → Prop}

/-- Whatever opens an operand opens it alike on both sides. -/
theorem openingsAgree_ofProgress
    (token : Token)
    (opening : Option Opening) :
    OpeningsAgree (ofProgress together beyond abandons) token token
      opening opening := by
  cases opening with
  | none => exact .neither
  | some opening =>
      cases opening with
      | literal read => exact .literal (agrees_exitsAt (fun _ => rfl) token _)
      | operator operation precedence =>
          exact .operator rfl fun _ => agrees_exitsAt (fun _ => rfl) token _
      | group => exact .group
      | name => exact .name

/-- Whatever continues a value continues it alike on both sides. -/
theorem continuationsAgree_ofProgress
    (token : Token)
    (continuation : Option Continuation) :
    ContinuationsAgree (ofProgress together beyond abandons) token token
      continuation continuation := by
  cases continuation with
  | none => exact .neither
  | some continuation =>
      cases continuation with
      | binary operation precedence associativity =>
          exact
            .binary rfl (fun _ _ same => by rw [show _ = _ from same])
              fun _ _ => agrees_exitsAt (fun _ => rfl) token _
      | trailing operation precedence =>
          exact
            .trailing (fun _ _ same => by rw [show _ = _ from same])
              fun _ => agrees_exitsAt (fun _ => rfl) token _

end SameGrammar

/-- Tokens that open alike both open an operand, or neither does. -/
theorem OpeningsAgree.neither_or_both
    {left right : Token}
    {opening other : Option Opening}
    (agree : OpeningsAgree coupling left right opening other) :
    opening = none ∧ other = none ∨
      ∃ known otherKnown, opening = some known ∧ other = some otherKnown := by
  cases agree with
  | neither => exact Or.inl ⟨rfl, rfl⟩
  | literal _ => exact Or.inr ⟨_, _, rfl, rfl⟩
  | operator _ _ => exact Or.inr ⟨_, _, rfl, rfl⟩
  | group => exact Or.inr ⟨_, _, rfl, rfl⟩
  | name => exact Or.inr ⟨_, _, rfl, rfl⟩

/-- Tokens that continue alike both continue a value, or neither does. -/
theorem ContinuationsAgree.neither_or_both
    {left right : Token}
    {continuation other : Option Continuation}
    (agree : ContinuationsAgree coupling left right continuation other) :
    continuation = none ∧ other = none ∨
      ∃ known otherKnown,
        continuation = some known ∧ other = some otherKnown := by
  cases agree with
  | neither => exact Or.inl ⟨rfl, rfl⟩
  | binary _ _ _ => exact Or.inr ⟨_, _, rfl, rfl⟩
  | trailing _ _ => exact Or.inr ⟨_, _, rfl, rfl⟩

/-- Both sides take the next operator, or neither does. -/
theorem ContinuationsAgree.le_iff
    {left right : Token}
    {continuation other : Continuation}
    (agree :
      ContinuationsAgree coupling left right
        (some continuation) (some other))
    {threshold otherThreshold : Precedence}
    (correspond : coupling.thresholds threshold otherThreshold) :
    continuation.precedence ≤ threshold ↔
      other.precedence ≤ otherThreshold := by
  cases agree with
  | binary _ compare _ => exact compare _ _ correspond
  | trailing compare _ => exact compare _ _ correspond

/-- What two steps leave corresponds, or the comparison has ended. -/
inductive Corresponds
    (coupling : Coupling) :
    EStateM.Result Exit Progress α →
    EStateM.Result Exit Progress α →
    Prop where
  | value
      {result : α}
      {left right : Progress}
      (together : coupling.together left right) :
      Corresponds coupling (.ok result left) (.ok result right)
  | exit
      {first second : Exit}
      {left right : Progress}
      (correspond : coupling.exits first second)
      (together : coupling.together left right) :
      Corresponds coupling (.error first left) (.error second right)
  | valueBeyond
      {result : α}
      {left : Progress}
      {other : EStateM.Result Exit Progress α}
      (beyond : coupling.beyond left) :
      Corresponds coupling (.ok result left) other
  | exitBeyond
      {exit : Exit}
      {left : Progress}
      {other : EStateM.Result Exit Progress α}
      (beyond : coupling.beyond left) :
      Corresponds coupling (.error exit left) other
  | abandoned
      {exit : Exit}
      {left : Progress}
      {other : EStateM.Result Exit Progress α}
      (abandons : coupling.abandons exit) :
      Corresponds coupling (.error exit left) other

/-- What corresponds to an exit is an exit, unless the comparison has ended. -/
theorem Corresponds.of_error
    {exit : Exit}
    {left : Progress}
    {other : EStateM.Result Exit Progress α}
    (corresponds : coupling.Corresponds (.error exit left) other)
    (notBeyond : ¬ coupling.beyond left)
    (notAbandoned : ¬ coupling.abandons exit) :
    ∃ otherExit right,
      other = .error otherExit right ∧
        coupling.exits exit otherExit ∧ coupling.together left right := by
  cases corresponds with
  | exit correspond together => exact ⟨_, _, rfl, correspond, together⟩
  | exitBeyond beyond => exact absurd beyond notBeyond
  | abandoned abandons => exact absurd abandons notAbandoned

/-- What corresponds is the same, if nothing else is together and none is left out. -/
theorem Corresponds.eq
    (sameProgress :
      ∀ {left right}, coupling.together left right → left = right)
    (sameExit :
      ∀ {first second}, coupling.exits first second → first = second)
    (notBeyond : ∀ progress, ¬ coupling.beyond progress)
    (notAbandoned : ∀ exit, ¬ coupling.abandons exit)
    {result other : EStateM.Result Exit Progress α}
    (corresponds : coupling.Corresponds result other) :
    result = other := by
  cases corresponds with
  | value together => rw [sameProgress together]
  | exit correspond together =>
      rw [sameExit correspond, sameProgress together]
  | valueBeyond beyond => exact absurd beyond (notBeyond _)
  | exitBeyond beyond => exact absurd beyond (notBeyond _)
  | abandoned abandons => exact absurd abandons (notAbandoned _)

/-- A step that has gone beyond does not come back. -/
def StaysBeyond
    (coupling : Coupling)
    (step : Step α) :
    Prop :=
  Step.Ensures coupling.beyond (fun _ => True) (fun _ => True) step

/-- A step that begins beyond ends there, and nothing is compared. -/
theorem StaysBeyond.corresponds
    {step : Step α}
    (stays : coupling.StaysBeyond step)
    {progress : Progress}
    (beyond : coupling.beyond progress)
    (other : EStateM.Result Exit Progress α) :
    coupling.Corresponds (step.run progress) other := by
  have leaves := stays progress beyond
  cases ran : step.run progress with
  | ok result moved =>
      rw [ran] at leaves
      exact .valueBeyond leaves.2
  | error exit moved =>
      rw [ran] at leaves
      exact .exitBeyond leaves.2

/-- Steps that correspond wherever they begin together. -/
structure Parallel
    (coupling : Coupling)
    (first second : Step α) : Prop where
  corresponds :
    ∀ {left right},
      coupling.together left right →
      coupling.Corresponds (first.run left) (second.run right)
  staysBeyond : coupling.StaysBeyond first

/-- Where two steps correspond, what is done with their values may correspond too. -/
theorem Corresponds.bind
    {first second : Step α}
    {next other : α → Step β}
    {left right : Progress}
    (corresponds :
      coupling.Corresponds (first.run left) (second.run right))
    (nextCorresponds :
      ∀ value moved movedRight,
        first.run left = .ok value moved →
        coupling.together moved movedRight →
        coupling.Corresponds
          ((next value).run moved) ((other value).run movedRight))
    (nextStays : ∀ value, coupling.StaysBeyond (next value)) :
    coupling.Corresponds
      ((first >>= next).run left) ((second >>= other).run right) := by
  rw [EStateM.run_bind, EStateM.run_bind]
  cases ran : first.run left with
  | ok value moved =>
      rw [ran] at corresponds
      cases ranRight : second.run right with
      | ok otherValue movedRight =>
          rw [ranRight] at corresponds
          cases corresponds with
          | value together =>
              exact nextCorresponds value moved movedRight ran together
          | valueBeyond beyond =>
              exact (nextStays value).corresponds beyond _
      | error exit movedRight =>
          rw [ranRight] at corresponds
          cases corresponds with
          | valueBeyond beyond =>
              exact (nextStays value).corresponds beyond _
  | error exit moved =>
      rw [ran] at corresponds
      cases ranRight : second.run right with
      | ok otherValue movedRight =>
          rw [ranRight] at corresponds
          cases corresponds with
          | exitBeyond beyond => exact .exitBeyond beyond
          | abandoned abandons => exact .abandoned abandons
      | error otherExit movedRight =>
          rw [ranRight] at corresponds
          cases corresponds with
          | exit correspond together => exact .exit correspond together
          | exitBeyond beyond => exact .exitBeyond beyond
          | abandoned abandons => exact .abandoned abandons

namespace Parallel

/-- A value that is ready is the same on both sides. -/
theorem ofPure
    (value : α) :
    coupling.Parallel (pure value) (pure value) where
  corresponds together := .value together
  staysBeyond := .ofPure trivial

/-- Exits that correspond end both steps. -/
theorem ofThrow
    {left right : Exit}
    (correspond : coupling.exits left right) :
    coupling.Parallel (throw left : Step α) (throw right) where
  corresponds together := .exit correspond together
  staysBeyond := .ofThrow trivial

/-- Steps one after another. -/
theorem bind
    {first second : Step α}
    {next other : α → Step β}
    (parallel : coupling.Parallel first second)
    (nextParallel :
      ∀ value, coupling.Parallel (next value) (other value)) :
    coupling.Parallel (first >>= next) (second >>= other) where
  corresponds together :=
    (parallel.corresponds together).bind
      (fun value _ _ _ movedTogether =>
        (nextParallel value).corresponds movedTogether)
      fun value => (nextParallel value).staysBeyond
  staysBeyond :=
    parallel.staysBeyond.bind fun value _ => (nextParallel value).staysBeyond

/-- The same map on both sides. -/
theorem map
    {first second : Step α}
    (parallel : coupling.Parallel first second)
    (apply : α → β) :
    coupling.Parallel (apply <$> first) (apply <$> second) := by
  rw [← bind_pure_comp, ← bind_pure_comp]
  exact parallel.bind fun value => ofPure (apply value)

/-- Attempts that agree. -/
theorem ofAttempt
    {left right : Attempt α}
    (agree : left.Agrees coupling.exits right) :
    coupling.Parallel (Step.ofAttempt left) (Step.ofAttempt right) := by
  cases agree with
  | ok value => exact ofPure value
  | error correspond => exact ofThrow correspond

/-- Attempts that agree once their exits belong to two tokens. -/
theorem ofAttemptAt
    {left right : Token}
    {attempt other : Attempt α}
    (agree : attempt.Agrees (coupling.exitsAt left right) other) :
    coupling.Parallel
      (Step.ofAttemptAt left attempt) (Step.ofAttemptAt right other) := by
  cases agree with
  | ok value => exact ofPure value
  | error correspond => exact ofThrow correspond

end Parallel

end Coupling

end Reckoner
