import Reckoner.Grammar.Shelf
import Reckoner.Proofs.Grammar.Keeping

namespace Reckoner

/-!
# The life of the grammars on a shelf

Every command has one grammar as its target, and leaves the others alone. So what has
become of a grammar is known from the commands of which it is the target, in their order,
for as long as no command puts another grammar under its name. This is a fold over steps
of a single grammar, and what a step keeps is kept for ever: a slot that is filled, and
all of a frozen grammar.
-/

namespace ShelfCommand

/-- The registration of a command and the name of the grammar it is for. -/
def registration? : ShelfCommand → Option (String × Registration)
  | .makeEmpty _ => none
  | .makeStandard _ => none
  | .copy _ _ => none
  | .freeze _ => none
  | .registerOpening name key opening => some (name, .opening key opening)
  | .registerContinuation name key continuation =>
      some (name, .continuation key continuation)
  | .registerBefore name key operation precedence =>
      some (name, .opening key (.operator operation precedence))
  | .registerAfter name key operation precedence =>
      some (name, .continuation key (.trailing operation precedence))
  | .registerBetween name key operation precedence associativity =>
      some (name, .continuation key (.binary operation precedence associativity))

/-- The name under which a command puts another grammar on the shelf. -/
def made? : ShelfCommand → Option String
  | .makeEmpty name => some name
  | .makeStandard name => some name
  | .copy _ copyName => some copyName
  | _ => none

/-- The name of the grammar that a command makes, freezes or registers for. -/
def target : ShelfCommand → String
  | .makeEmpty name => name
  | .makeStandard name => name
  | .copy _ copyName => copyName
  | .freeze name => name
  | .registerOpening name _ _ => name
  | .registerContinuation name _ _ => name
  | .registerBefore name _ _ _ => name
  | .registerAfter name _ _ _ => name
  | .registerBetween name _ _ _ _ => name

/-- A command with a registration has the grammar it is for as its target. -/
theorem target_of_registration?
    {command : ShelfCommand}
    {name : String}
    {registration : Registration}
    (registers : command.registration? = some (name, registration)) :
    command.target = name := by
  cases command <;> cases registers <;> rfl

/-- A command that makes a grammar has it as its target. -/
theorem made?_eq_none
    {command : ShelfCommand}
    (notTarget : command.made? ≠ some command.target) :
    command.made? = none := by
  cases command with
  | makeEmpty | makeStandard | copy => exact absurd rfl notTarget
  | freeze | registerOpening | registerContinuation | registerBefore |
    registerAfter | registerBetween => rfl

end ShelfCommand

namespace Grammar

/-- What a registration makes of a grammar; one that is refused changes nothing. -/
def grownBy
    (grammar : Grammar)
    (registration : Registration) :
    Grammar :=
  match grammar.register registration with
  | .ok grown => grown
  | .error _ => grammar

/-- What a command makes of its target, if it does not put another grammar there. -/
def changedBy
    (grammar : Grammar) :
    ShelfCommand →
    Grammar
  | .freeze _ => grammar.freeze
  | command =>
      match command.registration? with
      | some (_, registration) => grammar.grownBy registration
      | none => grammar

/-- All commands with a registration change their target in the same way. -/
theorem changedBy_of_registration?
    (grammar : Grammar)
    {command : ShelfCommand}
    {name : String}
    {registration : Registration}
    (registers : command.registration? = some (name, registration)) :
    grammar.changedBy command = grammar.grownBy registration := by
  cases command <;> cases registers <;> rfl

/-- What commands make of the grammar of a name, those of which it is the target. -/
def changedByAll
    (grammar : Grammar)
    (name : String)
    (commands : List ShelfCommand) :
    Grammar :=
  (commands.filter fun command => command.target = name).foldl changedBy grammar

/-- A registration keeps what there is, also if it is refused. -/
theorem keeps_grownBy
    (grammar : Grammar)
    (registration : Registration) :
    grammar.Keeps (grammar.grownBy registration) := by
  unfold grownBy
  cases registered : grammar.register registration with
  | ok grown => exact keeps_of_register registered
  | error refusal => exact .refl grammar

/-- A command keeps what its target has. -/
theorem keeps_changedBy
    (grammar : Grammar)
    (command : ShelfCommand) :
    grammar.Keeps (grammar.changedBy command) := by
  cases registers : command.registration? with
  | some registered =>
      rw [grammar.changedBy_of_registration? registers]
      exact grammar.keeps_grownBy registered.2
  | none =>
      cases command with
      | freeze => exact .freeze grammar
      | makeEmpty | makeStandard | copy => exact .refl grammar
      | registerOpening | registerContinuation | registerBefore |
        registerAfter | registerBetween => cases registers

/-- Commands keep what their target has. -/
theorem keeps_changedByAll
    (grammar : Grammar)
    (name : String)
    (commands : List ShelfCommand) :
    grammar.Keeps (grammar.changedByAll name commands) := by
  unfold changedByAll
  induction commands.filter (fun command => command.target = name)
    generalizing grammar with
  | nil => exact .refl grammar
  | cons command rest inductionHypothesis =>
      exact (keeps_changedBy grammar command).trans (inductionHypothesis _)

end Grammar

namespace Shelf

variable {shelf : Shelf}

/-- The shelf after a command; one that is refused changes nothing. -/
def next
    (shelf : Shelf)
    (command : ShelfCommand) :
    Shelf :=
  match shelf.apply command with
  | .ok changed => changed
  | .error _ => shelf

/-- The shelf after commands one after another. -/
def after
    (shelf : Shelf) :
    List ShelfCommand →
    Shelf
  | [] => shelf
  | command :: rest => after (shelf.next command) rest

/-- A grammar that is put on the shelf is found under its name and no other. -/
theorem grammar_insert
    (shelf : Shelf)
    (name other : String)
    (made : Grammar) :
    grammar (Table.insert shelf name made) other =
      if name = other then made else shelf.grammar other := by
  unfold grammar
  rw [Table.get?_insert]
  split
  case isTrue => rfl
  case isFalse => rfl

/-- All commands with a registration do the same. -/
theorem apply_of_registration?
    (shelf : Shelf)
    {command : ShelfCommand}
    {name : String}
    {registration : Registration}
    (registers : command.registration? = some (name, registration)) :
    shelf.apply command =
      ((shelf.grammar name).register registration).map
        (Table.insert shelf name) := by
  cases command <;> cases registers <;> rfl

/-- A command that registers nothing puts a grammar in the place of its target. -/
theorem exists_apply_of_registration?
    (shelf : Shelf)
    {command : ShelfCommand}
    (registersNothing : command.registration? = none) :
    ∃ made,
      shelf.apply command = .ok (Table.insert shelf command.target made) ∧
        (command.made? = none →
          made = (shelf.grammar command.target).changedBy command) := by
  cases command with
  | makeEmpty name => exact ⟨_, rfl, by simp [ShelfCommand.made?]⟩
  | makeStandard name => exact ⟨_, rfl, by simp [ShelfCommand.made?]⟩
  | copy name copyName => exact ⟨_, rfl, by simp [ShelfCommand.made?]⟩
  | freeze name => exact ⟨_, rfl, fun _ => rfl⟩
  | registerOpening | registerContinuation | registerBefore | registerAfter |
    registerBetween => cases registersNothing

/-- A command puts a grammar in the place of its target, or it is refused. -/
theorem next_cases
    (shelf : Shelf)
    (command : ShelfCommand) :
    (∃ made,
      shelf.next command = Table.insert shelf command.target made ∧
        (command.made? = none →
          made = (shelf.grammar command.target).changedBy command)) ∨
      shelf.next command = shelf ∧
        (shelf.grammar command.target).changedBy command =
          shelf.grammar command.target := by
  cases registers : command.registration? with
  | none =>
      obtain ⟨made, applied, changed⟩ :=
        shelf.exists_apply_of_registration? registers
      refine Or.inl ⟨made, ?_, changed⟩
      rw [next, applied]
  | some registered =>
      rcases registered with ⟨name, registration⟩
      have applied := shelf.apply_of_registration? registers
      rw [ShelfCommand.target_of_registration? registers,
        Grammar.changedBy_of_registration? _ registers, Grammar.grownBy, next,
        applied]
      cases (shelf.grammar name).register registration with
      | ok grown => exact Or.inl ⟨grown, rfl, fun _ => rfl⟩
      | error refusal => exact Or.inr ⟨rfl, rfl⟩

/-- A command leaves all grammars but its target alone. -/
theorem grammar_next_of_ne
    (shelf : Shelf)
    {command : ShelfCommand}
    {name : String}
    (differs : command.target ≠ name) :
    (shelf.next command).grammar name = shelf.grammar name := by
  rcases shelf.next_cases command with ⟨made, put, _⟩ | ⟨same, _⟩
  · rw [put, grammar_insert, if_neg differs]
  · rw [same]

/-- A command that makes no grammar changes its target as it would change it alone. -/
theorem grammar_next_target
    (shelf : Shelf)
    {command : ShelfCommand}
    (notMade : command.made? = none) :
    (shelf.next command).grammar command.target =
      (shelf.grammar command.target).changedBy command := by
  rcases shelf.next_cases command with ⟨made, put, changed⟩ | ⟨same, unchanged⟩
  · rw [put, grammar_insert, if_pos rfl, changed notMade]
  · rw [same, unchanged]

/-- What becomes of a grammar is what the commands with it as their target make of it. -/
theorem grammar_after
    (shelf : Shelf)
    {name : String}
    {commands : List ShelfCommand}
    (notMade : ∀ command ∈ commands, command.made? ≠ some name) :
    (shelf.after commands).grammar name =
      (shelf.grammar name).changedByAll name commands := by
  induction commands generalizing shelf with
  | nil => rfl
  | cons command rest inductionHypothesis =>
      have later :=
        inductionHypothesis (shelf.next command) fun other member =>
          notMade other (List.mem_cons_of_mem command member)
      rw [after, later]
      by_cases isTarget : command.target = name
      · have makesNothing : command.made? = none := by
          have notHere := notMade command List.mem_cons_self
          rw [← isTarget] at notHere
          exact ShelfCommand.made?_eq_none notHere
        have changed := shelf.grammar_next_target makesNothing
        rw [isTarget] at changed
        rw [changed, Grammar.changedByAll, Grammar.changedByAll,
          List.filter_cons_of_pos (by simpa using isTarget), List.foldl_cons]
      · rw [shelf.grammar_next_of_ne isTarget, Grammar.changedByAll,
          Grammar.changedByAll,
          List.filter_cons_of_neg (by simpa using isTarget)]

/-- The rules of registrations, for a command that has one for the grammar of a name. -/
structure ObeysRegistration
    (shelf : Shelf)
    (command : ShelfCommand)
    (name : String)
    (registration : Registration) : Prop where
  succeeds_iff :
    (∃ changed, shelf.apply command = .ok changed) ↔
      (shelf.grammar name).frozen = false ∧
        registration.FitsIn (shelf.grammar name)
  fills :
    ∀ changed,
      shelf.apply command = .ok changed →
      (changed.grammar name).frozen = false ∧
        (∀ token,
          (changed.grammar name).meanings token =
            (shelf.grammar name).meaningsWith registration token) ∧
        ∀ other, other ≠ name → changed.grammar other = shelf.grammar other
  /-- The grammar may be frozen and the slot taken; then it is frozen. -/
  frozen :
    (shelf.grammar name).frozen = true →
    shelf.apply command = .error .frozen
  taken :
    (shelf.grammar name).frozen = false →
    ¬ registration.FitsIn (shelf.grammar name) →
    shelf.apply command = .error registration.clash
  refused :
    ∀ refusal,
      shelf.apply command = .error refusal →
      shelf.next command = shelf

/-- A refused command leaves the whole shelf as it was. -/
theorem next_of_refused
    {command : ShelfCommand}
    {refusal : RegistrationError}
    (refused : shelf.apply command = .error refusal) :
    shelf.next command = shelf := by
  rw [next, refused]

/-- All commands with a registration obey the rules of registrations. -/
theorem obeysRegistration
    (shelf : Shelf)
    {command : ShelfCommand}
    {name : String}
    {registration : Registration}
    (registers : command.registration? = some (name, registration)) :
    shelf.ObeysRegistration command name registration := by
  have applied := shelf.apply_of_registration? registers
  have registered := (shelf.grammar name).registers registration
  generalize (shelf.grammar name).register registration = result
    at applied registered
  cases registered with
  | frozen isFrozen =>
      have failed : shelf.apply command = .error .frozen := applied
      refine ⟨⟨?_, ?_⟩, ?_, fun _ => failed, ?_, fun _ => next_of_refused⟩
      · rintro ⟨changed, succeeded⟩
        cases failed.symm.trans succeeded
      · rintro ⟨isOpen, _⟩
        cases isOpen.symm.trans isFrozen
      · intro changed succeeded
        cases failed.symm.trans succeeded
      · intro isOpen
        cases isOpen.symm.trans isFrozen
  | taken isOpen isTaken =>
      have failed : shelf.apply command = .error registration.clash := applied
      refine ⟨⟨?_, ?_⟩, ?_, ?_, fun _ _ => failed, fun _ => next_of_refused⟩
      · rintro ⟨changed, succeeded⟩
        cases failed.symm.trans succeeded
      · rintro ⟨_, fits⟩
        exact absurd fits isTaken
      · intro changed succeeded
        cases failed.symm.trans succeeded
      · intro isFrozen
        cases isOpen.symm.trans isFrozen
  | @filled grown isOpen fits staysOpen meanings =>
      have succeeds :
          shelf.apply command = .ok (Table.insert shelf name grown) :=
        applied
      refine
        ⟨⟨fun _ => ⟨isOpen, fits⟩, fun _ => ⟨_, succeeds⟩⟩, ?_, ?_, ?_,
          fun _ => next_of_refused⟩
      · intro changed succeeded
        cases succeeds.symm.trans succeeded
        refine ⟨?_, fun token => ?_, fun other differs => ?_⟩
        · rw [grammar_insert, if_pos rfl, staysOpen]
        · rw [grammar_insert, if_pos rfl, meanings]
        · rw [grammar_insert, if_neg differs.symm]
      · intro isFrozen
        cases isOpen.symm.trans isFrozen
      · intro _ isTaken
        exact absurd fits isTaken

/-- The rules of the commands that make grammars, copy them and freeze them. -/
structure ObeysMaking
    (shelf : Shelf)
    (name : String) : Prop where
  succeeds :
    ∀ command : ShelfCommand,
      command.registration? = none →
      shelf.apply command = .ok (shelf.next command)
  makesEmpty :
    (shelf.next (.makeEmpty name)).grammar name = Grammar.empty
  /-- The grammar of the calculator comes from registrations, none of them refused. -/
  makesStandard :
    Grammar.empty.registerAll Registration.standard =
      .ok ((shelf.next (.makeStandard name)).grammar name)
  copies :
    ∀ copyName,
      ((shelf.next (.copy name copyName)).grammar copyName).frozen = false ∧
        ((shelf.next (.copy name copyName)).grammar copyName).meanings =
          (shelf.grammar name).meanings
  freezes :
    ((shelf.next (.freeze name)).grammar name).frozen = true ∧
      ((shelf.next (.freeze name)).grammar name).meanings =
        (shelf.grammar name).meanings

/-- The commands that register nothing obey their rules. -/
theorem obeysMaking
    (shelf : Shelf)
    (name : String) :
    shelf.ObeysMaking name := by
  have put (made : Grammar) (target : String) :
      grammar (Table.insert shelf target made) target = made := by
    rw [grammar_insert, if_pos rfl]
  constructor
  case succeeds =>
    intro command registersNothing
    obtain ⟨made, applied, _⟩ :=
      shelf.exists_apply_of_registration? registersNothing
    rw [next, applied]
  case makesEmpty => exact put _ _
  case makesStandard =>
    rw [show (shelf.next (.makeStandard name)).grammar name = _ from put _ _]
    exact Grammar.registerAll_standard
  case copies =>
    intro copyName
    rw [show (shelf.next (.copy name copyName)).grammar copyName = _ from
      put _ _]
    exact ⟨rfl, rfl⟩
  case freezes =>
    rw [show (shelf.next (.freeze name)).grammar name = _ from put _ _]
    exact ⟨rfl, rfl⟩

/--
The life of grammars on a shelf, whatever has been done with the shelf before.

A registration succeeds exactly if its grammar is not frozen and its slot is empty; it
fills this slot, and every other meaning on the shelf stays. A refused one changes nothing.
The other commands are never refused, and no command changes a grammar that is not its
target. As long as no command puts another grammar under a name, the grammar there becomes
what those commands make of it that have it as their target, and keeps all that it had; if
it is frozen it stays as it is. So it is for a copy and its origin: each of them goes on
from the same tables by its own commands.
-/
theorem lifeCycle
    (shelf : Shelf) :
    (∀ command name registration,
      command.registration? = some (name, registration) →
      shelf.ObeysRegistration command name registration) ∧
      (∀ name, shelf.ObeysMaking name) ∧
      (∀ command other,
        other ≠ command.target →
        (shelf.next command).grammar other = shelf.grammar other) ∧
      (∀ name commands,
        (∀ command ∈ commands, command.made? ≠ some name) →
        (shelf.after commands).grammar name =
            (shelf.grammar name).changedByAll name commands ∧
          (shelf.grammar name).Keeps ((shelf.after commands).grammar name)) ∧
      ∀ name copyName commands,
        copyName ≠ name →
        (∀ command ∈ commands,
          command.made? ≠ some name ∧ command.made? ≠ some copyName) →
        let after := (shelf.next (.copy name copyName)).after commands
        after.grammar name =
            (shelf.grammar name).changedByAll name commands ∧
          after.grammar copyName =
            (shelf.grammar name).copy.changedByAll copyName commands := by
  refine
    ⟨fun command name registration => shelf.obeysRegistration,
      shelf.obeysMaking,
      fun command other differs => shelf.grammar_next_of_ne differs.symm,
      ?_, ?_⟩
  · intro name commands notMade
    rw [shelf.grammar_after notMade]
    exact ⟨rfl, Grammar.keeps_changedByAll _ name commands⟩
  · intro name copyName commands differs notMade
    have origin :
        (shelf.next (.copy name copyName)).grammar name =
          shelf.grammar name :=
      shelf.grammar_next_of_ne differs
    have copied :
        (shelf.next (.copy name copyName)).grammar copyName =
          (shelf.grammar name).copy := by
      rw [next, apply, grammar_insert, if_pos rfl]
    refine ⟨?_, ?_⟩
    · rw [grammar_after _ fun command member => (notMade command member).1,
        origin]
    · rw [grammar_after _ fun command member => (notMade command member).2,
        copied]

/-- A copy takes one operator for `&`, and none behind an operand as well. -/
theorem lifeCycle_extendedCopy :
    let shelf := (withStandard "default").next (.copy "default" "mine")
    let between : ShelfCommand :=
      .registerBetween "mine" (.symbol "&") Arithmetic.add .sum .left
    let behind : ShelfCommand :=
      .registerAfter "mine" (.symbol "&") Arithmetic.factorial .afterOperand
    let inOrigin : ShelfCommand :=
      .registerBefore "default" (.symbol "-") Arithmetic.negate .beforeOperand
    (∃ changed, shelf.apply between = .ok changed) ∧
      (shelf.next between).apply behind =
        .error (.continuationTaken (.symbol "&")) ∧
      shelf.apply inOrigin = .error .frozen ∧
      (shelf.after [between, behind]).grammar "default" =
        Grammar.frozenStandard ∧
      (shelf.grammar "mine").Keeps
        ((shelf.after [between, behind]).grammar "mine") := by
  intro shelf between behind inOrigin
  obtain ⟨registers, _, _, runs, _⟩ := lifeCycle shelf
  obtain ⟨registersBehind, _⟩ := lifeCycle (shelf.next between)
  have notMade (name : String) :
      ∀ command ∈ [between, behind], command.made? ≠ some name := by
    simp [between, behind, ShelfCommand.made?]
  refine ⟨?_, ?_, ?_, ?_, ?_⟩
  · have obeys := registers between "mine" _ rfl
    exact obeys.succeeds_iff.2 ⟨rfl, rfl⟩
  · have obeys := registersBehind behind "mine" _ rfl
    refine obeys.taken rfl fun fits => ?_
    cases fits
  · have obeys := registers inOrigin "default" _ rfl
    exact obeys.frozen rfl
  · exact (runs "default" _ (notMade "default")).1
  · exact (runs "mine" _ (notMade "mine")).2

end Shelf

end Reckoner
