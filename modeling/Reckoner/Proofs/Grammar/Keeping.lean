import Reckoner.Proofs.Grammar.Registration

namespace Reckoner

/-!
# What a registration comes to

A registration is refused by a frozen grammar, or because its slot is taken; otherwise it
fills its slot. Since the slot was empty, all meanings that there were are still there.
This is kept by one registration after another, and by freezing a grammar.
-/

namespace Registration

/-- The slot of a registration is empty in a grammar. -/
def FitsIn
    (grammar : Grammar) :
    Registration →
    Prop
  | .opening key _ => grammar.openings.get? key.slot = none
  | .continuation key _ => grammar.continuations.get? key.slot = none

/-- Why a registration is refused if its slot is taken. -/
def clash : Registration → RegistrationError
  | .opening key _ => .openingTaken key
  | .continuation key _ => .continuationTaken key

/-- The meanings of a token once a registration has filled one of its slots. -/
def fill : Registration →
    Option Opening × Option Continuation →
    Option Opening × Option Continuation
  | .opening _ given, meanings => (some given, meanings.2)
  | .continuation _ given, meanings => (meanings.1, some given)

/-- The registrations that make the grammar of the calculator, in order. -/
def standard : List Registration := [
  .opening (.symbol "(") .group,
  .opening (.kind .number) (.literal Arithmetic.number),
  .opening (.kind .identifier) .name,
  .opening (.symbol "-") (.operator Arithmetic.negate .beforeOperand),
  .continuation (.symbol "-") (.binary Arithmetic.subtract .sum .left),
  .continuation (.symbol "+") (.binary Arithmetic.add .sum .left),
  .continuation (.symbol "*") (.binary Arithmetic.multiply .product .left),
  .continuation (.symbol "/") (.binary Arithmetic.divide .product .left),
  .continuation (.symbol "%") (.binary Arithmetic.modulo .product .left),
  .continuation (.symbol "^") (.binary Arithmetic.power .exponent .right),
  .continuation (.symbol "!") (.trailing Arithmetic.factorial .factorial)
]

end Registration

namespace Grammar

variable {grammar grown : Grammar}

/-- What a token means once the slot of a registration has been filled. -/
def meaningsWith
    (grammar : Grammar)
    (registration : Registration)
    (token : Token) :
    Option Opening × Option Continuation :=
  if (SlotKey.ofToken token).slot = registration.key.slot then
    registration.fill (grammar.meanings token)
  else
    grammar.meanings token

/-- What a registration can come to. -/
inductive Registers
    (grammar : Grammar)
    (registration : Registration) :
    Except RegistrationError Grammar →
    Prop where
  | frozen
      (isFrozen : grammar.frozen = true) :
      Registers grammar registration (.error .frozen)
  | taken
      (isOpen : grammar.frozen = false)
      (isTaken : ¬ registration.FitsIn grammar) :
      Registers grammar registration (.error registration.clash)
  | filled
      {grown : Grammar}
      (isOpen : grammar.frozen = false)
      (fits : registration.FitsIn grammar)
      (staysOpen : grown.frozen = false)
      (meanings :
        ∀ token, grown.meanings token = grammar.meaningsWith registration token) :
      Registers grammar registration (.ok grown)

/-- An opening that is inserted is found in its slot and in no other. -/
theorem meanings_insert_opening
    (grammar : Grammar)
    (key : SlotKey)
    (opening : Opening)
    (token : Token) :
    meanings
        { grammar with openings := grammar.openings.insert key.slot opening }
        token =
      grammar.meaningsWith (.opening key opening) token := by
  simp only [meanings, meaningsWith, opening?, continuation?, Table.get?_insert]
  by_cases same : key.slot = (SlotKey.ofToken token).slot
  · simp [same, Registration.key, Registration.fill]
  · simp [same, Ne.symm same, Registration.key]

/-- A continuation that is inserted is found in its slot and in no other. -/
theorem meanings_insert_continuation
    (grammar : Grammar)
    (key : SlotKey)
    (continuation : Continuation)
    (token : Token) :
    meanings
        { grammar with
          continuations :=
            grammar.continuations.insert key.slot continuation }
        token =
      grammar.meaningsWith (.continuation key continuation) token := by
  simp only [meanings, meaningsWith, opening?, continuation?, Table.get?_insert]
  by_cases same : key.slot = (SlotKey.ofToken token).slot
  · simp [same, Registration.key, Registration.fill]
  · simp [same, Ne.symm same, Registration.key]

/-- A registration fills an empty slot of an open grammar, and is refused otherwise. -/
theorem registers
    (grammar : Grammar)
    (registration : Registration) :
    grammar.Registers registration (grammar.register registration) := by
  cases frozen : grammar.frozen with
  | true =>
      have refused : grammar.register registration = .error .frozen := by
        cases registration <;> simp [register, registerOpening,
          registerContinuation, frozen]
      rw [refused]
      exact .frozen frozen
  | false =>
      cases registration with
      | opening key opening =>
          simp only [register, registerOpening, frozen, Table.contains]
          cases found : grammar.openings.get? key.slot with
          | some other =>
              refine .taken frozen fun fits => ?_
              cases found.symm.trans fits
          | none =>
              exact
                .filled frozen found rfl
                  (grammar.meanings_insert_opening key opening)
      | continuation key continuation =>
          simp only [register, registerContinuation, frozen, Table.contains]
          cases found : grammar.continuations.get? key.slot with
          | some other =>
              refine .taken frozen fun fits => ?_
              cases found.symm.trans fits
          | none =>
              exact
                .filled frozen found rfl
                  (grammar.meanings_insert_continuation key continuation)

/-- The grammar of the calculator is what its registrations make of the empty one. -/
theorem registerAll_standard :
    empty.registerAll Registration.standard = .ok standard :=
  rfl

/-- What a grammar has keeps its place, and a frozen grammar stays as it is. -/
structure Keeps
    (before after : Grammar) : Prop where
  openings :
    ∀ token opening,
      before.opening? token = some opening →
      after.opening? token = some opening
  continuations :
    ∀ token continuation,
      before.continuation? token = some continuation →
      after.continuation? token = some continuation
  frozen :
    before.frozen = true →
    after = before

namespace Keeps

/-- A grammar keeps what it has. -/
theorem refl
    (grammar : Grammar) :
    grammar.Keeps grammar :=
  ⟨fun _ _ => id, fun _ _ => id, fun _ => rfl⟩

/-- What is kept twice is kept. -/
theorem trans
    {before middle after : Grammar}
    (first : before.Keeps middle)
    (second : middle.Keeps after) :
    before.Keeps after where
  openings token opening known :=
    second.openings token opening (first.openings token opening known)
  continuations token continuation known :=
    second.continuations token continuation
      (first.continuations token continuation known)
  frozen isFrozen := by
    have same := first.frozen isFrozen
    subst same
    exact second.frozen isFrozen

/-- Freezing keeps what there is. -/
theorem freeze
    (grammar : Grammar) :
    grammar.Keeps grammar.freeze where
  openings _ _ := id
  continuations _ _ := id
  frozen isFrozen := by
    rw [Grammar.freeze, ← isFrozen]

end Keeps

/-- A registration that fits leaves the openings that there are. -/
theorem opening?_of_fitsIn
    {registration : Registration}
    (fits : registration.FitsIn grammar)
    {token : Token}
    {opening : Opening}
    (known : grammar.opening? token = some opening) :
    (grammar.meaningsWith registration token).1 = some opening := by
  unfold meaningsWith
  split
  case isTrue same =>
    cases registration with
    | opening key given =>
        rw [opening?, same] at known
        cases known.symm.trans fits
    | continuation key given => exact known
  case isFalse => exact known

/-- A registration that fits leaves the continuations that there are. -/
theorem continuation?_of_fitsIn
    {registration : Registration}
    (fits : registration.FitsIn grammar)
    {token : Token}
    {continuation : Continuation}
    (known : grammar.continuation? token = some continuation) :
    (grammar.meaningsWith registration token).2 = some continuation := by
  unfold meaningsWith
  split
  case isTrue same =>
    cases registration with
    | opening key given => exact known
    | continuation key given =>
        rw [continuation?, same] at known
        cases known.symm.trans fits
  case isFalse => exact known

/-- A registration that succeeds keeps what there is. -/
theorem keeps_of_register
    {registration : Registration}
    (registered : grammar.register registration = .ok grown) :
    grammar.Keeps grown := by
  have registers := grammar.registers registration
  rw [registered] at registers
  cases registers with
  | filled isOpen fits staysOpen meanings =>
      constructor
      case openings =>
        intro token opening known
        exact
          (congrArg Prod.fst (meanings token)).trans
            (opening?_of_fitsIn fits known)
      case continuations =>
        intro token continuation known
        exact
          (congrArg Prod.snd (meanings token)).trans
            (continuation?_of_fitsIn fits known)
      case frozen =>
        intro isFrozen
        cases isOpen.symm.trans isFrozen

end Grammar

end Reckoner
