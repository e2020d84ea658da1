import Mathlib.Logic.Basic
import Reckoner.Grammar.Basic
import Reckoner.Proofs.Token.Lexeme

namespace Reckoner

/-!
# Registrations and the slots they fill

A registration succeeds only if its slot is empty, and then fills this slot and no
other. After any number of registrations the tokens that mean something else than
before are therefore known from the keys alone.

The slot of a key is found by a name, and this is the name of a kind of token or the
text of a symbol. So numbers and identifiers share slots with the two symbols that
have the names of their kinds. These symbols stand in no source, where a text that
begins with a letter is an identifier; but they can be registered.
-/

/-- A meaning, and the key that it is registered for. -/
inductive Registration where
  | opening (key : SlotKey) (opening : Opening)
  | continuation (key : SlotKey) (continuation : Continuation)

namespace Registration

/-- The key of a registration. -/
def key : Registration → SlotKey
  | .opening key _ => key
  | .continuation key _ => key

/-- The entry that a registration makes in the table of openings, if it is for it. -/
def opening? : Registration → Option (String × Opening)
  | .opening key meaning => some (key.slot, meaning)
  | .continuation _ _ => none

/-- The entry that a registration makes in the table of continuations, if it is for it. -/
def continuation? : Registration → Option (String × Continuation)
  | .opening _ _ => none
  | .continuation key meaning => some (key.slot, meaning)

/-- The entry of an opening is in the slot of its key. -/
theorem slot_of_opening?
    {registration : Registration}
    {slot : String}
    {meaning : Opening}
    (made : registration.opening? = some (slot, meaning)) :
    registration.key.slot = slot := by
  cases registration with
  | opening => exact congrArg Prod.fst (Option.some.inj made)
  | continuation => cases made

/-- The entry of a continuation is in the slot of its key. -/
theorem slot_of_continuation?
    {registration : Registration}
    {slot : String}
    {meaning : Continuation}
    (made : registration.continuation? = some (slot, meaning)) :
    registration.key.slot = slot := by
  cases registration with
  | opening => cases made
  | continuation => exact congrArg Prod.fst (Option.some.inj made)

end Registration

/-- Entries for unbound keys change what is found at these keys and nowhere else. -/
theorem Table.get?_insertAll_ne_iff
    {κ α : Type}
    [DecidableEq κ]
    {table : Table κ α}
    {entries : List (κ × α)}
    (fresh : ∀ entry ∈ entries, table.get? entry.1 = none)
    {key : κ} :
    (table.insertAll entries).get? key ≠ table.get? key ↔
      ∃ value, (key, value) ∈ entries := by
  rcases get?_insertAll_bound_or_kept entries key with
    ⟨value, member, bound⟩ | ⟨absent, kept⟩
  · have unbound : table.get? key = none := fresh _ member
    refine iff_of_true ?_ ⟨value, member⟩
    rw [bound table, unbound]
    exact Option.some_ne_none value
  · refine iff_of_false (fun changed => changed (kept table)) ?_
    rintro ⟨value, member⟩
    exact absent value member

namespace SlotKey

/-- The slot of a token that is a symbol is its text. -/
theorem slot_ofToken_of_symbol
    {token : Token}
    (isSymbol : token.kind = .symbol) :
    (ofToken token).slot = token.lexeme := by
  rw [ofToken, isSymbol]
  rfl

/-- The slot of a number is that of its kind, or of the symbol with the kind's name. -/
theorem slot_eq_number_iff
    {key : SlotKey} :
    key.slot = TokenKind.number.name ↔
      key = .kind .number ∨ key = .symbol TokenKind.number.name := by
  cases key with
  | kind tokenKind => cases tokenKind <;> decide
  | symbol lexeme => simp [slot]

/-- The slot of an identifier is that of its kind, or of the symbol with its name. -/
theorem slot_eq_identifier_iff
    {key : SlotKey} :
    key.slot = TokenKind.identifier.name ↔
      key = .kind .identifier ∨ key = .symbol TokenKind.identifier.name := by
  cases key with
  | kind tokenKind => cases tokenKind <;> decide
  | symbol lexeme => simp [slot]

/-- The slot of a symbol is its own, unless it has the name of a kind. -/
theorem slot_eq_lexeme_iff
    {key : SlotKey}
    {lexeme : String} :
    key.slot = lexeme ↔
      key = .symbol lexeme ∨
        ∃ tokenKind, key = .kind tokenKind ∧ tokenKind.name = lexeme := by
  cases key with
  | kind tokenKind => simp [slot]
  | symbol other => simp [slot]

end SlotKey

namespace Grammar

variable {grammar grown : Grammar}

/-- A successful registration of an opening fills the empty slot of its key. -/
theorem eq_of_registerOpening
    {key : SlotKey}
    {opening : Opening}
    (registered : grammar.registerOpening key opening = .ok grown) :
    grammar.openings.get? key.slot = none ∧
      grown =
        { grammar with
          openings := grammar.openings.insert key.slot opening } := by
  unfold registerOpening at registered
  split at registered
  case isTrue => cases registered
  case isFalse =>
    split at registered
    case isTrue => cases registered
    case isFalse empty =>
      cases registered
      exact ⟨by simpa [Table.contains] using empty, rfl⟩

/-- A successful registration of a continuation fills the empty slot of its key. -/
theorem eq_of_registerContinuation
    {key : SlotKey}
    {continuation : Continuation}
    (registered :
      grammar.registerContinuation key continuation = .ok grown) :
    grammar.continuations.get? key.slot = none ∧
      grown =
        { grammar with
          continuations :=
            grammar.continuations.insert key.slot continuation } := by
  unfold registerContinuation at registered
  split at registered
  case isTrue => cases registered
  case isFalse =>
    split at registered
    case isTrue => cases registered
    case isFalse empty =>
      cases registered
      exact ⟨by simpa [Table.contains] using empty, rfl⟩

/-- The grammar after a registration, unless it is refused. -/
def register
    (grammar : Grammar) :
    Registration →
    Except RegistrationError Grammar
  | .opening key opening => grammar.registerOpening key opening
  | .continuation key continuation =>
      grammar.registerContinuation key continuation

/-- The grammar after registrations one after another, unless one is refused. -/
def registerAll :
    Grammar →
    List Registration →
    Except RegistrationError Grammar
  | grammar, [] => .ok grammar
  | grammar, registration :: later =>
      (grammar.register registration).bind fun grown =>
        grown.registerAll later

/-- A grammar whose slots are those of another one and those that registrations fill. -/
structure FilledBy
    (grammar : Grammar)
    (registrations : List Registration)
    (grown : Grammar) : Prop where
  openings :
    grown.openings =
      grammar.openings.insertAll (registrations.filterMap (·.opening?))
  continuations :
    grown.continuations =
      grammar.continuations.insertAll
        (registrations.filterMap (·.continuation?))
  openingsFresh :
    ∀ entry ∈ registrations.filterMap (·.opening?),
      grammar.openings.get? entry.1 = none
  continuationsFresh :
    ∀ entry ∈ registrations.filterMap (·.continuation?),
      grammar.continuations.get? entry.1 = none

/-- A slot that is empty after an insertion was empty before. -/
theorem get?_eq_none_of_insert
    {α : Type}
    {table : Table String α}
    {slot other : String}
    {entry : α}
    (empty : (table.insert slot entry).get? other = none) :
    table.get? other = none := by
  rw [Table.get?_insert] at empty
  split at empty
  case isTrue => cases empty
  case isFalse => exact empty

/-- A registration that is not refused fills its slot only. -/
theorem FilledBy.step
    {registration : Registration}
    {later : List Registration}
    {middle : Grammar}
    (registered : grammar.register registration = .ok middle)
    (filled : middle.FilledBy later grown) :
    grammar.FilledBy (registration :: later) grown := by
  cases registration with
  | opening key opening =>
      obtain ⟨empty, rfl⟩ := eq_of_registerOpening registered
      exact {
        openings := filled.openings
        continuations := filled.continuations
        openingsFresh := List.forall_mem_cons.2
          ⟨empty, fun entry member =>
            get?_eq_none_of_insert (filled.openingsFresh entry member)⟩
        continuationsFresh := filled.continuationsFresh
      }
  | continuation key continuation =>
      obtain ⟨empty, rfl⟩ := eq_of_registerContinuation registered
      exact {
        openings := filled.openings
        continuations := filled.continuations
        openingsFresh := filled.openingsFresh
        continuationsFresh := List.forall_mem_cons.2
          ⟨empty, fun entry member =>
            get?_eq_none_of_insert (filled.continuationsFresh entry member)⟩
      }

/-- Registrations that are not refused fill their slots only. -/
theorem filledBy_of_registerAll
    {registrations : List Registration}
    (registered : grammar.registerAll registrations = .ok grown) :
    grammar.FilledBy registrations grown := by
  induction registrations generalizing grammar with
  | nil =>
      cases registered
      exact ⟨rfl, rfl, by simp, by simp⟩
  | cons registration later inductionHypothesis =>
      rw [registerAll] at registered
      cases first : grammar.register registration with
      | error refusal =>
          rw [first] at registered
          cases registered
      | ok middle =>
          rw [first] at registered
          exact .step first (inductionHypothesis registered)

/-- What a token means at the start of an operand and after one. -/
def meanings
    (grammar : Grammar)
    (token : Token) :
    Option Opening × Option Continuation :=
  (grammar.opening? token, grammar.continuation? token)

/-- A token changes its meanings exactly if something is registered for its slot. -/
theorem FilledBy.meanings_ne_iff
    {registrations : List Registration}
    (filled : grammar.FilledBy registrations grown)
    {token : Token} :
    grown.meanings token ≠ grammar.meanings token ↔
      ∃ registration ∈ registrations,
        registration.key.slot = (SlotKey.ofToken token).slot := by
  have openings :
      grown.opening? token ≠ grammar.opening? token ↔
        ∃ opening,
          ((SlotKey.ofToken token).slot, opening) ∈
            registrations.filterMap (·.opening?) := by
    rw [opening?, filled.openings]
    exact Table.get?_insertAll_ne_iff filled.openingsFresh
  have continuations :
      grown.continuation? token ≠ grammar.continuation? token ↔
        ∃ continuation,
          ((SlotKey.ofToken token).slot, continuation) ∈
            registrations.filterMap (·.continuation?) := by
    rw [continuation?, filled.continuations]
    exact Table.get?_insertAll_ne_iff filled.continuationsFresh
  rw [meanings, meanings, Ne, Prod.mk.injEq, not_and_or]
  refine (or_congr openings continuations).trans ?_
  simp only [List.mem_filterMap]
  constructor
  · rintro (⟨meaning, registration, member, made⟩ |
      ⟨meaning, registration, member, made⟩)
    · exact ⟨registration, member, Registration.slot_of_opening? made⟩
    · exact ⟨registration, member, Registration.slot_of_continuation? made⟩
  · rintro ⟨registration, member, sameSlot⟩
    cases registration with
    | opening key meaning =>
        have made :
            (Registration.opening key meaning).opening? =
              some ((SlotKey.ofToken token).slot, meaning) := by
          rw [← sameSlot]
          rfl
        exact Or.inl ⟨meaning, _, member, made⟩
    | continuation key meaning =>
        have made :
            (Registration.continuation key meaning).continuation? =
              some ((SlotKey.ofToken token).slot, meaning) := by
          rw [← sameSlot]
          rfl
        exact Or.inr ⟨meaning, _, member, made⟩

/--
Registrations change the meanings of exactly the tokens whose slots they fill. A number
or an identifier is such a token if something is registered for its kind or for the
symbol with the name of its kind; a symbol is one if something is registered for itself
or for a kind that it has the name of. No symbol of a source has the name of a kind of
which something can be registered for all tokens, so these are out of its reach.
-/
theorem meanings_ne_iff_of_registerAll
    {registrations : List Registration}
    (registered : grammar.registerAll registrations = .ok grown) :
    (∀ token,
      token.kind = .number →
      (grown.meanings token ≠ grammar.meanings token ↔
        ∃ registration ∈ registrations,
          registration.key = .kind .number ∨
            registration.key = .symbol TokenKind.number.name)) ∧
      (∀ token,
        token.kind = .identifier →
        (grown.meanings token ≠ grammar.meanings token ↔
          ∃ registration ∈ registrations,
            registration.key = .kind .identifier ∨
              registration.key = .symbol TokenKind.identifier.name)) ∧
      (∀ token,
        token.kind = .symbol →
        (grown.meanings token ≠ grammar.meanings token ↔
          ∃ registration ∈ registrations,
            registration.key = .symbol token.lexeme ∨
              ∃ tokenKind,
                registration.key = .kind tokenKind ∧
                  tokenKind.name = token.lexeme)) ∧
      ∀ source tokens,
        tokenize source = .ok tokens →
        ∀ token ∈ tokens,
          token.kind = .symbol →
          (∀ registration ∈ registrations,
            registration.key = .kind .number ∨
              registration.key = .kind .identifier) →
          grown.meanings token = grammar.meanings token := by
  have filled := filledBy_of_registerAll registered
  refine
    ⟨fun token isNumber => ?_, fun token isName => ?_,
      fun token isSymbol => ?_, ?_⟩
  · have own : (SlotKey.ofToken token).slot = TokenKind.number.name := by
      rw [SlotKey.ofToken, isNumber]
      rfl
    simp only [filled.meanings_ne_iff, own, SlotKey.slot_eq_number_iff]
  · have own : (SlotKey.ofToken token).slot = TokenKind.identifier.name := by
      rw [SlotKey.ofToken, isName]
      rfl
    simp only [filled.meanings_ne_iff, own, SlotKey.slot_eq_identifier_iff]
  · simp only [filled.meanings_ne_iff,
      SlotKey.slot_ofToken_of_symbol isSymbol, SlotKey.slot_eq_lexeme_iff]
  · intro source tokens tokenized token member isSymbol onlyKinds
    obtain ⟨notNumber, notIdentifier⟩ :=
      namesNoKind_of_tokenize tokenized member isSymbol
    refine not_not.1 fun changed => ?_
    obtain ⟨registration, listed, sameSlot⟩ :=
      filled.meanings_ne_iff.1 changed
    rw [SlotKey.slot_ofToken_of_symbol isSymbol] at sameSlot
    rcases onlyKinds registration listed with isKind | isKind
    · rw [isKind] at sameSlot
      exact notNumber sameSlot.symm
    · rw [isKind] at sameSlot
      exact notIdentifier sameSlot.symm

/-- The symbols `~` and `number` change themselves and numbers, but no identifiers. -/
theorem meanings_ne_iff_of_registerAll_twoSymbols :
    let registrations : List Registration := [
      .opening (.symbol "~") (.operator Arithmetic.negate .sum),
      .continuation (.symbol "number")
        (.binary Arithmetic.multiply .product .left)
    ]
    ∃ grown,
      standard.registerAll registrations = .ok grown ∧
        grown.meanings ⟨.symbol, "~", 0⟩ ≠
          standard.meanings ⟨.symbol, "~", 0⟩ ∧
        grown.meanings ⟨.number, "7", 1⟩ ≠
          standard.meanings ⟨.number, "7", 1⟩ ∧
        grown.meanings ⟨.identifier, "number", 2⟩ =
          standard.meanings ⟨.identifier, "number", 2⟩ := by
  intro registrations
  let grown : Grammar :=
    {
      standard with
      openings :=
        standard.openings.insert "~" (.operator Arithmetic.negate .sum)
      continuations :=
        standard.continuations.insert "number"
          (.binary Arithmetic.multiply .product .left)
    }
  have registered : standard.registerAll registrations = .ok grown := rfl
  obtain ⟨numbers, identifiers, symbols, _⟩ :=
    meanings_ne_iff_of_registerAll registered
  refine ⟨grown, registered, ?_, ?_, ?_⟩
  · exact (symbols _ rfl).2 ⟨_, List.mem_cons_self, Or.inl rfl⟩
  · exact
      (numbers _ rfl).2
        ⟨_, List.mem_cons_of_mem _ List.mem_cons_self, Or.inr rfl⟩
  · refine not_not.1 fun changed => ?_
    have clash := (identifiers _ rfl).1 changed
    simp [registrations, Registration.key, TokenKind.name] at clash

/-- A symbol that changes what numbers mean, and a kind that changes a symbol. -/
theorem meanings_ne_of_namesakes :
    (∃ grown,
      standard.registerContinuation (.symbol "number")
          (.binary Arithmetic.add .sum .left) = .ok grown ∧
        grown.meanings ⟨.number, "1", 0⟩ ≠
          standard.meanings ⟨.number, "1", 0⟩) ∧
      ∃ grown,
        empty.registerOpening (.kind .number)
            (.literal Arithmetic.number) = .ok grown ∧
          grown.meanings ⟨.symbol, "number", 0⟩ ≠
            empty.meanings ⟨.symbol, "number", 0⟩ := by
  constructor
  · refine ⟨_, rfl, fun same => ?_⟩
    cases congrArg Prod.snd same
  · refine ⟨_, rfl, fun same => ?_⟩
    cases congrArg Prod.fst same

end Grammar

end Reckoner
