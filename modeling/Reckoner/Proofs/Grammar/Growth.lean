import Reckoner.Proofs.Grammar.Likeness
import Reckoner.Proofs.Syntax.Extension

namespace Reckoner

/-!
# Grammars that have grown

A grammar may be copied and given openings and continuations of further symbols. A
registration fills one slot and no other. Whatever has been registered, sources in
which none of these symbols occurs therefore mean what they meant before. The symbols
must not have the names of the slots that all numbers and all identifiers share.
-/

namespace Grammar

/-- A grammar that comes from another one by registrations of some symbols. -/
inductive GrownFrom
    (origin : Grammar)
    (symbols : List String) :
    Grammar →
    Prop where
  | copied : GrownFrom origin symbols origin.copy
  | opening
      {grammar grown : Grammar}
      {symbol : String}
      {opening : Opening}
      (before : GrownFrom origin symbols grammar)
      (listed : symbol ∈ symbols)
      (registered :
        grammar.registerOpening (.symbol symbol) opening = .ok grown) :
      GrownFrom origin symbols grown
  | continuation
      {grammar grown : Grammar}
      {symbol : String}
      {continuation : Continuation}
      (before : GrownFrom origin symbols grammar)
      (listed : symbol ∈ symbols)
      (registered :
        grammar.registerContinuation (.symbol symbol) continuation =
          .ok grown) :
      GrownFrom origin symbols grown

namespace GrownFrom

variable {origin grammar : Grammar}
variable {symbols : List String}

/-- The slots of all other symbols are as they were. -/
theorem slots_eq
    (grown : GrownFrom origin symbols grammar)
    {slot : String}
    (unlisted : slot ∉ symbols) :
    grammar.openings.get? slot = origin.openings.get? slot ∧
      grammar.continuations.get? slot = origin.continuations.get? slot := by
  induction grown with
  | copied => exact ⟨rfl, rfl⟩
  | opening before listed registered inductionHypothesis =>
      obtain ⟨openings, continuations⟩ :=
        openings_of_registerOpening registered
      have differs := ne_of_mem_of_not_mem listed unlisted
      rw [openings, continuations, get?_insert_symbol differs]
      exact inductionHypothesis
  | continuation before listed registered inductionHypothesis =>
      obtain ⟨continuations, openings⟩ :=
        continuations_of_registerContinuation registered
      have differs := ne_of_mem_of_not_mem listed unlisted
      rw [openings, continuations, get?_insert_symbol differs]
      exact inductionHypothesis

/-- The grammar has stayed the same for all tokens in other slots. -/
theorem alike
    (grown : GrownFrom origin symbols grammar) :
    Alike (fun token => (SlotKey.ofToken token).slot ∉ symbols) id
      origin grammar where
  openings token unlisted := by
    rw [Opening.relevel_id, Option.map_id, id, opening?, opening?]
    exact (grown.slots_eq unlisted).1
  continuations token unlisted := by
    rw [Continuation.relevel_id, Option.map_id, id, continuation?,
      continuation?]
    exact (grown.slots_eq unlisted).2

end GrownFrom

/-- A token that is none of the symbols is in none of their slots either. -/
theorem slot_not_mem
    {symbols : List String}
    (numbers : TokenKind.number.name ∉ symbols)
    (identifiers : TokenKind.identifier.name ∉ symbols)
    {token : Token}
    (unused : token.kind = .symbol → token.lexeme ∉ symbols) :
    (SlotKey.ofToken token).slot ∉ symbols := by
  rcases token with ⟨kind, lexeme, position⟩
  cases kind with
  | number => exact numbers
  | identifier => exact identifiers
  | symbol => exact unused rfl

/--
Registrations are conservative. Whatever has been registered for some symbols, a
source in which none of them occurs has the same report as before in every
environment: the same outcome, the same assignments and the same environment
afterwards.
-/
theorem GrownFrom.evaluateWithin_of_unused
    {origin grammar : Grammar}
    {symbols : List String}
    (grown : GrownFrom origin symbols grammar)
    (numbers : TokenKind.number.name ∉ symbols)
    (identifiers : TokenKind.identifier.name ∉ symbols)
    {source : String}
    (unused :
      ∀ tokens,
        tokenize source = .ok tokens →
        ∀ token ∈ tokens,
          token.kind = .symbol →
          token.lexeme ∉ symbols)
    (levels : Nat)
    (environment : Environment) :
    Expression.evaluateWithin levels grammar environment source =
      Expression.evaluateWithin levels origin environment source := by
  apply grown.alike.evaluateWithin_eq (.refl origin)
  intro tokens tokenized token member
  exact slot_not_mem numbers identifiers (unused tokens tokenized token member)

/-- A sign in front and an operator behind make no difference to `(x=2)*-3`. -/
theorem GrownFrom.evaluateWithin_of_unused_assignedProduct :
    ∃ first second,
      frozenStandard.copy.registerOpening (.symbol "+")
          (.operator Arithmetic.negate .sum) = .ok first ∧
        first.registerContinuation (.symbol "~")
          (.trailing Arithmetic.factorial .call) = .ok second ∧
        (Expression.evaluateWithin 4 second Environment.empty
          "(x=2)*-3").outcome = .value (some (.int (-6))) := by
  let first : Grammar :=
    {
      frozenStandard.copy with
      openings :=
        standard.openings.insert "+" (.operator Arithmetic.negate .sum)
    }
  let second : Grammar :=
    {
      first with
      continuations :=
        standard.continuations.insert "~"
          (.trailing Arithmetic.factorial .call)
    }
  have registeredFirst :
      frozenStandard.copy.registerOpening (.symbol "+")
        (.operator Arithmetic.negate .sum) = .ok first := rfl
  have registeredSecond :
      first.registerContinuation (.symbol "~")
        (.trailing Arithmetic.factorial .call) = .ok second := rfl
  have grown : GrownFrom frozenStandard ["+", "~"] second :=
    .continuation (.opening .copied (by decide) registeredFirst) (by decide)
      registeredSecond
  have tokenized :
      tokenize "(x=2)*-3" = .ok [
        ⟨.symbol, "(", 0⟩, ⟨.identifier, "x", 1⟩, ⟨.symbol, "=", 2⟩,
        ⟨.number, "2", 3⟩, ⟨.symbol, ")", 4⟩, ⟨.symbol, "*", 5⟩,
        ⟨.symbol, "-", 6⟩, ⟨.number, "3", 7⟩
      ] := rfl
  have unused :
      ∀ tokens,
        tokenize "(x=2)*-3" = .ok tokens →
        ∀ token ∈ tokens,
          token.kind = .symbol →
          token.lexeme ∉ ["+", "~"] := by
    intro tokens same
    cases tokenized.symm.trans same
    decide
  have sameReport :=
    evaluateWithin_of_unused grown (by decide) (by decide) unused 4
      Environment.empty
  refine ⟨first, second, registeredFirst, registeredSecond, ?_⟩
  rw [sameReport, Expression.evaluateWithin_of_tokenized tokenized]
  rfl

end Grammar

end Reckoner
