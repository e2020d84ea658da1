import Reckoner.Proofs.Evaluation.Operations
import Reckoner.Proofs.Number.Reading
import Reckoner.Proofs.Syntax.Offence

namespace Reckoner

/-!
# Numerals that are too long

A number is called malformed for two reasons. The tokenizer finds digits and points that
are no numeral, or a numeral has been tokenized but has too many digits to be read. The
second is the only one once there are tokens: nothing else in an evaluation calls a number
malformed, and a numeral with a point is always read.
-/

/-- A token of a numeral without a point that has too many digits to be read. -/
structure Token.IsTooLong
    (token : Token) : Prop where
  isNumber : token.kind = .number
  noPoint : '.' ∉ token.lexeme.toList
  long : digitLimit < token.lexeme.length

/-- A numeral cannot be read exactly if it has no point and too many digits. -/
theorem Numeral.number?_eq_none_iff
    {lexeme : String}
    (numeral : Run.Numeral lexeme.toList) :
    number? lexeme = none ↔
      '.' ∉ lexeme.toList ∧ digitLimit < lexeme.length := by
  rcases numeral.decimals_or_point with
    decimals | ⟨whole, fraction, shape, decimals, fractionDecimals, nonempty⟩
  · have noPoint : '.' ∉ lexeme.toList := fun isPoint => by
      cases decimals '.' isPoint
    obtain ⟨digits, spells⟩ := exists_spells decimals
    rw [number?_of_spells numeral spells noPoint]
    simp [noPoint]
  · have hasPoint : '.' ∈ lexeme.toList := by simp [shape]
    have allDecimals : Run.Decimals (whole ++ fraction) := fun character member =>
      (List.mem_append.1 member).elim (decimals character)
        (fractionDecimals character)
    obtain ⟨digits, spells⟩ := exists_spells allDecimals
    rw [number?_of_point shape decimals fractionDecimals nonempty numeral spells]
    simp [hasPoint]

variable {source : String}
variable {tokens : List Token}

/-- A token of a source that is read as a number and cannot be is too long. -/
theorem Token.isTooLong_of_unread
    (tokenized : tokenize source = .ok tokens)
    {token : Token}
    (member : token ∈ tokens)
    (slot : (SlotKey.ofToken token).slot = TokenKind.number.name)
    (unread : Numeral.number? token.lexeme = none) :
    token.IsTooLong := by
  have isNumber :=
    Grammar.isNumber_of_slot (namesNoKind_of_tokenize tokenized member) slot
  have numeral := Run.numeral_of_mem_tokens tokenized member isNumber
  obtain ⟨noPoint, long⟩ := (Numeral.number?_eq_none_iff numeral).1 unread
  exact ⟨isNumber, noPoint, long⟩

/-- The calculator calls a number malformed only if it has a token that it cannot read. -/
theorem Exit.OfCalculator.exists_unread
    {exit : Exit}
    (raised : exit.OfCalculator tokens)
    {failure : Failure}
    (isFailure : exit = .failure failure)
    (isMalformed : failure.kind = .malformedNumber) :
    ∃ token ∈ tokens,
      (SlotKey.ofToken token).slot = TokenKind.number.name ∧
        Numeral.number? token.lexeme = none ∧
        failure = ⟨.malformedNumber token.lexeme, some token.position⟩ := by
  cases raised with
  | fault => cases isFailure
  | unexpectedStart | unexpectedToken | missingOperand | undefinedVariable =>
      cases isFailure
      cases isMalformed
  | unbalanced isUnbalanced =>
      cases isFailure
      cases isUnbalanced.symm.trans isMalformed
  | call _ raised =>
      cases raised with
      | undefinedFunction | argumentMismatch | callUndefined =>
          cases isFailure
          cases isMalformed
      | fault => cases isFailure
  | operation member raised =>
      cases raised with
      | operation raised =>
          cases raised with
          | domain isDomain =>
              cases isFailure
              cases isDomain.symm.trans isMalformed
          | unwritable => cases isFailure
      | malformed slot unread =>
          cases isFailure
          exact ⟨_, member, slot, unread, rfl⟩

/-- An evaluation of tokens calls a number malformed only if it is one that is too long. -/
theorem Expression.exists_tooLong_of_malformed
    {environment : Environment}
    {levels : Nat}
    (tokenized : tokenize source = .ok tokens)
    {failure : Failure}
    (failed :
      (reportOfTokens Grammar.frozenStandard environment levels tokens).outcome =
        .failed failure)
    (isMalformed : failure.kind = .malformedNumber) :
    ∃ token ∈ tokens,
      token.IsTooLong ∧
        failure = ⟨.malformedNumber token.lexeme, some token.position⟩ := by
  obtain ⟨after, ran⟩ :=
    exists_run_of_failed failed (by rw [isMalformed]; decide)
  obtain ⟨token, member, slot, unread, isFailure⟩ :=
    (ofCalculator_of_run_complete ran).exists_unread rfl isMalformed
  exact
    ⟨token, member, Token.isTooLong_of_unread tokenized member slot unread, isFailure⟩

/-- A source that is a numeral which cannot be read fails for it. -/
theorem Expression.outcome_of_unread
    {lexeme : String}
    (numeral : Run.Numeral lexeme.toList)
    (unread : Numeral.number? lexeme = none)
    (environment : Environment) :
    (evaluate Grammar.frozenStandard environment lexeme).outcome =
      .failed ⟨.malformedNumber lexeme, some 0⟩ := by
  let token : Token := ⟨.number, lexeme, 0⟩
  let progress := Progress.start [token]
  have tokenized : tokenize lexeme = .ok [token] := tokenize_of_numeral numeral
  have next : progress.stream.peek? = some token := rfl
  have isLiteral :
      Grammar.frozenStandard.opening? token = some (.literal Arithmetic.number) :=
    rfl
  have refused :
      Arithmetic.number lexeme = .error (.unplaced (.malformedNumber lexeme)) := by
    rw [Arithmetic.number, unread]
  have ran :
      (complete ⟨Grammar.frozenStandard, environment⟩ nestingLimit).run progress =
        .error (.placed (.malformedNumber lexeme) 0) (progress.skip 1) := by
    rw [complete, EStateM.run_bind, nestingLimit,
      Evaluator.run_evaluate_of_opening _ _ _ next isLiteral, EStateM.run_bind,
      Evaluator.openWith, refused]
    rfl
  rw [evaluate, evaluateWithin_of_tokenized tokenized, reportOfTokens]
  dsimp only
  rw [ran]
  rfl

end Reckoner
