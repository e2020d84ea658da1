import Reckoner.Number.Order
import Reckoner.Proofs.Evaluation.Layout
import Reckoner.Proofs.Number.Power
import Reckoner.Proofs.Number.Reading
import Reckoner.Proofs.Syntax.Sentence

namespace Reckoner

/-!
# What is displayed as an integer reads back

Integers that can be written and whole doubles of moderate size are displayed by their
digits. As a source these digits are one numeral, after a minus sign for a negative number,
and they denote the integer that was displayed. The limit on the digits of a numeral is the
one on the digits of a text, so nothing that is displayed is too long to be read.
-/

namespace Numeral

/-- An ASCII digit has the value that its code says. -/
theorem decimalValue?_of_isDigit
    {character : Char}
    (isDigit : character.isDigit = true) :
    Text.decimalValue? character =
      some (character.toNat - '0'.toNat) := by
  have isAscii : character.toNat < 128 := by
    have inside : 48 ≤ character.toNat ∧ character.toNat ≤ 57 := by
      simpa [Char.isDigit, UInt32.le_iff_toNat_le] using isDigit
    omega
  rw [Text.decimalValue?, if_pos isAscii, if_pos isDigit]

/-- The values of the digits that a natural number is written with. -/
def writtenDigits
    (n : Nat) :
    List Nat :=
  n.repr.toList.map fun character => character.toNat - '0'.toNat

/-- A natural number is written with its digits. -/
theorem spells_repr
    (n : Nat) :
    Spells n.repr.toList (writtenDigits n) := by
  rw [Spells, writtenDigits, List.map_map, Nat.toList_repr]
  exact
    List.map_congr_left fun character member =>
      decimalValue?_of_isDigit
        (Nat.isDigit_of_mem_toDigits (by decide) (by decide) member)

/-- The digits that a natural number is written with stand for the number. -/
theorem ofDigits_writtenDigits
    (n : Nat) :
    ofDigits (writtenDigits n) = n := by
  rw [ofDigits, writtenDigits, List.foldl_map, Nat.toList_repr]
  exact Nat.ofDigitChars_ten_toDigits

/-- A natural number is written as a numeral. -/
theorem numeral_repr
    (n : Nat) :
    Run.Numeral n.repr.toList := by
  refine .whole (fun character member => ?_) (by simp)
  rw [Nat.toList_repr] at member
  rw [Text.isDecimal,
    decimalValue?_of_isDigit
      (Nat.isDigit_of_mem_toDigits (by decide) (by decide) member)]
  rfl

/-- A natural number that can be written is read from its text. -/
theorem number_repr
    {n : Nat}
    (few : n < 10 ^ digitLimit) :
    Arithmetic.number n.repr = .ok (.int n) := by
  have noPoint : '.' ∉ n.repr.toList := by
    rw [Nat.toList_repr]
    intro isPoint
    cases Nat.isDigit_of_mem_toDigits (by decide) (by decide) isPoint
  have within : n.repr.length ≤ digitLimit :=
    (Nat.length_repr_le_iff (by decide)).2 few
  rw [Arithmetic.number,
    number?_of_spells (numeral_repr n) (spells_repr n) noPoint, if_pos within,
    ← ofDigits_eq, ofDigits_writtenDigits]

end Numeral

namespace Tree

/-- An integer as it is written: digits, with a minus sign for a negative number. -/
def ofInt
    (n : Int) :
    Tree :=
  if 0 ≤ n then
    .literal ⟨.number, n.toNat.repr, 0⟩ Arithmetic.number
  else
    .before ⟨.symbol, "-", 0⟩ Arithmetic.negate .beforeOperand
      (.literal ⟨.number, (-n).toNat.repr, 1⟩ Arithmetic.number)

/-- The text of an integer is read as its tree. -/
theorem tokenize_repr
    (n : Int) :
    tokenize n.repr = .ok (ofInt n).tokens := by
  rw [Int.repr_eq_if, ofInt]
  split
  case isTrue =>
    exact tokenize_of_numeral (Numeral.numeral_repr n.toNat)
  case isFalse =>
    have isSymbol : '-' ∈ CharacterClass.symbols := by decide
    have digits := tokenize_of_numeral (Numeral.numeral_repr (-n).toNat)
    have joined := tokenize_append_symbol "" (-n).toNat.repr isSymbol
    rw [joinedTokens, digits] at joined
    exact joined

/-- The tree of an integer consists of a numeral and perhaps a minus sign. -/
theorem over_ofInt
    (n : Int) :
    (ofInt n).Over Grammar.frozenStandard := by
  unfold ofInt
  split
  case isTrue => exact Grammar.opening?_of_isNumber rfl
  case isFalse =>
    exact ⟨Grammar.opening?_of_isMinus rfl, Grammar.opening?_of_isNumber rfl⟩

/-- The tree of an integer has no operator that could go to another operand. -/
theorem shaped_ofInt
    (n : Int) :
    (ofInt n).Shaped := by
  unfold ofInt
  split
  case isTrue => trivial
  case isFalse => exact ⟨trivial, trivial⟩

/-- The tree of an integer takes no more than two levels. -/
theorem levels_ofInt_le
    (n : Int) :
    (ofInt n).levels ≤ 2 := by
  unfold ofInt
  split
  case isTrue => exact Nat.le_succ 1
  case isFalse => exact Nat.le_refl 2

/-- The tree of an integer that can be written has the integer as its value. -/
theorem result_ofInt
    {n : Int}
    (few : n.natAbs < 10 ^ digitLimit)
    (environment : Environment) :
    (ofInt n).result environment = (.value (some (.int n)), environment) := by
  unfold ofInt
  split
  case isTrue nonnegative =>
    have isSize : n.toNat = n.natAbs := by omega
    have read := Numeral.number_repr few
    rw [← isSize, Int.toNat_of_nonneg nonnegative] at read
    simp only [result, evaluate, read]
    rfl
  case isFalse negative =>
    have isSize : (-n).toNat = n.natAbs := by omega
    have read := Numeral.number_repr few
    rw [← isSize, Int.toNat_of_nonneg (by omega)] at read
    have opposite : Arithmetic.negate (.int (-n)) = .ok (.int n) := by
      rw [Arithmetic.negate, Int.neg_neg]
    simp only [result, evaluate, read, Meaning.ofOperation, pure_bind, opposite]
    rfl

end Tree

/-- The text of an integer that can be written has the integer as its value. -/
theorem Expression.result_evaluate_repr
    {n : Int}
    (few : n.natAbs < 10 ^ digitLimit)
    (environment : Environment) :
    (evaluate Grammar.frozenStandard environment n.repr).result =
      (.value (some (.int n)), environment) := by
  have enough : (Tree.ofInt n).levels ≤ nestingLimit :=
    (Tree.levels_ofInt_le n).trans (by decide)
  have result :=
    Tree.result_evaluateWithin Grammar.regular_frozenStandard
      (Tree.over_ofInt n) (Tree.shaped_ofInt n) environment enough
      (Tree.tokenize_repr n)
  exact result.trans (Tree.result_ofInt few environment)

namespace Number

/-- An integer that can be written, or a whole double of moderate size. -/
def IsPlain : Number → Prop
  | .int n => n.natAbs < 10 ^ digitLimit
  | .float x => ∃ n, Binary64.HasValue x n ∧ n.natAbs < 10 ^ 16

/-- An integer that can be written is displayed by its digits. -/
theorem display?_int
    {n : Int}
    (few : n.natAbs < 10 ^ digitLimit) :
    (Number.int n).display? = some n.repr := by
  obtain ⟨text, shown⟩ := (writable_iff_exists_text (.int n)).1 few
  rw [display?.eq_1, shown]
  rw [text?.eq_1] at shown
  split at shown
  case isTrue => rw [← shown, Int.toString_eq_repr]
  case isFalse => cases shown

/-- Such a number equals an integer and is displayed by its digits. -/
theorem IsPlain.exists_integer
    {number : Number}
    (plain : number.IsPlain) :
    ∃ n : Int,
      n.natAbs < 10 ^ digitLimit ∧
        (Number.int n).place? = number.place? ∧
        number.display? = some n.repr := by
  have moderate : 10 ^ 16 < 10 ^ digitLimit :=
    Nat.pow_lt_pow_right (by decide) (by decide)
  cases number with
  | int n => exact ⟨n, plain, rfl, display?_int plain⟩
  | float x =>
      obtain ⟨n, hasValue, small⟩ := plain
      have few : n.natAbs < 10 ^ digitLimit :=
        Nat.lt_trans small moderate
      have notNaN : Binary64.isNaN x = false :=
        (Binary64.neither_of_isFinite hasValue.finite).1
      have isShown : plainInteger? x = some n := by
        have within :
            Binary64.units x < plainLimit * Binary64.unitsPerOne := by
          rw [hasValue.units_eq]
          exact Nat.mul_lt_mul_of_pos_right small Binary64.unitsPerOne_pos
        rw [plainInteger?, if_pos ⟨hasValue.isWhole, within⟩,
          hasValue.floor_eq]
      refine ⟨n, few, ?_, ?_⟩
      · simp only [place?.eq_2, notNaN, hasValue.finite,
          hasValue.signedUnits_eq]
        rfl
      · have sameText :
            (Number.float x).display? = (Number.int n).display? := by
          rw [display?.eq_2, isShown, display?.eq_1]
        rw [sameText, display?_int few]

/-- Different integers are at different places. -/
theorem place?_int_inj
    {m n : Int} :
    (Number.int m).place? = (Number.int n).place? ↔ m = n := by
  constructor
  · intro same
    have units : m * Binary64.unitsPerOne = n * Binary64.unitsPerOne :=
      Place.at.inj (Option.some.inj same)
    exact
      Int.eq_of_mul_eq_mul_right
        (Int.natCast_ne_zero.2 Binary64.unitsPerOne_pos.ne') units
  · exact congrArg fun n => (Number.int n).place?

end Number

/--
What is displayed as an integer reads back, in every environment and without a change to it.
The value is the integer that the number equals, and it is displayed by the same text. So
two numbers are displayed by the same text exactly if they are equal.
-/
theorem Expression.evaluate_display
    {number : Number}
    (plain : number.IsPlain)
    (environment : Environment) :
    ∃ n text,
      number.display? = some text ∧
        (Number.int n).place? = number.place? ∧
        (let report := evaluate Grammar.frozenStandard environment text
        report.outcome = .value (some (.int n)) ∧
          report.environment = environment) ∧
        (Number.int n).display? = some text ∧
        ∀ other : Number,
          other.IsPlain →
          (other.display? = some text ↔ other.place? = number.place?) := by
  obtain ⟨n, few, place, display⟩ := plain.exists_integer
  have evaluated :=
    Report.eq_of_result (result_evaluate_repr few environment)
  refine ⟨n, n.repr, display, place, evaluated, Number.display?_int few, ?_⟩
  · intro other otherPlain
    obtain ⟨m, otherFew, otherPlace, otherDisplay⟩ := otherPlain.exists_integer
    rw [otherDisplay, ← otherPlace, ← place, Number.place?_int_inj]
    constructor
    · intro sameText
      -- One text has one value.
      have otherEvaluated :=
        Report.eq_of_result (result_evaluate_repr otherFew environment)
      rw [Option.some.inj sameText, evaluated.1] at otherEvaluated
      cases otherEvaluated.1
      rfl
    · rintro rfl
      rfl

/-- The double minus three is displayed as `-3`, whose value is the integer. -/
theorem Expression.evaluate_display_wholeDouble :
    let minusThree : Number := .float (Float.ofBits 0xc008000000000000)
    minusThree.IsPlain ∧
      minusThree.display? = some "-3" ∧
      (evaluate Grammar.frozenStandard Environment.empty "-3").outcome =
        .value (some (.int (-3))) := by
  intro minusThree
  have hasValue : Binary64.HasValue (Float.ofBits 0xc008000000000000) (-3) := {
    finite := by decide +kernel
    signedUnits_eq := by decide +kernel
  }
  have plain : minusThree.IsPlain := ⟨-3, hasValue, by decide⟩
  have shown : minusThree.display? = some "-3" := by decide +kernel
  have samePlace : (Number.int (-3)).place? = minusThree.place? := by
    decide +kernel
  obtain ⟨n, text, display, place, evaluated, _⟩ :=
    evaluate_display plain Environment.empty
  have isText : "-3" = text := Option.some.inj (shown.symm.trans display)
  have isInteger : n = -3 :=
    Number.place?_int_inj.1 (place.trans samePlace.symm)
  subst isText isInteger
  exact ⟨plain, shown, evaluated.1⟩

end Reckoner
