import Mathlib.Data.List.TakeDrop
import Mathlib.Data.Nat.Digits.Defs
import Reckoner.Number.Arithmetic
import Reckoner.Proofs.Token.Identifier
import Reckoner.Proofs.Token.Numeral

namespace Reckoner

/-!
# The numbers of numerals

Three readers meet at a numeral. The scanner gathers digits of every sort and points, the
form of a numeral admits the decimals among them, and reading a number trims white space,
drops underscores, splits off a sign and looks up the value of each decimal. The last one
never gets to see anything but decimals and a point, so all that it would forgive does not
occur, and its only way to refuse is the limit on the digits of an integer.
-/

namespace Text

/-- A decimal is one of the ten characters that start with the zero of a script. -/
theorem exists_zero_of_isDecimal
    {character : Char}
    (decimal : isDecimal character = true) :
    ∃ start ∈ '0'.toNat :: decimalZeros,
      start ≤ character.toNat ∧ character.toNat ≤ start + 9 := by
  unfold isDecimal decimalValue? at decimal
  split at decimal
  case isTrue =>
    have isAsciiDigit : character.isDigit = true := by
      by_contra noDigit
      simp [noDigit] at decimal
    have inside : 48 ≤ character.toNat ∧ character.toNat ≤ 57 := by
      simpa [Char.isDigit, UInt32.le_iff_toNat_le] using isAsciiDigit
    exact ⟨'0'.toNat, List.mem_cons_self, inside.1, inside.2⟩
  case isFalse =>
    rw [Option.isSome_map, List.find?_isSome] at decimal
    obtain ⟨start, isZero, inside⟩ := decimal
    simp only [Bool.and_eq_true, decide_eq_true_eq] at inside
    exact ⟨start, List.mem_cons_of_mem _ isZero, inside⟩

/-- No decimal is white space. -/
theorem isWhiteSpace_of_isDecimal
    {character : Char}
    (decimal : isDecimal character = true) :
    isWhiteSpace character = false := by
  have apart :
      ∀ start ∈ '0'.toNat :: decimalZeros,
        ∀ range ∈ whiteSpaceRanges,
          start + 9 < range.first ∨ range.last < start := by
    decide
  obtain ⟨start, isZero, atLeast, atMost⟩ := exists_zero_of_isDecimal decimal
  rw [← Bool.not_eq_true]
  intro white
  obtain ⟨range, isRange, first, last⟩ := CodeRange.covers_eq_true_iff.1 white
  rcases apart start isZero range isRange with below | above
  · omega
  · omega

end Text

namespace Run

/-- A character of a numeral: a decimal or the point. -/
def IsPlain
    (character : Char) :
    Prop :=
  Text.isDecimal character = true ∨ character = '.'

/-- A numeral is decimals, or decimals on some side of a point. -/
theorem Numeral.decimals_or_point
    {text : List Char}
    (numeral : Numeral text) :
    Decimals text ∨
      ∃ digits fraction,
        text = digits ++ '.' :: fraction ∧
          Decimals digits ∧
          Decimals fraction ∧
          digits ++ fraction ≠ [] := by
  have noDigits : Decimals [] := fun _ impossible => nomatch impossible
  cases numeral with
  | whole decimals _ => exact .inl decimals
  | pointed decimals nonempty =>
      exact .inr ⟨_, [], rfl, decimals, noDigits, by simpa using nonempty⟩
  | mixed decimals nonempty fractionDecimals _ =>
      exact .inr ⟨_, _, rfl, decimals, fractionDecimals, by simp [nonempty]⟩
  | fraction decimals nonempty =>
      exact .inr ⟨[], _, rfl, noDigits, decimals, nonempty⟩

/-- There are only decimals and points in a numeral. -/
theorem Numeral.isPlain
    {text : List Char}
    (numeral : Numeral text) :
    ∀ character ∈ text, IsPlain character := by
  intro character member
  rcases numeral.decimals_or_point with
    decimals | ⟨digits, fraction, rfl, decimals, fractionDecimals, _⟩
  · exact .inl (decimals character member)
  · rcases List.mem_append.1 member with before | behind
    · exact .inl (decimals character before)
    · rcases List.mem_cons.1 behind with isPoint | after
      · exact .inr isPoint
      · exact .inl (fractionDecimals character after)

/-- A numeral is written with something. -/
theorem Numeral.ne_nil
    {text : List Char}
    (numeral : Numeral text) :
    text ≠ [] := by
  cases numeral with
  | whole _ nonempty => exact nonempty
  | pointed _ _ => simp
  | mixed _ _ _ _ => simp
  | fraction _ _ => simp

/-- What stands in a numeral is no white space. -/
theorem IsPlain.isWhiteSpace
    {character : Char}
    (plain : IsPlain character) :
    Text.isWhiteSpace character = false := by
  rcases plain with decimal | rfl
  · exact Text.isWhiteSpace_of_isDecimal decimal
  · decide

/-- What stands in a numeral is of the class that numeric runs are made of. -/
theorem IsPlain.of_eq_numeric
    {character : Char}
    (plain : IsPlain character) :
    CharacterClass.of character = .numeric := by
  rcases plain with decimal | rfl
  · have visible : ¬character ≤ ' ' := by
      have late : ∀ start ∈ '0'.toNat :: Text.decimalZeros, ' '.toNat < start := by
        decide
      obtain ⟨start, isZero, atLeast, _⟩ := Text.exists_zero_of_isDecimal decimal
      exact Nat.not_le.2 (Nat.lt_of_lt_of_le (late start isZero) atLeast)
    simp [CharacterClass.of, visible, Text.isDigit_of_isDecimal decimal]
  · decide

/-- What stands in a numeral is none of the marks that a reader would drop. -/
theorem IsPlain.ne_mark
    {character : Char}
    (plain : IsPlain character) :
    character ∉ ['_', '-', '+'] := by
  intro isMark
  rcases plain with decimal | rfl
  · have noDecimal :
        ['_', '-', '+'].all (fun mark => !Text.isDecimal mark) = true := by
      decide
    have notDecimal := List.all_eq_true.1 noDecimal character isMark
    rw [decimal] at notDecimal
    cases notDecimal
  · revert isMark
    decide

end Run

namespace Numeral

/-- The characters are decimals with these values. -/
def Spells
    (characters : List Char)
    (digits : List Nat) :
    Prop :=
  characters.map Text.decimalValue? = digits.map some

/-- The number that digits of base ten stand for, the most significant one first. -/
theorem ofDigits_eq
    (digits : List Nat) :
    ofDigits digits = Nat.ofDigits 10 digits.reverse := by
  rw [Nat.ofDigits_eq_foldr, List.foldr_reverse, ofDigits]
  congr 1
  funext value digit
  exact Nat.add_comm _ _

/-- Decimals spell digits. -/
theorem exists_spells
    {characters : List Char}
    (decimals : Run.Decimals characters) :
    ∃ digits, Spells characters digits := by
  induction characters with
  | nil => exact ⟨[], rfl⟩
  | cons character rest inductionHypothesis =>
      obtain ⟨first, isFirst⟩ :=
        Option.isSome_iff_exists.1 (decimals character List.mem_cons_self)
      obtain ⟨digits, spells⟩ :=
        inductionHypothesis fun other member =>
          decimals other (List.mem_cons_of_mem character member)
      refine ⟨first :: digits, ?_⟩
      rw [Spells, List.map_cons, List.map_cons, isFirst, spells]

/-- As many digits are spelled as there are characters. -/
theorem Spells.length_eq
    {characters : List Char}
    {digits : List Nat}
    (spells : Spells characters digits) :
    characters.length = digits.length := by
  simpa using congrArg List.length spells

/-- The digits that are spelled are the values that are looked up. -/
theorem Spells.mapM_eq
    {characters : List Char}
    {digits : List Nat}
    (spells : Spells characters digits) :
    characters.mapM Text.decimalValue? = some digits := by
  induction characters generalizing digits with
  | nil =>
      cases digits with
      | nil => rfl
      | cons _ _ => cases spells
  | cons character rest inductionHypothesis =>
      cases digits with
      | nil => cases spells
      | cons first others =>
          obtain ⟨isFirst, spellsOthers⟩ := List.cons.inj spells
          rw [List.mapM_cons, isFirst, inductionHypothesis spellsOthers]
          rfl

/-- The values of the characters are the digits that they spell, if there are some. -/
theorem Spells.digitValues?_eq
    {characters : List Char}
    {digits : List Nat}
    (spells : Spells characters digits)
    (nonempty : characters ≠ []) :
    digitValues? characters = some digits := by
  rw [digitValues?, if_neg nonempty, spells.mapM_eq]

/-- Without underscores there are none to remove. -/
theorem withoutUnderscores?_eq
    {characters : List Char}
    (absent : '_' ∉ characters)
    (afterDecimal : Bool) :
    withoutUnderscores? afterDecimal characters = some characters := by
  induction characters generalizing afterDecimal with
  | nil => rfl
  | cons character rest inductionHypothesis =>
      have isOther : character ≠ '_' :=
        fun same => absent (same ▸ List.mem_cons_self)
      have restAbsent : '_' ∉ rest :=
        fun member => absent (List.mem_cons_of_mem character member)
      rw [withoutUnderscores?.eq_3 _ _ _ isOther,
        inductionHypothesis restAbsent]
      rfl

/-- Without a sign there is none to split off. -/
theorem splitSign_eq
    {characters : List Char}
    (noMinus : '-' ∉ characters)
    (noPlus : '+' ∉ characters) :
    splitSign characters = (false, characters) := by
  unfold splitSign
  split
  case h_1 => simp at noMinus
  case h_2 => simp at noPlus
  case h_3 => rfl

/-- Reading a numeral finds it bare. -/
theorem bare?_eq
    {lexeme : String}
    (numeral : Run.Numeral lexeme.toList) :
    bare? lexeme = some lexeme.toList := by
  have plain := numeral.isPlain
  have trimmed :
      Text.trimBoth Text.isWhiteSpace lexeme.toList = lexeme.toList := by
    have surrounded :
        Text.trimBoth Text.isWhiteSpace ([] ++ lexeme.toList ++ []) =
          lexeme.toList :=
      Text.trimBoth_surrounded
        (fun _ impossible => nomatch impossible)
        (fun character member => (plain character member).isWhiteSpace)
        numeral.ne_nil
        (fun _ impossible => nomatch impossible)
    simpa using surrounded
  rw [bare?, trimmed]
  exact
    withoutUnderscores?_eq
      (fun member => (plain '_' member).ne_mark (by decide)) false

/-- Reading a numeral finds no sign. -/
theorem splitSign_numeral
    {text : List Char}
    (numeral : Run.Numeral text) :
    splitSign text = (false, text) :=
  splitSign_eq
    (fun member => (numeral.isPlain '-' member).ne_mark (by decide))
    (fun member => (numeral.isPlain '+' member).ne_mark (by decide))

/-- A numeral without a point denotes an integer unless it has too many digits. -/
theorem number?_of_spells
    {lexeme : String}
    (numeral : Run.Numeral lexeme.toList)
    {digits : List Nat}
    (spells : Spells lexeme.toList digits)
    (noPoint : '.' ∉ lexeme.toList) :
    number? lexeme =
      if lexeme.length ≤ digitLimit then
        some (.int (Nat.ofDigits 10 digits.reverse : Nat))
      else
        none := by
  have sameLength : digits.length = lexeme.length := by
    rw [← spells.length_eq, String.length_toList]
  rw [number?, if_neg noPoint, integer?, bare?_eq numeral, Option.bind_some,
    bareInteger?, splitSign_numeral numeral]
  simp only [spells.digitValues?_eq numeral.ne_nil, Option.bind_some, sameLength,
    ofDigits_eq]
  split
  · rfl
  · rfl

/-- A numeral with a point denotes the double nearest to what it says. -/
theorem number?_of_point
    {lexeme : String}
    {whole fraction : List Char}
    (shape : lexeme.toList = whole ++ '.' :: fraction)
    (decimals : Run.Decimals whole)
    (fractionDecimals : Run.Decimals fraction)
    (nonempty : whole ++ fraction ≠ [])
    (numeral : Run.Numeral lexeme.toList)
    {digits : List Nat}
    (spells : Spells (whole ++ fraction) digits) :
    number? lexeme =
      some (.float
        (Binary64.ofDecimal false (Nat.ofDigits 10 digits.reverse)
          (-fraction.length))) := by
  have hasPoint : '.' ∈ lexeme.toList := by simp [shape]
  have wholeSpan :=
    Run.span_decimals decimals
      (show ('.' :: fraction).head?.all (· = '.') = true from rfl)
  have fractionSpan :=
    Run.span_decimals fractionDecimals (show [].head?.all _ = true from rfl)
  rw [List.append_nil] at fractionSpan
  rw [number?, if_pos hasPoint, float?, bare?_eq numeral, Option.bind_some,
    bareFloat?, splitSign_numeral numeral, shape]
  simp only [List.span_eq_takeWhile_dropWhile, wholeSpan, splitFraction,
    fractionSpan, spells.digitValues?_eq nonempty, exponent?, ofDigits_eq,
    Option.bind_some, Option.map_some, Int.zero_sub]

end Numeral

/-- A numeral is read as one token. -/
theorem tokenize_of_numeral
    {lexeme : String}
    (numeral : Run.Numeral lexeme.toList) :
    tokenize lexeme = .ok [⟨.number, lexeme, 0⟩] := by
  have alone : Run.IsCut lexeme.toList [⟨.numeric, lexeme.toList⟩] := {
    covers := by simp
    nonempty := by simpa using numeral.ne_nil
    ofKind := by
      simpa using fun character member =>
        (numeral.isPlain character member).of_eq_numeric
    single := by simp
    longest := .singleton _
  }
  rw [tokenize_eq_tokensFrom, ← alone.eq_runs, Run.tokensFrom, Run.token?,
    (Run.isNumeral_iff _).2 numeral, String.ofList_toList]
  rfl

/-- A word is no number. -/
theorem Run.wordKind_ne_number
    (text : List Char) :
    wordKind text ≠ .number := by
  unfold wordKind
  split
  · simp
  · split
    · simp
    · simp

/-- The token of a numeral is written as one. -/
theorem Run.numeral_of_mem_tokens
    {source : String}
    {tokens : List Token}
    (tokenized : tokenize source = .ok tokens)
    {token : Token}
    (member : token ∈ tokens)
    (isNumber : token.kind = .number) :
    Numeral token.lexeme.toList := by
  rw [tokenize_eq_tokensFrom] at tokenized
  obtain ⟨run, _, start, read⟩ :=
    exists_of_mem_tokensFrom tokenized member
  rw [lexeme_of_token? read, String.toList_ofList, ← isNumeral_iff]
  unfold token? at read
  split at read
  case h_1 => cases read
  case h_2 =>
    cases read
    cases isNumber
  case h_3 =>
    cases read
    exact absurd isNumber (wordKind_ne_number run.text)
  case h_4 =>
    split at read
    case isTrue recognized => exact recognized
    case isFalse => cases read

/--
The number of every numeral of a source.

Without a point it is the integer that its decimals spell in base ten, and only one with
more than `digitLimit` decimals is refused. With a point it is a double.
-/
theorem number_of_mem_tokens
    {source : String}
    {tokens : List Token}
    (tokenized : tokenize source = .ok tokens)
    {token : Token}
    (member : token ∈ tokens)
    (isNumber : token.kind = .number) :
    ('.' ∉ token.lexeme.toList →
      ∃ digits,
        Numeral.Spells token.lexeme.toList digits ∧
          Arithmetic.number token.lexeme =
            if token.lexeme.length ≤ digitLimit then
              .ok (.int (Nat.ofDigits 10 digits.reverse : Nat))
            else
              .error (.unplaced (.malformedNumber token.lexeme))) ∧
      ('.' ∈ token.lexeme.toList →
        ∃ whole fraction digits,
          token.lexeme.toList = whole ++ '.' :: fraction ∧
            Numeral.Spells (whole ++ fraction) digits ∧
            Arithmetic.number token.lexeme =
              .ok (.float
                (Binary64.ofDecimal false (Nat.ofDigits 10 digits.reverse)
                  (-fraction.length)))) := by
  have numeral := Run.numeral_of_mem_tokens tokenized member isNumber
  rcases numeral.decimals_or_point with
    decimals | ⟨whole, fraction, shape, decimals, fractionDecimals, nonempty⟩
  · have noPoint : '.' ∉ token.lexeme.toList := fun isPoint => by
      cases decimals '.' isPoint
    refine ⟨fun _ => ?_, fun hasPoint => absurd hasPoint noPoint⟩
    obtain ⟨digits, spells⟩ := Numeral.exists_spells decimals
    refine ⟨digits, spells, ?_⟩
    rw [Arithmetic.number, Numeral.number?_of_spells numeral spells noPoint]
    by_cases few : token.lexeme.length ≤ digitLimit
    · rw [if_pos few, if_pos few]
    · rw [if_neg few, if_neg few]
  · have hasPoint : '.' ∈ token.lexeme.toList := by simp [shape]
    refine ⟨fun noPoint => absurd hasPoint noPoint, fun _ => ?_⟩
    have allDecimals : Run.Decimals (whole ++ fraction) := by
      intro character member
      rcases List.mem_append.1 member with before | after
      · exact decimals character before
      · exact fractionDecimals character after
    obtain ⟨digits, spells⟩ := Numeral.exists_spells allDecimals
    refine ⟨whole, fraction, digits, shape, spells, ?_⟩
    rw [Arithmetic.number,
      Numeral.number?_of_point shape decimals fractionDecimals nonempty numeral
        spells]

/-- An Arabic three and an ASCII four, next to a fraction without a whole part. -/
theorem number_of_mem_tokens_mixedScripts :
    tokenize "٣4*.5" =
        .ok [⟨.number, "٣4", 0⟩, ⟨.symbol, "*", 2⟩, ⟨.number, ".5", 3⟩] ∧
      Arithmetic.number "٣4" = .ok (.int 34) ∧
      ∃ x, Arithmetic.number ".5" = .ok (.float x) := by
  have tokenized :
      tokenize "٣4*.5" =
        .ok [⟨.number, "٣4", 0⟩, ⟨.symbol, "*", 2⟩, ⟨.number, ".5", 3⟩] := by
    decide +kernel
  refine ⟨tokenized, ?_, ?_⟩
  · obtain ⟨digits, spells, read⟩ :=
      (number_of_mem_tokens tokenized List.mem_cons_self rfl).1 (by decide)
    have isThirtyFour : digits = [3, 4] :=
      List.map_injective_iff.2 (Option.some_injective Nat) spells.symm
    rw [isThirtyFour] at read
    exact read
  · obtain ⟨_, _, _, _, _, read⟩ :=
      (number_of_mem_tokens tokenized (List.mem_of_getElem? (i := 2) rfl) rfl).2
        (by decide)
    exact ⟨_, read⟩

end Reckoner
