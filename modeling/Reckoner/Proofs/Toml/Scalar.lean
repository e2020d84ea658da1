import Reckoner.Proofs.Toml.Reading
import Reckoner.Toml.Scalar

namespace Reckoner.Toml

/-!
# What numbers and moments leave over

The only number that cannot be read although it is written well is a decimal integer
with too many digits, and these digits stand side by side in the text.
-/

/-- What follows an optional result may use what is known of it. -/
theorem forall_mem_bind
    {α β : Type}
    {first : Option α}
    {following : α → Option β}
    {known : α → Prop}
    {next : β → Prop}
    (isKnown : ∀ given ∈ first, known given)
    (follows :
      ∀ given,
        known given →
        ∀ result ∈ following given, next result) :
    ∀ result ∈ first.bind following, next result := by
  intro result made
  obtain ⟨given, isFirst, isNext⟩ := Option.bind_eq_some_iff.1 made
  exact follows given (isKnown given isFirst) result isNext

/-- What follows an optional result may use nothing of it. -/
theorem forall_mem_bind_of_forall
    {α β : Type}
    {first : Option α}
    {following : α → Option β}
    {next : β → Prop}
    (follows : ∀ given, ∀ result ∈ following given, next result) :
    ∀ result ∈ first.bind following, next result :=
  have isAny : ∀ given ∈ first, True := fun _ _ => trivial
  forall_mem_bind isAny fun given _ => follows given

/-- A single result satisfies what it satisfies. -/
theorem forall_mem_some
    {α : Type}
    {result : α}
    {known : α → Prop}
    (isKnown : known result) :
    ∀ given ∈ some result, known given :=
  fun _ made => Option.some.inj made ▸ isKnown

/-- A result under a condition satisfies what it satisfies without. -/
theorem forall_mem_ite
    {α : Type}
    {condition : Prop}
    [Decidable condition]
    {results : Option α}
    {known : α → Prop}
    (areKnown : ∀ given ∈ results, known given) :
    ∀ given ∈ if condition then results else none, known given := by
  split
  case isTrue => exact areKnown
  case isFalse => exact fun _ made => nomatch made

/-- A word leaves over an end of the text. -/
theorem dropWord?_suffix
    {word text : List Char} :
    ∀ rest ∈ dropWord? word text, rest <:+ text := by
  induction word generalizing text with
  | nil =>
      intro rest dropped
      cases dropped
      exact List.suffix_refl text
  | cons expected word inductionHypothesis =>
      intro rest dropped
      cases text with
      | nil => cases dropped
      | cons character text =>
          rw [Option.mem_def, dropWord?] at dropped
          split at dropped
          case isTrue =>
            exact
              (inductionHypothesis rest dropped).trans
                (List.suffix_cons character text)
          case isFalse => cases dropped

/-- A sign leaves over an end of the text. -/
theorem splitSign_suffix
    (text : List Char) :
    (Numeral.splitSign text).2 <:+ text := by
  unfold Numeral.splitSign
  split
  case h_1 rest => exact List.suffix_cons '-' rest
  case h_2 rest => exact List.suffix_cons '+' rest
  case h_3 => exact List.suffix_refl text

/-- Whether a character is a digit in a base. -/
def isDigitIn
    (base : Nat)
    (character : Char) :
    Bool :=
  (digitValue? base character).isSome

/-- The digits in base ten are the digits of ASCII. -/
theorem isDigitIn_ten
    (character : Char) :
    isDigitIn 10 character = character.isDigit := by
  have digit_iff :
      character.isDigit = true ↔ '0' ≤ character ∧ character ≤ '9' := by
    simp [Char.isDigit, Char.le_def]
  unfold isDigitIn digitValue? hexValue?
  split
  case isTrue within =>
    have small : character.toNat - '0'.toNat < 10 := by
      have : character.toNat ≤ '9'.toNat := within.2
      have : '0'.toNat = 48 := rfl
      have : '9'.toNat = 57 := rfl
      omega
    simp only [digit_iff.2 within, Option.filter_some, decide_eq_true small]
    rfl
  case isFalse outside =>
    have letters (value : Nat) :
        (Option.filter (· < 10) (some (value + 10))).isSome = false := by
      simp
    have noDigit : character.isDigit = false :=
      Bool.eq_false_iff.2 fun isDigit => outside (digit_iff.1 isDigit)
    rw [noDigit]
    split
    case isTrue => exact letters _
    case isFalse =>
      split
      case isTrue => exact letters _
      case isFalse => rfl

/-- Digits are taken from the front of a text, where single underscores separate them. -/
theorem exists_run_of_digitGroup
    (base : Nat)
    (text : List Char) :
    ∃ run,
      run ++ (digitGroup base text).2 = text ∧
        (∀ character ∈ run,
          isDigitIn base character = true ∨ character = '_') ∧
        run.countP (isDigitIn base) = (digitGroup base text).1.length := by
  have underscore : isDigitIn base '_' = false := rfl
  have digitHere
      {character digit}
      (isDigit : digitValue? base character = some digit) :
      isDigitIn base character = true := by
    rw [isDigitIn, isDigit, Option.isSome_some]
  fun_induction digitGroup base text with
  | case1 => exact ⟨[], rfl, by simp, rfl⟩
  | case2 => exact ⟨[], rfl, by simp, rfl⟩
  -- A digit after an underscore, which is taken together with it.
  | case3 character rest digit isDigit digits following given inductionHypothesis =>
      rw [given] at inductionHypothesis
      obtain ⟨run, front, ofDigits, counted⟩ := inductionHypothesis
      refine ⟨'_' :: character :: run, ?_, ?_, ?_⟩
      · rw [List.cons_append, List.cons_append, front]
      · rintro read (_ | ⟨_, _ | ⟨_, inRun⟩⟩)
        · exact .inr rfl
        · exact .inl (digitHere isDigit)
        · exact ofDigits read inRun
      · simp [underscore, digitHere isDigit, counted]
  | case4 => exact ⟨[], rfl, by simp, rfl⟩
  | case5 character rest _ digit isDigit digits following given inductionHypothesis =>
      rw [given] at inductionHypothesis
      obtain ⟨run, front, ofDigits, counted⟩ := inductionHypothesis
      refine ⟨character :: run, ?_, ?_, ?_⟩
      · rw [List.cons_append, front]
      · rintro read (_ | ⟨_, inRun⟩)
        · exact .inl (digitHere isDigit)
        · exact ofDigits read inRun
      · simp [digitHere isDigit, counted]

/-- A run of digits leaves over an end of the text. -/
theorem digitGroup_suffix
    (base : Nat)
    (text : List Char) :
    (digitGroup base text).2 <:+ text :=
  let ⟨run, front, _⟩ := exists_run_of_digitGroup base text
  ⟨run, front⟩

/-- A run of decimal digits is in the text. -/
theorem hasDigits_of_digitGroup
    (text : List Char) :
    HasDigits (digitGroup 10 text).1.length text := by
  obtain ⟨run, front, ofDigits, counted⟩ := exists_run_of_digitGroup 10 text
  have decimal : isDigitIn 10 = Char.isDigit := funext isDigitIn_ten
  rw [decimal] at ofDigits counted
  exact ⟨run, ⟨[], (digitGroup 10 text).2, by simpa using front⟩, ofDigits, counted⟩

/-- The digits at the front of a text are the run of digits there. -/
theorem eq_digitGroup_of_mem_digits?
    {base : Nat}
    {text : List Char} :
    ∀ given ∈ digits? base text,
      given = digitGroup base text := by
  intro given isGiven
  rw [Option.mem_def] at isGiven
  unfold digits? at isGiven
  split at isGiven
  case h_1 => cases isGiven
  case h_2 =>
    dsimp only at isGiven
    split at isGiven
    case isTrue => cases isGiven
    case isFalse => exact (Option.some.inj isGiven).symm

/-- Digits at the front of a text leave over an end of the text. -/
theorem digits?_suffix
    {base : Nat}
    {text : List Char} :
    ∀ given ∈ digits? base text,
      given.2 <:+ text := by
  intro given isGiven
  rw [eq_digitGroup_of_mem_digits? given isGiven]
  exact digitGroup_suffix base text

/-- An integer with a mark leaves over an end of the text. -/
theorem markedInteger?_suffix
    {text : List Char} :
    ∀ given ∈ markedInteger? text,
      given.2 <:+ text := by
  unfold markedInteger?
  split
  case h_1 mark rest =>
    refine forall_mem_bind_of_forall fun base given made => ?_
    obtain ⟨digits, isDigits, rfl⟩ := Option.map_eq_some_iff.1 made
    exact
      (digits?_suffix digits isDigits).trans
        (List.suffix_append ['0', mark] rest)
  case h_2 => exact fun _ made => nomatch made

/-- The integer part of a number leaves over an end of the text, which has its digits. -/
theorem wholePart?_suffix
    {text : List Char} :
    ∀ given ∈ wholePart? text,
      given.2 <:+ text ∧ HasDigits given.1.length text := by
  unfold wholePart?
  split
  case h_1 rest =>
    intro given isZero
    cases isZero
    refine ⟨List.suffix_cons '0' rest, ['0'], ⟨[], rest, rfl⟩, ?_, rfl⟩
    intro character isZero
    exact .inl ((List.mem_singleton.1 isZero).symm ▸ rfl)
  case h_2 =>
    intro given isGiven
    rw [eq_digitGroup_of_mem_digits? given isGiven]
    exact ⟨digitGroup_suffix 10 text, hasDigits_of_digitGroup text⟩

/-- A fraction leaves over an end of the text. -/
theorem fractionPart_suffix
    (text : List Char) :
    (fractionPart text).2 <:+ text := by
  unfold fractionPart
  split
  case h_1 rest =>
    cases taken : digits? 10 rest with
    | none => exact List.suffix_refl _
    | some given =>
        exact (digits?_suffix given taken).trans (List.suffix_cons '.' rest)
  case h_2 => exact List.suffix_refl text

/-- An exponent leaves over an end of the text. -/
theorem exponentPart_suffix
    (text : List Char) :
    (exponentPart text).2 <:+ text := by
  unfold exponentPart
  split
  case h_1 mark rest =>
    split
    case isTrue =>
      dsimp only
      split
      case h_1 => exact List.suffix_refl _
      case h_2 digits following taken =>
        exact
          (digits?_suffix _ taken).trans
            ((splitSign_suffix rest).trans (List.suffix_cons mark rest))
    case isFalse => exact List.suffix_refl _
  case h_2 => exact List.suffix_refl []

/-- A decimal number leaves over an end of the text, or the text has all its digits. -/
theorem reads_decimalNumber?
    {stack : Stack}
    {text : List Char} :
    ∀ reading ∈ decimalNumber? text,
      Reads stack text reading := by
  intro reading made
  unfold decimalNumber? at made
  obtain ⟨⟨whole, afterWhole⟩, isWhole, rfl⟩ := Option.map_eq_some_iff.1 made
  have signEnd := splitSign_suffix text
  obtain ⟨wholeEnd, hasDigits⟩ := wholePart?_suffix _ isWhole
  have restEnd :
      (exponentPart (fractionPart afterWhole).2).2 <:+ text :=
    (exponentPart_suffix _).trans
      ((fractionPart_suffix afterWhole).trans (wholeEnd.trans signEnd))
  dsimp only
  split
  case isTrue =>
    split
    case isTrue => exact .ok restEnd
    case isFalse tooLong =>
      exact .error ⟨Nat.lt_of_not_le tooLong, hasDigits.of_suffix signEnd⟩
  case isFalse => exact .ok restEnd

/-- A float that is written by its name leaves over an end of the text. -/
theorem namedFloat?_suffix
    {text : List Char} :
    ∀ given ∈ namedFloat? text,
      given.2 <:+ text := by
  intro given isGiven
  have signEnd := splitSign_suffix text
  rw [Option.mem_def] at isGiven
  unfold namedFloat? at isGiven
  dsimp only at isGiven
  split at isGiven
  case h_1 dropped =>
    cases isGiven
    exact (dropWord?_suffix _ dropped).trans signEnd
  case h_2 dropped =>
    cases isGiven
    exact (dropWord?_suffix _ dropped).trans signEnd
  case h_3 => cases isGiven

/-- Digits of a fixed count leave over an end of the text. -/
theorem fixedDigits?_suffix
    {count : Nat}
    {text : List Char} :
    ∀ given ∈ fixedDigits? count text,
      given.2 <:+ text := by
  unfold fixedDigits?
  exact
    forall_mem_bind_of_forall fun _ =>
      forall_mem_ite (forall_mem_some (List.drop_suffix count text))

/-- The fraction of a second leaves over an end of the text. -/
theorem secondFraction_suffix
    (text : List Char) :
    (secondFraction text).2 <:+ text := by
  unfold secondFraction
  split
  case h_1 rest =>
    dsimp only
    split
    case isTrue => exact List.suffix_refl _
    case isFalse =>
      exact (List.dropWhile_suffix _).trans (List.suffix_cons '.' rest)
  case h_2 => exact List.suffix_refl text

/-- A time of day leaves over an end of the text. -/
theorem timeOfDay?_suffix
    {text : List Char} :
    ∀ given ∈ timeOfDay? text,
      given.2 <:+ text := by
  unfold timeOfDay?
  refine forall_mem_bind fixedDigits?_suffix ?_
  rintro ⟨hour, afterHour⟩ hourEnd
  refine forall_mem_bind dropWord?_suffix fun beforeMinute colonEnd => ?_
  refine forall_mem_bind fixedDigits?_suffix ?_
  rintro ⟨minute, afterMinute⟩ minuteEnd
  refine forall_mem_bind dropWord?_suffix fun beforeSecond secondColonEnd => ?_
  refine forall_mem_bind fixedDigits?_suffix ?_
  rintro ⟨second, afterSecond⟩ secondEnd
  have restEnd : (secondFraction afterSecond).2 <:+ text :=
    (secondFraction_suffix afterSecond).trans <|
      secondEnd.trans <|
        secondColonEnd.trans <| minuteEnd.trans <| colonEnd.trans hourEnd
  exact forall_mem_ite (forall_mem_some restEnd)

/-- An offset leaves over an end of the text. -/
theorem offset?_suffix
    {text : List Char} :
    ∀ given ∈ offset? text,
      given.2 <:+ text := by
  unfold offset?
  split
  case h_1 => exact fun _ made => nomatch made
  case h_2 sign rest =>
    have signEnd : rest <:+ sign :: rest := List.suffix_cons sign rest
    split
    case isTrue => exact forall_mem_some signEnd
    case isFalse =>
      refine forall_mem_ite (forall_mem_bind fixedDigits?_suffix ?_)
      rintro ⟨hours, afterHours⟩ hoursEnd
      refine forall_mem_bind dropWord?_suffix fun beforeMinutes colonEnd => ?_
      refine forall_mem_bind fixedDigits?_suffix ?_
      rintro ⟨minutes, following⟩ minutesEnd
      have restEnd : following <:+ sign :: rest :=
        minutesEnd.trans (colonEnd.trans (hoursEnd.trans signEnd))
      exact forall_mem_ite (forall_mem_some restEnd)

/-- A date leaves over an end of the text. -/
theorem dateDigits?_suffix
    {text : List Char} :
    ∀ given ∈ dateDigits? text,
      given.2 <:+ text := by
  unfold dateDigits?
  refine forall_mem_bind fixedDigits?_suffix ?_
  rintro ⟨year, afterYear⟩ yearEnd
  refine forall_mem_bind dropWord?_suffix fun beforeMonth hyphenEnd => ?_
  refine forall_mem_bind fixedDigits?_suffix ?_
  rintro ⟨month, afterMonth⟩ monthEnd
  refine forall_mem_bind dropWord?_suffix fun beforeDay secondHyphenEnd => ?_
  refine forall_mem_bind fixedDigits?_suffix ?_
  rintro ⟨day, rest⟩ dayEnd
  have restEnd : rest <:+ text :=
    dayEnd.trans <|
      secondHyphenEnd.trans <| monthEnd.trans <| hyphenEnd.trans yearEnd
  exact forall_mem_some restEnd

/-- A time of day after a separator leaves over an end of the text. -/
theorem timeAfterDate?_suffix
    {text : List Char} :
    ∀ given ∈ timeAfterDate? text,
      given.2 <:+ text := by
  unfold timeAfterDate?
  split
  case h_1 separator rest =>
    exact
      forall_mem_ite fun given isGiven =>
        (timeOfDay?_suffix given isGiven).trans
          (List.suffix_cons separator rest)
  case h_2 => exact fun _ made => nomatch made

/-- A date, alone or with a time, leaves over an end of the text. -/
theorem reads_dateOrDateTime?
    {stack : Stack}
    {text : List Char} :
    ∀ reading ∈ dateOrDateTime? text,
      Reads stack text reading := by
  intro reading made
  unfold dateOrDateTime? at made
  obtain ⟨⟨date, afterDate⟩, isDate, rfl⟩ := Option.map_eq_some_iff.1 made
  have dateEnd : afterDate <:+ text := dateDigits?_suffix _ isDate
  dsimp only
  split
  case isTrue =>
    split
    case h_1 => exact .ok dateEnd
    case h_2 time afterTime isTime =>
      have timeEnd : afterTime <:+ text :=
        (timeAfterDate?_suffix _ isTime).trans dateEnd
      split
      case h_1 => exact .ok timeEnd
      case h_2 offset rest isOffset =>
        exact .ok ((offset?_suffix _ isOffset).trans timeEnd)
  case isFalse => exact .invalid

/-- A moment or a number leaves over an end of the text. -/
theorem reads_momentOrNumber
    (stack : Stack)
    (text : List Char) :
    Reads stack text (momentOrNumber text) := by
  unfold momentOrNumber
  split
  case h_1 reading isMoment => exact reads_dateOrDateTime? reading isMoment
  case h_2 =>
    split
    case h_1 isTime => exact .ok (timeOfDay?_suffix _ isTime)
    case h_2 =>
      split
      case h_1 isMarked => exact .ok (markedInteger?_suffix _ isMarked)
      case h_2 =>
        split
        case h_1 reading isDecimal => exact reads_decimalNumber? reading isDecimal
        case h_2 =>
          split
          case h_1 isNamed => exact .ok (namedFloat?_suffix _ isNamed)
          case h_2 => exact .invalid

end Reckoner.Toml
