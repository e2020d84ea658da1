import Reckoner.Proofs.Toml.Document
import Reckoner.Settings.File

namespace Reckoner.Settings

/-!
# How loading settings ends

Loading the settings in a file gives settings, or an error with a message about the
file, or else an error that no message is made of. The last case is for bytes that
are not text and for two texts that may well be documents: one with a longer integer
than can be read, and one that nests too deeply for the stack it is read on. Both can be
told by looking at the characters: a text with fewer digits side by side and fewer brackets
is always loaded or reported.

The limit of digits is one of decimal integers. An integer with the mark of another base
is loaded whatever its length, as the documents at the end of this module show.
-/

/-- Settings, or an error with a message about the file at a path. -/
def IsReported
    (path : String) :
    Except LoadError Settings →
    Prop
  | .ok _ => True
  | .error error => (error.message? path).isSome = true

/-- Why the bytes of a file are not read, other than for being no document. -/
inductive Unreadable
    (stack : Toml.Stack)
    (content : ByteArray) :
    LoadError →
    Prop where
  | notText
      (isNoText : String.fromUTF8? content = none) :
      Unreadable stack content .notText
  | integerTooLong
      {text : String}
      {digits : Nat}
      (isText : String.fromUTF8? content = some text)
      (stops : Toml.parse stack text = .error (.integerTooLong digits))
      (tooLong : digitLimit < digits)
      (hasDigits : Toml.HasDigits digits text.toList) :
      Unreadable stack content (.integerTooLong digits)
  | nesting
      {text : String}
      (isText : String.fromUTF8? content = some text)
      (stops : Toml.parse stack text = .error .nesting)
      (tooDeep : stack.MayOverflow (Toml.normalLineEnds text.toList)) :
      Unreadable stack content .nesting

/-- The bytes of a text are that text. -/
theorem fromUTF8?_toUTF8
    (text : String) :
    String.fromUTF8? text.toUTF8 = some text :=
  dif_pos text.isValidUTF8

/-- Text is read as a document is. -/
theorem ofBytes_of_isText
    {content : ByteArray}
    {text : String}
    (isText : String.fromUTF8? content = some text)
    (stack : Toml.Stack) :
    Toml.ofBytes stack content = (Toml.parse stack text).mapError LoadError.ofToml := by
  unfold Toml.ofBytes
  rw [isText]

/-- Bytes that are not text are not read. -/
theorem ofBytes_of_isNoText
    {content : ByteArray}
    (isNoText : String.fromUTF8? content = none)
    (stack : Toml.Stack) :
    Toml.ofBytes stack content = .error .notText := by
  unfold Toml.ofBytes
  rw [isNoText]

/-- What a document holds is loaded or reported. -/
theorem isReported_ofDocument
    (path : String)
    (document : Toml.Entries) :
    IsReported path (ofDocument document) := by
  unfold ofDocument
  split
  case h_1 => trivial
  case h_2 value _ =>
    cases ofValue value with
    | ok => trivial
    | error => rfl

/-- No message is made of the errors of bytes that are not read. -/
theorem Unreadable.message?_eq_none
    {stack : Toml.Stack}
    {content : ByteArray}
    {error : LoadError}
    (unreadable : Unreadable stack content error)
    (path : String) :
    error.message? path = none := by
  cases unreadable <;> rfl

/-- Bytes that are not read are not loaded. -/
theorem Unreadable.ofFile_eq
    {stack : Toml.Stack}
    {content : ByteArray}
    {error : LoadError}
    (unreadable : Unreadable stack content error) :
    ofFile stack (.bytes content) = .error error := by
  cases unreadable with
  | notText isNoText => rw [ofFile, ofBytes_of_isNoText isNoText]; rfl
  | integerTooLong isText stops => rw [ofFile, ofBytes_of_isText isText, stops]; rfl
  | nesting isText stops => rw [ofFile, ofBytes_of_isText isText, stops]; rfl

/-- Bytes are loaded or reported, unless they are not read. -/
theorem isReported_or_unreadable
    (stack : Toml.Stack)
    (path : String)
    (content : ByteArray) :
    IsReported path (ofFile stack (.bytes content)) ∨
      ∃ error, Unreadable stack content error := by
  cases isText : String.fromUTF8? content with
  | none => exact .inr ⟨.notText, .notText isText⟩
  | some text =>
      rw [ofFile, ofBytes_of_isText isText]
      have founded := Toml.yields_parse stack text
      cases parsed : Toml.parse stack text with
      | ok document => exact .inl (isReported_ofDocument path document)
      | error error =>
          rw [parsed] at founded
          cases founded with
          | error founded =>
              cases error with
              | invalid => exact .inl rfl
              | integerTooLong digits =>
                  exact
                    .inr
                      ⟨.integerTooLong digits,
                        .integerTooLong isText parsed founded.1
                          founded.2.of_normalLineEnds⟩
              | nesting => exact .inr ⟨.nesting, .nesting isText parsed founded⟩

/-- A text with few digits side by side and few brackets is loaded or reported. -/
theorem isReported_of_isText
    {stack : Toml.Stack}
    {content : ByteArray}
    {text : String}
    (path : String)
    (isText : String.fromUTF8? content = some text)
    (fewDigits :
      ∀ digits,
        Toml.HasDigits digits text.toList →
        digits ≤ digitLimit)
    (shallow : ¬ stack.MayOverflow (Toml.normalLineEnds text.toList)) :
    IsReported path (ofFile stack (.bytes content)) := by
  rcases isReported_or_unreadable stack path content with reported | ⟨_, unreadable⟩
  · exact reported
  · cases unreadable with
    | notText isNoText => rw [isText] at isNoText; cases isNoText
    | integerTooLong isText' _ tooLong hasDigits =>
        cases isText.symm.trans isText'
        exact absurd (fewDigits _ hasDigits) (Nat.not_le_of_lt tooLong)
    | nesting isText' _ tooDeep =>
        cases isText.symm.trans isText'
        exact absurd tooDeep shallow

/--
Loading gives settings or an error with a message exactly if the bytes can be read:
if they are text, and no integer in it is too long and no value too deep for the stack.
Otherwise the error is one that no message is made of. A text that is no document is
always reported as such.
-/
theorem isReported_ofFile_iff
    (stack : Toml.Stack)
    (path : String)
    (content : ByteArray) :
    (IsReported path (ofFile stack (.bytes content)) ↔
        ∀ error, ¬ Unreadable stack content error) ∧
      (∀ error,
        Unreadable stack content error →
        ofFile stack (.bytes content) = .error error ∧ error.message? path = none) ∧
      ∀ text,
        String.fromUTF8? content = some text →
        Toml.parse stack text = .error .invalid →
        ofFile stack (.bytes content) = .error .invalidDocument ∧
          LoadError.invalidDocument.message? path =
            some ("Invalid TOML in " ++ path) := by
  refine ⟨⟨?_, ?_⟩, ?_, ?_⟩
  · intro reported error unreadable
    rw [unreadable.ofFile_eq, IsReported, unreadable.message?_eq_none path] at reported
    cases reported
  · intro readable
    rcases isReported_or_unreadable stack path content with reported | ⟨error, unreadable⟩
    · exact reported
    · exact absurd unreadable (readable error)
  · intro error unreadable
    exact ⟨unreadable.ofFile_eq, unreadable.message?_eq_none path⟩
  · intro text isText isInvalid
    rw [ofFile, ofBytes_of_isText isText, isInvalid]
    exact ⟨rfl, rfl⟩

/-- A key without a value is reported, and a byte that starts no character is not. -/
theorem isReported_ofFile_iff_brokenFiles :
    ofFile .standard (.bytes "x".toUTF8) = .error .invalidDocument ∧
      LoadError.notText.message? "prattcalc.toml" = none ∧
      ¬ IsReported "prattcalc.toml" (ofFile .standard (.bytes ⟨#[0xff]⟩)) := by
  have unreadable : Unreadable .standard ⟨#[0xff]⟩ .notText := .notText (by decide)
  obtain ⟨_, _, reportsInvalid⟩ :=
    isReported_ofFile_iff .standard "prattcalc.toml" "x".toUTF8
  obtain ⟨reported_iff, escapes, _⟩ :=
    isReported_ofFile_iff .standard "prattcalc.toml" ⟨#[0xff]⟩
  exact
    ⟨(reportsInvalid "x" (by decide) rfl).1,
      (escapes .notText unreadable).2,
      fun reported => reported_iff.1 reported .notText unreadable⟩

/-- A byte that starts no character is not reported, although it is no document. -/
theorem not_isReported_ofFile_of_notText :
    ¬ IsReported "prattcalc.toml" (ofFile .standard (.bytes ⟨#[0xff]⟩)) := by
  have noText : String.fromUTF8? ⟨#[0xff]⟩ = none := by decide
  rw [ofFile, ofBytes_of_isNoText noText]
  intro reported
  cases reported

/-- On every stack there is a text that is not reported, as it nests too deeply. -/
theorem not_isReported_ofFile_of_nesting
    (stack : Toml.Stack)
    (path : String) :
    ¬ IsReported path
        (ofFile stack (.bytes (Toml.bracketsDocument stack).toUTF8)) := by
  have isText :
      String.fromUTF8? (Toml.bracketsDocument stack).toUTF8 =
        some (Toml.bracketsDocument stack) :=
    fromUTF8?_toUTF8 _
  rw [ofFile, ofBytes_of_isText isText, Toml.parse_bracketsDocument]
  intro reported
  cases reported

end Reckoner.Settings

namespace Reckoner.Toml

/-- Zeros are digits in base sixteen. -/
theorem digitGroup_zeros
    (count : Nat) :
    digitGroup 16 (List.replicate count '0') = (List.replicate count 0, []) := by
  induction count with
  | zero => rfl
  | succ count inductionHypothesis =>
      have digit : digitValue? 16 '0' = some 0 := rfl
      rw [List.replicate_succ, digitGroup.eq_3 _ _ _ (by simp), digit]
      simp only [inductionHypothesis, List.replicate_succ]

/-- Each zero at the end of a number in base sixteen multiplies it by sixteen. -/
theorem foldl_zeros
    (start count : Nat) :
    (List.replicate count 0).foldl (fun value digit => 16 * value + digit) start =
      start * Nat.pow 16 count := by
  induction count generalizing start with
  | zero => exact (Nat.mul_one start).symm
  | succ count inductionHypothesis =>
      have power : Nat.pow 16 (count + 1) = Nat.pow 16 count * 16 := rfl
      rw [List.replicate_succ, List.foldl_cons, inductionHypothesis, Nat.add_zero,
        power, Nat.mul_comm 16 start, Nat.mul_assoc, Nat.mul_comm 16]

/-- The number `0x1` with zeros at its end. -/
def powerDigits
    (count : Nat) :
    List Char :=
  '0' :: 'x' :: '1' :: List.replicate count '0'

/-- The pair `x = 0x1` with zeros at its end. -/
def powerPair
    (count : Nat) :
    List Char :=
  ['x', ' ', '=', ' '] ++ powerDigits count

/-- The line `[prattcalc.variables]`. -/
def presetsHeader : List Char :=
  ['[', 'p', 'r', 'a', 't', 't', 'c', 'a', 'l', 'c', '.',
    'v', 'a', 'r', 'i', 'a', 'b', 'l', 'e', 's', ']', '\n']

/-- The document that binds a variable to a power of sixteen. -/
def powerDocument
    (count : Nat) :
    String :=
  String.ofList (presetsHeader ++ powerPair count)

/-- A one and zeros in base sixteen denote a power of sixteen. -/
theorem markedInteger?_powerDigits
    (count : Nat) :
    markedInteger? (powerDigits count) = some (.integer (Nat.pow 16 count), []) := by
  have group :
      digitGroup 16 ('1' :: List.replicate count '0') =
        (1 :: List.replicate count 0, []) := by
    have digit : digitValue? 16 '1' = some 1 := rfl
    rw [digitGroup.eq_3 _ _ _ (by simp), digit]
    simp only [digitGroup_zeros]
  simp [powerDigits, markedInteger?, digits?, group, ofDigits, foldl_zeros]

/-- A power of sixteen is read as a value. -/
theorem value_powerDigits
    (count : Nat) :
    value Stack.standard.needed Stack.standard.frames (powerDigits count) =
      .ok (.integer (Nat.pow 16 count), []) := by
  have noMoment : dateOrDateTime? (powerDigits count) = none := rfl
  have noTime : timeOfDay? (powerDigits count) = none := rfl
  change momentOrNumber (powerDigits count) = _
  simp only [momentOrNumber, noMoment, noTime, markedInteger?_powerDigits]

/-- A power of sixteen is bound in the table opened last. -/
theorem statement_powerPair
    (draft : Draft)
    (count : Nat) :
    statement .standard draft (powerPair count) =
      (draft.bindPair ["x"] (.integer (Nat.pow 16 count))).map fun changed =>
        (changed, []) := by
  have bound :
      statement .standard draft (powerPair count) =
        (value Stack.standard.needed Stack.standard.frames (powerDigits count)).bind fun given =>
          (draft.bindPair ["x"] given.1).bind fun changed =>
            .ok (changed, given.2) :=
    rfl
  rw [bound, value_powerDigits]
  rfl

/-- A document may end with a power of sixteen. -/
theorem lines_powerPair
    (rounds : Nat)
    (draft : Draft)
    (count : Nat) :
    lines .standard (rounds + 1) draft (powerPair count) =
      draft.bindPair ["x"] (.integer (Nat.pow 16 count)) := by
  have stated := statement_powerPair draft count
  change Except.bind (statement .standard draft (powerPair count)) _ = _
  cases bound : draft.bindPair ["x"] (.integer (Nat.pow 16 count)) with
  | ok changed =>
      rw [stated, bound]
      rfl
  | error error =>
      rw [stated, bound]
      rfl

/-- A variable may be a power of sixteen of any length. -/
theorem parse_powerDocument
    (count : Nat) :
    parse .standard (powerDocument count) =
      .ok
        [("prattcalc",
          .table [("variables", .table [("x", .integer (Nat.pow 16 count))])])] := by
  have noReturn : '\r' ∉ presetsHeader ++ powerPair count := by
    simp [presetsHeader, powerPair, powerDigits]
  have isHeader :
      statement .standard .empty (presetsHeader ++ powerPair count) =
        (Draft.empty.openTable ["prattcalc", "variables"]).map fun opened =>
          (opened, '\n' :: powerPair count) :=
    rfl
  have length :
      (presetsHeader ++ powerPair count).length + 1 = count + 28 + 2 := by
    simp only [presetsHeader, powerPair, powerDigits, List.length_append,
      List.length_replicate, List.length_cons, List.length_nil]
    omega
  have firstLine
      (rounds : Nat) :
      lines .standard (rounds + 2) .empty (presetsHeader ++ powerPair count) =
        (Draft.empty.openTable ["prattcalc", "variables"]).bind fun opened =>
          lines .standard (rounds + 1) opened (powerPair count) := by
    unfold lines
    change Except.bind (statement .standard .empty (presetsHeader ++ powerPair count)) _ = _
    rw [isHeader]
    rfl
  unfold parse powerDocument
  rw [String.toList_ofList, normalLineEnds_of_not_mem noReturn]
  dsimp only
  rw [length, firstLine]
  simp only [lines_powerPair]
  rfl

end Reckoner.Toml

namespace Reckoner.Settings

/-- A variable with an integer is read with this integer. -/
theorem readVariables_integer
    {name : String}
    (named : isIdentifier name = true)
    (n : Int) :
    readVariables (.table [(name, .integer n)]) =
      .ok (Table.ofList [(name, .int n)]) := by
  have numbers : readNumbers [(name, .integer n)] = .ok [(name, .int n)] := rfl
  have allNamed :
      [(name, Number.int n)].find? (fun entry => !isIdentifier entry.1) = none := by
    simp [named]
  simp only [readVariables, numbers, Except.bind, allNamed]

/-- Settings that only bind a variable to an integer are the standard ones otherwise. -/
theorem ofTable_integer
    {name : String}
    (named : isIdentifier name = true)
    (n : Int) :
    ofTable [("variables", .table [(name, .integer n)])] =
      .ok { standard with presets := Table.ofList [(name, .int n)] } := by
  have presets :
      setting [("variables", .table [(name, .integer n)])] "variables"
          standard.presets readVariables =
        .ok (Table.ofList [(name, .int n)]) :=
    readVariables_integer named n
  unfold ofTable
  rw [presets]
  rfl

/-- Settings may hold a power of sixteen of any length. -/
theorem ofFile_powerDocument
    (count : Nat) :
    ofFile .standard (.bytes (Toml.powerDocument count).toUTF8) =
      .ok
        { standard with
          presets := Table.ofList [("x", .int (Nat.pow 16 count))] } := by
  have named : isIdentifier "x" = true := rfl
  have accepted := ofTable_integer named (Nat.pow 16 count)
  rw [ofFile, ofBytes_of_isText (fromUTF8?_toUTF8 _), Toml.parse_powerDocument]
  change
    Except.mapError _
      (ofTable [("variables", .table [("x", .integer (Nat.pow 16 count))])]) = _
  rw [accepted]
  rfl

end Reckoner.Settings
