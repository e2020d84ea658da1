import Reckoner.Proofs.CommandLine.Loop
import Reckoner.Proofs.Evaluation.LongNumeral

namespace Reckoner

/-!
# When the loop shows the tokens

The loop shows the table of tokens if the settings ask for it and no number is malformed.
That a number is malformed is taken from the failure of the evaluation. It is the failure
of every source without tokens, so the table is never built where there are none. But it
is also that of a numeral which is too long to be read, and then the table is missing
although there are tokens. A fault leaves the loop before the table is written.
-/

/-- What stands in a numeral is no blank. -/
theorem Run.IsPlain.isBlank
    {character : Char}
    (plain : IsPlain character) :
    Text.isBlank character = false := by
  have visible : ¬ character ≤ ' ' := by
    intro dropped
    have isNumeric := plain.of_eq_numeric
    simp [CharacterClass.of, dropped] at isNumeric
  have late : 32 < character.toNat := Nat.lt_of_not_le visible
  have notControl : ¬ character.toNat ≤ 0x1f := by omega
  simp [Text.isBlank, plain.isWhiteSpace, notControl]

namespace CommandLine

namespace Loop

/-- The sessions that the loop comes to. -/
inductive Reached
    (settings : Settings) :
    Session →
    Prop where
  | start :
      Reached settings
        ⟨settings, Variables.builtin.insertAll settings.presets.entries⟩
  | answered
      {session next : Session}
      (reached : Reached settings session)
      (line : Input)
      (goesOn : (step session line).next = .goOn next) :
      Reached settings next

section Next

variable {session next : Session}

/-- After a command the loop goes on with the same session. -/
theorem next_eq_of_answerCommand
    {command : Input}
    (goesOn : (answerCommand session command).next = .goOn next) :
    next = session := by
  unfold answerCommand at goesOn
  split at goesOn
  case isTrue =>
    split at goesOn
    case h_1 =>
      cases goesOn
      rfl
    case h_2 => cases goesOn
  case isFalse =>
    split at goesOn
    case isTrue =>
      cases goesOn
      rfl
    case isFalse =>
      split at goesOn
      case isTrue =>
        cases goesOn
        rfl
      case isFalse =>
        cases goesOn
        rfl

/-- After a source the loop goes on with the session that its report continues. -/
theorem next_eq_of_answerSource
    {source : Input}
    (goesOn : (answerSource session source).next = .goOn next) :
    next = session.continued (session.report source) := by
  unfold answerSource at goesOn
  dsimp only at goesOn
  cases outcome : (session.report source).outcome with
  | faulted fault =>
      rw [outcome] at goesOn
      cases goesOn
  | failed failure =>
      rw [outcome] at goesOn
      cases goesOn
      rfl
  | value optional =>
      cases optional with
      | none =>
          rw [outcome] at goesOn
          cases goesOn
          rfl
      | some number =>
          cases shown : displayed (some number) with
          | ok text =>
              rw [outcome] at goesOn
              simp only [shown] at goesOn
              cases goesOn
              rfl
          | error fault =>
              rw [outcome] at goesOn
              simp only [shown] at goesOn
              cases goesOn

/-- A line leaves the session as it is, or a source in it continues the session. -/
theorem next_eq_of_step
    {line : Input}
    (goesOn : (step session line).next = .goOn next) :
    next = session ∨
      ∃ source, next = session.continued (session.report source) := by
  unfold step at goesOn
  dsimp only at goesOn
  split at goesOn
  case isTrue =>
    cases goesOn
    exact .inl rfl
  case isFalse =>
    split at goesOn
    case isTrue => cases goesOn
    case isFalse =>
      split at goesOn
      case isTrue => exact .inl (next_eq_of_answerCommand goesOn)
      case isFalse => exact .inr ⟨_, next_eq_of_answerSource goesOn⟩

end Next

/-- Every session that the loop comes to has its settings and is safe if they are. -/
theorem Reached.writableIf
    {settings : Settings}
    {session : Session}
    (reached : Reached settings session) :
    session.settings = settings ∧
      session.WritableIf settings.presets.Writable := by
  induction reached with
  | start => exact ⟨rfl, Session.writableIf_start settings⟩
  | answered _ line goesOn inductionHypothesis =>
      obtain ⟨sameSettings, writable⟩ := inductionHypothesis
      rcases next_eq_of_step goesOn with rfl | ⟨source, rfl⟩
      · exact ⟨sameSettings, writable⟩
      · exact ⟨sameSettings, writable.continued source⟩

/-- What hides the tokens of a source: a numeral too long to be read, or a fault. -/
inductive HidesTokens
    (tokens : List Token) :
    Outcome →
    Prop where
  | tooLong
      {token : Token}
      (member : token ∈ tokens)
      (isTooLong : token.IsTooLong) :
      HidesTokens tokens
        (.failed ⟨.malformedNumber token.lexeme, some token.position⟩)
  | fault
      {fault : Fault} :
      HidesTokens tokens (.faulted fault)

/-- What the loop writes about a source with some pieces in the place of its tokens. -/
def piecesAround
    (shown : List Piece)
    (settings : Settings)
    (source : String)
    (report : Report) :
    List Piece :=
  journalPieces settings (JournalEntry.ofReport source report) ++ shown ++
    resultPieces report.outcome

/-- Different tokens shown make a difference to what is written. -/
theorem piecesAround_injective
    {shown other : List Piece}
    {settings : Settings}
    {source : String}
    {report : Report} :
    piecesAround shown settings source report =
        piecesAround other settings source report ↔
      shown = other := by
  simp [piecesAround]

/-- What the loop writes about a source, unless a fault leaves it. -/
theorem pieces_answerSource
    {session : Session}
    {source : Input}
    (contained : ∀ fault, (session.report source).outcome ≠ .faulted fault) :
    (answerSource session source).pieces =
      piecesAround (tokenPieces session.settings (session.report source))
        session.settings source.text (session.report source) := by
  unfold answerSource piecesAround
  dsimp only
  cases outcome : (session.report source).outcome with
  | faulted fault => exact absurd outcome (contained fault)
  | failed failure => rfl
  | value optional =>
      cases optional with
      | none => simp [resultPieces, Session.reportPieces]
      | some number =>
          cases shown : displayed (some number) with
          | ok text => simp [shown, resultPieces, Session.reportPieces]
          | error fault => simp [shown, resultPieces, Session.reportPieces]

/-- A fault leaves the loop before the tokens are written. -/
theorem pieces_answerSource_of_faulted
    {session : Session}
    {source : Input}
    {fault : Fault}
    (faulted : (session.report source).outcome = .faulted fault) :
    (answerSource session source).pieces =
      piecesAround [] session.settings source.text (session.report source) := by
  simp [answerSource, piecesAround, faulted, resultPieces, Session.reportPieces]

/-- A line that is evaluated is answered as a source. -/
theorem step_of_isSource
    {line : Input}
    (stays : stripped line.text ∉ quitCommands)
    (source : isSource (stripped line.text) = true)
    (session : Session) :
    step session line = answerSource session (strippedInput line) := by
  simp only [isSource, Bool.and_eq_true, decide_eq_true_eq] at source
  simp only [step, text_strippedInput, source.1, stays, source.2, if_false]

/-- A source without tokens fails for a malformed number. -/
theorem malformed_of_untokenized
    {source : String}
    {failure : Failure}
    (untokenized : tokenize source = .error failure) :
    failure.kind = .malformedNumber := by
  rw [tokenize_eq_tokensFrom] at untokenized
  obtain ⟨lexeme, position, rfl⟩ := Run.exists_malformed_of_tokensFrom untokenized
  rfl

section Report

variable {session : Session}
variable {source : Input}
variable {tokens : List Token}

/-- The report of a source is that of its tokens. -/
theorem report_of_tokenized
    (tokenized : tokenize source.text = .ok tokens) :
    session.report source =
      Expression.reportOfTokens Grammar.frozenStandard
        (session.environment source.draws) nestingLimit tokens :=
  Expression.evaluateWithin_of_tokenized tokenized _ _ _

/-- With tokens, a number is only malformed if it is too long. -/
theorem isMalformed_or_faulted_iff
    (tokenized : tokenize source.text = .ok tokens) :
    (isMalformed (session.report source).outcome = true ∨
        ∃ fault, (session.report source).outcome = .faulted fault) ↔
      HidesTokens tokens (session.report source).outcome := by
  rw [report_of_tokenized tokenized]
  constructor
  · rintro (isMalformed | ⟨fault, faulted⟩)
    · cases outcome :
          (Expression.reportOfTokens Grammar.frozenStandard
            (session.environment source.draws) nestingLimit tokens).outcome with
      | value optional =>
          rw [outcome] at isMalformed
          cases isMalformed
      | faulted fault => exact .fault
      | failed failure =>
          rw [outcome] at isMalformed
          obtain ⟨token, member, isTooLong, rfl⟩ :=
            Expression.exists_tooLong_of_malformed tokenized outcome
              (of_decide_eq_true isMalformed)
          exact .tooLong member isTooLong
    · rw [faulted]
      exact .fault
  · intro hides
    generalize
      (Expression.reportOfTokens Grammar.frozenStandard
        (session.environment source.draws) nestingLimit tokens).outcome = outcome at hides
    cases hides with
    | tooLong member isTooLong => exact .inl rfl
    | fault => exact .inr ⟨_, rfl⟩

/-- Without tokens nothing is shown in their place. -/
theorem pieces_of_untokenized
    {failure : Failure}
    (untokenized : tokenize source.text = .error failure) :
    (answerSource session source).pieces =
      piecesAround [] session.settings source.text (session.report source) := by
  obtain ⟨failed, nothing⟩ :=
    (tokenPieces_report session source).2 failure untokenized
  have notFaulted (fault : Fault) :
      (session.report source).outcome ≠ .faulted fault := by
    rw [failed]
    exact nofun
  rw [pieces_answerSource notFaulted, nothing]

/-- Tokens that nothing hides are shown. -/
theorem pieces_of_shown
    (asks : session.settings.showTokens = true)
    (tokenized : tokenize source.text = .ok tokens)
    (shows : ¬ HidesTokens tokens (session.report source).outcome) :
    (answerSource session source).pieces =
      piecesAround [.out (tokensGrid tokens).text] session.settings source.text
        (session.report source) := by
  obtain ⟨notMalformed, notFaulted⟩ :=
    not_or.1 (mt (isMalformed_or_faulted_iff tokenized).1 shows)
  have shown :
      tokenPieces session.settings (session.report source) =
        [.out (tokensGrid tokens).text] := by
    rw [(tokenPieces_report session source).1 tokens tokenized]
    simp [asks, notMalformed]
  rw [pieces_answerSource fun fault faulted => notFaulted ⟨fault, faulted⟩, shown]

/-- Tokens that something hides are not shown. -/
theorem pieces_of_hidden
    (tokenized : tokenize source.text = .ok tokens)
    (hides : HidesTokens tokens (session.report source).outcome) :
    (answerSource session source).pieces =
      piecesAround [] session.settings source.text (session.report source) := by
  rcases (isMalformed_or_faulted_iff tokenized).2 hides with
    malformed | ⟨fault, faulted⟩
  · have hidden : tokenPieces session.settings (session.report source) = [] := by
      rw [(tokenPieces_report session source).1 tokens tokenized]
      simp [malformed]
    have notFaulted (fault : Fault) :
        (session.report source).outcome ≠ .faulted fault := by
      intro faulted
      rw [faulted] at malformed
      cases malformed
    rw [pieces_answerSource notFaulted, hidden]
  · exact pieces_answerSource_of_faulted faulted

end Report

section Numerals

variable {text : String}

/-- There are no blanks around a numeral to be taken away. -/
theorem stripped_of_numeral
    (numeral : Run.Numeral text.toList) :
    stripped text = text := by
  have trimmed :
      Text.trimBoth Text.isBlank ([] ++ text.toList ++ []) = text.toList :=
    Text.trimBoth_surrounded
      (fun _ impossible => nomatch impossible)
      (fun character member => (numeral.isPlain character member).isBlank)
      numeral.ne_nil
      (fun _ impossible => nomatch impossible)
  rw [List.nil_append, List.append_nil] at trimmed
  rw [stripped, trimmed, String.ofList_toList]

/-- A numeral is evaluated. -/
theorem isSource_of_numeral
    (numeral : Run.Numeral text.toList) :
    isSource text = true := by
  have notBlank : text ≠ "" := fun isBlank => numeral.ne_nil (by rw [isBlank]; rfl)
  have noColon : ¬ Run.IsPlain ':' := by
    unfold Run.IsPlain
    decide
  have noCommand : text.toList.head? ≠ some ':' := fun isColon =>
    noColon (numeral.isPlain ':' (List.mem_of_mem_head? isColon))
  simp [isSource, notBlank, noCommand]

/-- A numeral does not leave the loop. -/
theorem stays_of_numeral
    (numeral : Run.Numeral text.toList) :
    text ∉ quitCommands := by
  intro leaves
  have noLetter : ¬ Run.IsPlain 'q' ∧ ¬ Run.IsPlain 'x' := by
    unfold Run.IsPlain
    decide
  have hasLetter :
      ∀ command ∈ quitCommands, 'q' ∈ command.toList ∨ 'x' ∈ command.toList := by
    decide
  rcases hasLetter text leaves with letter | letter
  · exact noLetter.1 (numeral.isPlain 'q' letter)
  · exact noLetter.2 (numeral.isPlain 'x' letter)

/-- The one token of a numeral that is too long is hidden. -/
theorem pieces_of_longNumeral
    (session : Session)
    (line : Input)
    (numeral : Run.Numeral line.text.toList)
    (noPoint : '.' ∉ line.text.toList)
    (long : digitLimit < line.text.length) :
    (step session line).pieces =
      piecesAround [] session.settings line.text (session.report line) := by
  have unread := (Numeral.number?_eq_none_iff numeral).2 ⟨noPoint, long⟩
  have failed :
      (session.report line).outcome =
        .failed ⟨.malformedNumber line.text, some 0⟩ :=
    Expression.outcome_of_unread numeral unread (session.environment line.draws)
  have hides :
      HidesTokens [⟨.number, line.text, 0⟩] (session.report line).outcome := by
    rw [failed]
    exact .tooLong List.mem_cons_self ⟨rfl, noPoint, long⟩
  have sameText := stripped_of_numeral numeral
  have isStripped : strippedInput line = line := strippedInput_eq_self sameText
  have stays : stripped line.text ∉ quitCommands := by
    rw [sameText]
    exact stays_of_numeral numeral
  have isEvaluated : isSource (stripped line.text) = true := by
    rw [sameText]
    exact isSource_of_numeral numeral
  rw [step_of_isSource stays isEvaluated, isStripped,
    pieces_of_hidden (tokenize_of_numeral numeral) hides]

end Numerals

/--
Where the settings ask for the tokens, the loop shows them with a source as follows, in
every session it comes to. A source without tokens fails for a malformed number, and only
its error is written, so there is never a table to be built where there are no tokens. The
table of a source with tokens is written in front of the result, unless something hides
it: a numeral that is too long to be read, or a fault. A fault is only raised for a number
of the settings that is too long to be written.
-/
theorem step_showsTokens_iff
    {settings : Settings}
    (asks : settings.showTokens = true)
    {session : Session}
    (reached : Reached settings session)
    {line : Input}
    (stays : stripped line.text ∉ quitCommands)
    (isEvaluated : isSource (stripped line.text) = true) :
    let source := strippedInput line
    let report := session.report source
    let pieces := (step session line).pieces
    let around := fun shown => piecesAround shown settings source.text report
    (∀ failure,
        tokenize source.text = .error failure →
        report.outcome = .failed failure ∧
          failure.kind = .malformedNumber ∧
          pieces = around []) ∧
      (∀ tokens,
        tokenize source.text = .ok tokens →
        (pieces = around [.out (tokensGrid tokens).text] ↔
            ¬ HidesTokens tokens report.outcome) ∧
          (HidesTokens tokens report.outcome → pieces = around [])) ∧
      (isMalformed report.outcome = false →
        ∃ tokens, tokenize source.text = .ok tokens) ∧
      ∀ fault,
        report.outcome = .faulted fault →
        fault = .beyondDigits ∧ ¬ settings.presets.Writable := by
  intro source report pieces around
  obtain ⟨sameSettings, writable⟩ := reached.writableIf
  have answered : pieces = (answerSource session source).pieces := by
    rw [← step_of_isSource stays isEvaluated session]
  have shapes (shown : List Piece) :
      around shown =
        piecesAround shown session.settings source.text (session.report source) := by
    rw [sameSettings]
  have sessionAsks : session.settings.showTokens = true := by rw [sameSettings, asks]
  refine ⟨fun failure untokenized => ?_, fun tokens tokenized => ?_, ?_, ?_⟩
  · refine ⟨?_, malformed_of_untokenized untokenized, ?_⟩
    · exact ((tokenPieces_report session source).2 failure untokenized).1
    · rw [answered, shapes, pieces_of_untokenized untokenized]
  · have hidden (hides : HidesTokens tokens report.outcome) : pieces = around [] := by
      rw [answered, shapes, pieces_of_hidden tokenized hides]
    refine ⟨⟨fun shown hides => ?_, fun shows => ?_⟩, hidden⟩
    · have impossible := piecesAround_injective.1 (shown.symm.trans (hidden hides))
      cases impossible
    · rw [answered, shapes, pieces_of_shown sessionAsks tokenized shows]
  · intro notMalformed
    cases tokenized : tokenize source.text with
    | ok tokens => exact ⟨tokens, rfl⟩
    | error failure =>
        have outcome : report.outcome = .failed failure :=
          ((tokenPieces_report session source).2 failure tokenized).1
        rw [outcome] at notMalformed
        exact
          absurd (malformed_of_untokenized tokenized)
            (of_decide_eq_false notMalformed)
  · intro fault faulted
    exact (writable.contained_report source).fault faulted

/-- The three tokens of a sum are shown, in the session that an assignment has led to. -/
theorem step_showsTokens_iff_sum :
    let settings := { Settings.standard with showTokens := true }
    let values := Variables.builtin.insertAll settings.presets.entries
    let start : Session := ⟨settings, values⟩
    let assignment : Input := ⟨"x=2", fun _ => 0.5⟩
    let session := start.continued (start.report assignment)
    let line : Input := ⟨" x+3", fun _ => 0.25⟩
    let source := strippedInput line
    let tokens : List Token :=
      [⟨.identifier, "x", 0⟩, ⟨.symbol, "+", 1⟩, ⟨.number, "3", 2⟩]
    settings.showTokens = true ∧
      Reached settings session ∧
      source.text ∉ quitCommands ∧
      isSource source.text = true ∧
      tokenize source.text = .ok tokens ∧
      (session.report source).outcome = .value (some (.int 5)) ∧
      (step session line).pieces =
        piecesAround [.out (tokensGrid tokens).text] settings source.text
          (session.report source) := by
  intro settings values start assignment session line source tokens
  have noPresets : settings.presets.Writable := fun _ _ found => by cases found
  have writable : start.WritableIf settings.presets.Writable :=
    Session.writableIf_start settings
  have assignmentText : stripped "x=2" = "x=2" := by decide
  have unblanked : strippedInput assignment = assignment :=
    strippedInput_eq_self assignmentText
  have goesOn : (step start assignment).next = .goOn session := by
    rw [step_of_stays writable noPresets (by decide),
      sources_singleton_of_isSource (by decide), unblanked, Session.after_singleton]
  have reached : Reached settings session := .answered .start assignment goesOn
  have stays : source.text ∉ quitCommands := by decide
  have isEvaluated : isSource source.text = true := by decide
  have isStripped : source.text = "x+3" := by decide
  have tokenized : tokenize source.text = .ok tokens := by
    rw [isStripped]
    rfl
  have tokenizedAssignment :
      tokenize "x=2" =
        .ok [⟨.identifier, "x", 0⟩, ⟨.symbol, "=", 1⟩, ⟨.number, "2", 2⟩] :=
    rfl
  have assigned : session.values = values.insertAll [("x", .int 2)] := by
    have reported : start.report assignment = _ :=
      report_of_tokenized tokenizedAssignment
    change (start.report assignment).environment.values = _
    rw [reported]
    rfl
  have valued : (session.report source).outcome = .value (some (.int 5)) := by
    rw [report_of_tokenized tokenized, Session.environment, assigned]
    rfl
  have shows : ¬ HidesTokens tokens (session.report source).outcome := by
    rw [valued]
    intro hides
    cases hides
  obtain ⟨_, withTokens, _⟩ :=
    step_showsTokens_iff rfl reached stays isEvaluated
  exact
    ⟨rfl, reached, stays, isEvaluated, tokenized, valued,
      (withTokens tokens tokenized).1.2 shows⟩

/--
A line of 4301 ones has a token, which the command for tokens shows. The loop does not
show it, though the settings ask for it.
-/
theorem tokens_hidden_of_longNumeral :
    let settings := { Settings.standard with showTokens := true }
    let session : Session :=
      ⟨settings, Variables.builtin.insertAll settings.presets.entries⟩
    let text := String.ofList (List.replicate 4301 '1')
    let line : Input := ⟨text, fun _ => 0.5⟩
    let table : Piece := .out (tokensGrid [⟨.number, text, 0⟩]).text
    Reached settings session ∧
      stripped text ∉ quitCommands ∧
      isSource (stripped text) = true ∧
      tokenize (stripped text) = .ok [⟨.number, text, 0⟩] ∧
      tokens text = .success [table] ∧
      (step session line).pieces =
        piecesAround [] settings text (session.report line) ∧
      (step session line).pieces ≠
        piecesAround [table] settings text (session.report line) := by
  intro settings session text line table
  have spelled : text.toList = List.replicate 4301 '1' := String.toList_ofList
  have onlyOnes : ∀ character ∈ text.toList, character = '1' := fun character member =>
    List.eq_of_mem_replicate (spelled ▸ member)
  have numeral : Run.Numeral text.toList :=
    .whole (fun character member => by rw [onlyOnes character member]; rfl)
      (by rw [spelled]; exact List.cons_ne_nil _ _)
  have noPoint : '.' ∉ text.toList := fun member => by
    cases onlyOnes '.' member
  have long : digitLimit < text.length := by
    rw [← String.length_toList, spelled, List.length_replicate]
    decide
  have tokenized : tokenize text = .ok [⟨.number, text, 0⟩] :=
    tokenize_of_numeral numeral
  have isStripped := stripped_of_numeral numeral
  have hidden :
      (step session line).pieces =
        piecesAround [] settings text (session.report line) :=
    pieces_of_longNumeral session line numeral noPoint long
  rw [isStripped]
  refine
    ⟨.start, stays_of_numeral numeral, isSource_of_numeral numeral, tokenized, ?_,
      hidden, fun shown => ?_⟩
  · rw [tokens, tokenized]
  · cases piecesAround_injective.1 (hidden.symm.trans shown)

end Loop

end CommandLine

end Reckoner
