import Reckoner.Proofs.Toml.Scalar
import Reckoner.Toml.Document

namespace Reckoner.Toml

/-!
# Why documents cannot be read

A value in brackets or braces is read with fewer frames, and its opening character is one
more of those before it. So a text that is rejected because it nests too deeply has so many
of them that the stack is too small for one of its values.
-/

/-- What an array or a table has inside is read with fewer frames. -/
theorem Reads.inside
    {α : Type}
    {frames taken : Nat}
    {needed : List Char → Nat}
    {first : Char}
    {rest : List Char}
    {reading : Reading α}
    (reads : Reads ⟨frames, needed⟩ rest reading)
    (opens : framesBehind first = taken) :
    Reads ⟨frames + taken, needed⟩ (first :: rest) reading := by
  have restEnd : rest <:+ first :: rest := List.suffix_cons first rest
  cases reads with
  | ok isEnd => exact .ok (isEnd.trans restEnd)
  | @error error founded =>
      refine .error ?_
      cases error with
      | invalid => trivial
      | integerTooLong digits => exact founded.of_suffix restEnd
      | nesting =>
          obtain ⟨value, valueEnd, tooMuch⟩ := founded
          have more : framesOf (first :: rest) = taken + framesOf rest := by
            rw [framesOf, opens]
          refine ⟨value, valueEnd.trans restEnd, ?_⟩
          dsimp only at tooMuch ⊢
          omega

section Parts

variable {stack : Stack}
variable {value : Reader Value}
variable (readsValue : ∀ text, Reads stack text (value text))

include readsValue

/-- The items of an array leave over an end of the text. -/
theorem reads_arrayItems
    (rounds : Nat)
    (text : List Char) :
    Reads stack text (arrayItems value rounds text) := by
  induction rounds generalizing text with
  | zero => exact .invalid
  | succ rounds inductionHypothesis =>
      unfold arrayItems
      refine Yields.bind (yields_skipCommentsAndLines stack _ text) ?_
      intro start startEnd
      split
      case h_1 rest => exact .ok ((List.suffix_cons ']' rest).trans startEnd)
      case h_2 =>
        refine Yields.bind ((readsValue start).of_suffix startEnd) ?_
        rintro ⟨item, afterItem⟩ itemEnd
        refine
          Yields.bind
            ((yields_skipCommentsAndLines stack _ afterItem).of_suffix itemEnd
              fun _ isEnd => isEnd.trans itemEnd)
            ?_
        intro separator separatorEnd
        split
        case h_1 rest => exact .ok ((List.suffix_cons ']' rest).trans separatorEnd)
        case h_2 rest =>
          have restEnd : rest <:+ text :=
            (List.suffix_cons ',' rest).trans separatorEnd
          refine Yields.bind ((inductionHypothesis rest).of_suffix restEnd) ?_
          intro items itemsEnd
          exact .ok itemsEnd
        case h_3 => exact .invalid

/-- A pair leaves over an end of the text. -/
theorem reads_pair
    (text : List Char) :
    Reads stack text (pair value text) := by
  refine Yields.bind (reads_key stack text) ?_
  rintro ⟨parts, afterKey⟩ keyEnd
  dsimp only at keyEnd ⊢
  split
  case h_1 rest =>
    have valueEnd : skipSpaces rest <:+ text :=
      (skipSpaces_suffix rest).trans ((List.suffix_cons '=' rest).trans keyEnd)
    refine Yields.bind ((readsValue (skipSpaces rest)).of_suffix valueEnd) ?_
    intro bound boundEnd
    exact .ok boundEnd
  case h_2 => exact .invalid

end Parts

/-- A pair that cannot be bound in an inline table makes the text no document. -/
theorem yields_bindInline
    (stack : Stack)
    (text : List Char)
    (entries : Entries)
    (ledger : Ledger)
    (parts : List String)
    (value : Value) :
    Yields stack text (fun _ => True) (bindInline entries ledger parts value) := by
  unfold bindInline
  refine Yields.rejecting ?_
  split
  case h_1 => exact .invalid
  case h_2 => exact .ok trivial

section Tables

variable {stack : Stack}
variable {value : Reader Value}
variable (readsValue : ∀ text, Reads stack text (value text))

include readsValue

/-- The pairs of an inline table leave over an end of the text. -/
theorem reads_inlinePairs
    (rounds : Nat)
    (entries : Entries)
    (ledger : Ledger)
    (text : List Char) :
    Reads stack text (inlinePairs value rounds entries ledger text) := by
  induction rounds generalizing entries ledger text with
  | zero => exact .invalid
  | succ rounds inductionHypothesis =>
      unfold inlinePairs
      refine Yields.bind (reads_pair readsValue text) ?_
      rintro ⟨⟨parts, item⟩, afterPair⟩ pairEnd
      refine Yields.bind (yields_bindInline stack text entries ledger parts item) ?_
      intro bound _
      have separatorEnd : skipSpaces afterPair <:+ text :=
        (skipSpaces_suffix afterPair).trans pairEnd
      dsimp only
      split
      case h_1 rest starts =>
        rw [starts] at separatorEnd
        exact .ok ((List.suffix_cons _ rest).trans separatorEnd)
      case h_2 rest starts =>
        rw [starts] at separatorEnd
        have restEnd : skipSpaces rest <:+ text :=
          (skipSpaces_suffix rest).trans
            ((List.suffix_cons ',' rest).trans separatorEnd)
        exact (inductionHypothesis bound _ (skipSpaces rest)).of_suffix restEnd
      case h_3 => exact .invalid

/-- An inline table leaves over an end of the text. -/
theorem reads_inlineTable
    (text : List Char) :
    Reads stack text (inlineTable value text) := by
  have spacesEnd : skipSpaces text <:+ text := skipSpaces_suffix text
  unfold inlineTable
  split
  case h_1 rest starts =>
    rw [starts] at spacesEnd
    exact .ok ((List.suffix_cons _ rest).trans spacesEnd)
  case h_2 =>
    exact
      ((reads_inlinePairs readsValue _ _ _ _).of_suffix spacesEnd).map
        fun _ => List.suffix_refl _

end Tables

/-- A truth value leaves over an end of the text. -/
theorem truth?_suffix
    {text : List Char} :
    ∀ given ∈ truth? text,
      given.2 <:+ text := by
  intro given isGiven
  rw [Option.mem_def] at isGiven
  unfold truth? at isGiven
  split at isGiven
  case h_1 dropped =>
    cases isGiven
    exact dropWord?_suffix _ dropped
  case h_2 dropped =>
    cases isGiven
    exact dropWord?_suffix _ dropped
  case h_3 => cases isGiven

/-- With too few frames for a value, the text of the value is a reason. -/
theorem reads_nesting
    {α : Type}
    {stack : Stack}
    {text : List Char}
    (tooFew : stack.frames < 3 + stack.needed text) :
    Reads stack text (.error .nesting : Reading α) := by
  refine .error ⟨text, List.suffix_refl text, ?_⟩
  omega

/-- A value leaves over an end of the text, or it needs more frames than there are. -/
theorem reads_value
    (needed : List Char → Nat)
    (frames : Nat)
    (text : List Char) :
    Reads ⟨frames, needed⟩ text (value needed frames text) := by
  induction frames using Nat.strong_induction_on generalizing text with
  | h frames inductionHypothesis =>
      unfold value
      split
      case h_2 tooFew =>
        have few : frames < 3 := by
          by_contra enough
          obtain ⟨more, rfl⟩ := Nat.exists_eq_add_of_le' (Nat.le_of_not_lt enough)
          exact tooFew more rfl
        exact reads_nesting (Nat.lt_of_lt_of_le few (Nat.le_add_right 3 _))
      case h_1 frames =>
        split
        case isTrue tooFew =>
          refine reads_nesting ?_
          dsimp only
          omega
        case isFalse =>
          -- What stands in brackets and braces is read with two and three frames less.
          split
          case h_1 => exact .invalid
          case h_2 first rest _ =>
            split
            case isTrue =>
              exact
                (reads_quotedString _ (first :: rest)).map fun _ => List.suffix_refl _
            case isFalse =>
              split
              case isTrue isBracket =>
                rw [isBracket]
                have opens : framesBehind '[' = 2 := rfl
                refine Reads.inside ?_ opens
                exact
                  (reads_arrayItems (inductionHypothesis (frames + 1) (by omega))
                    (rest.length + 1) rest).map fun _ => List.suffix_refl _
              case isFalse =>
                split
                case isTrue isBrace =>
                  rw [isBrace]
                  have opens : framesBehind '\x7b' = 3 := rfl
                  refine Reads.inside ?_ opens
                  exact
                    reads_inlineTable (inductionHypothesis frames (by omega)) rest
                case isFalse =>
                  split
                  case h_1 reading isTruth =>
                    exact .ok (truth?_suffix reading isTruth)
                  case h_2 => exact reads_momentOrNumber _ (first :: rest)

/-- A change to a draft that cannot be made makes the text no document. -/
theorem yields_changed
    (stack : Stack)
    (text : List Char)
    (draft : Draft)
    (entries : Option Entries)
    (ledger : Ledger)
    (header : Path) :
    Yields stack text (fun _ => True) (draft.changed entries ledger header) := by
  unfold Draft.changed
  split
  case h_1 => exact .invalid
  case h_2 => exact .ok trivial

/-- A table that cannot be opened makes the text no document. -/
theorem yields_openTable
    (stack : Stack)
    (text : List Char)
    (draft : Draft)
    (path : Path) :
    Yields stack text (fun _ => True) (draft.openTable path) := by
  unfold Draft.openTable
  exact Yields.rejecting (yields_changed stack text draft _ _ _)

/-- An item that cannot be opened makes the text no document. -/
theorem yields_openItem
    (stack : Stack)
    (text : List Char)
    (draft : Draft)
    (path : Path) :
    Yields stack text (fun _ => True) (draft.openItem path) := by
  unfold Draft.openItem
  exact Yields.rejecting (yields_changed stack text draft _ _ _)

/-- A pair that cannot be bound makes the text no document. -/
theorem yields_bindPair
    (stack : Stack)
    (text : List Char)
    (draft : Draft)
    (parts : List String)
    (value : Value) :
    Yields stack text (fun _ => True) (draft.bindPair parts value) := by
  unfold Draft.bindPair
  exact Yields.rejecting (yields_changed stack text draft _ _ _)

/-- A statement leaves over an end of the text. -/
theorem reads_statement
    (stack : Stack)
    (draft : Draft)
    (text : List Char) :
    Reads stack text (statement stack draft text) := by
  unfold statement
  split
  case h_1 rest =>
    have keyEnd : skipSpaces rest <:+ '[' :: '[' :: rest :=
      (skipSpaces_suffix rest).trans (List.suffix_append ['[', '['] rest)
    refine Yields.bind ((reads_key stack _).of_suffix keyEnd) ?_
    rintro ⟨path, afterKey⟩ pathEnd
    refine Yields.bind (yields_openItem stack _ draft path) ?_
    intro opened _
    dsimp only at pathEnd ⊢
    split
    case h_1 following =>
      exact .ok ((List.suffix_append [']', ']'] following).trans pathEnd)
    case h_2 => exact .invalid
  case h_2 rest _ =>
    have keyEnd : skipSpaces rest <:+ '[' :: rest :=
      (skipSpaces_suffix rest).trans (List.suffix_cons '[' rest)
    refine Yields.bind ((reads_key stack _).of_suffix keyEnd) ?_
    rintro ⟨path, afterKey⟩ pathEnd
    refine Yields.bind (yields_openTable stack _ draft path) ?_
    intro opened _
    dsimp only at pathEnd ⊢
    split
    case h_1 following => exact .ok ((List.suffix_cons ']' following).trans pathEnd)
    case h_2 => exact .invalid
  case h_3 => exact .ok (List.suffix_refl _)
  case h_4 =>
    refine
      Yields.bind (reads_pair (reads_value stack.needed stack.frames) text) ?_
    rintro ⟨⟨parts, bound⟩, following⟩ pairEnd
    refine Yields.bind (yields_bindPair stack text draft parts bound) ?_
    intro changed _
    exact .ok pairEnd

/-- The lines of a document are read, or the text gives reason why not. -/
theorem yields_lines
    (stack : Stack)
    (rounds : Nat)
    (draft : Draft)
    (text : List Char) :
    Yields stack text (fun _ => True) (lines stack rounds draft text) := by
  induction rounds generalizing draft text with
  | zero => exact .ok trivial
  | succ rounds inductionHypothesis =>
      have startEnd : skipSpaces text <:+ text := skipSpaces_suffix text
      unfold lines
      split
      case h_1 => exact .ok trivial
      case h_2 rest starts =>
        rw [starts] at startEnd
        exact
          (inductionHypothesis draft rest).of_suffix
            ((List.suffix_cons '\n' rest).trans startEnd)
            fun _ => id
      case h_3 =>
        refine Yields.bind ((reads_statement stack draft _).of_suffix startEnd) ?_
        rintro ⟨changed, afterStatement⟩ statementEnd
        have commentEnd : skipSpaces afterStatement <:+ text :=
          (skipSpaces_suffix afterStatement).trans statementEnd
        refine
          Yields.bind
            ((yields_skipComment stack _).of_suffix commentEnd
              fun _ isEnd => isEnd.trans commentEnd)
            ?_
        intro behind behindEnd
        split
        case h_1 => exact .ok trivial
        case h_2 rest =>
          exact
            (inductionHypothesis changed rest).of_suffix
              ((List.suffix_cons '\n' rest).trans behindEnd)
              fun _ => id
        case h_3 => exact .invalid

/-- Normal line ends leave a text without carriage returns as it is. -/
theorem normalLineEnds_of_not_mem
    {text : List Char}
    (noReturn : '\r' ∉ text) :
    normalLineEnds text = text := by
  fun_induction normalLineEnds text with
  | case1 rest => exact absurd List.mem_cons_self noReturn
  | case2 character rest _ inductionHypothesis =>
      have noLater : '\r' ∉ rest := fun later =>
        noReturn (List.mem_cons_of_mem character later)
      rw [inductionHypothesis noLater]
  | case3 => rfl

/-- A text without line ends in front of the normal text is in front of the text. -/
theorem prefix_of_normalLineEnds
    {run text : List Char}
    (noLineEnd : '\n' ∉ run)
    (inFront : run <+: normalLineEnds text) :
    run <+: text := by
  fun_induction normalLineEnds text generalizing run with
  | case1 rest =>
      rcases List.prefix_cons_iff.1 inFront with rfl | ⟨later, rfl, _⟩
      · exact List.nil_prefix
      · exact absurd List.mem_cons_self noLineEnd
  | case2 character rest _ inductionHypothesis =>
      rcases List.prefix_cons_iff.1 inFront with rfl | ⟨later, rfl, laterInFront⟩
      · exact List.nil_prefix
      · have noLater : '\n' ∉ later := fun inLater =>
          noLineEnd (List.mem_cons_of_mem character inLater)
        exact List.cons_prefix_cons.2 ⟨rfl, inductionHypothesis noLater laterInFront⟩
  | case3 => exact inFront

/-- A text without line ends in the normal text is in the text. -/
theorem infix_of_normalLineEnds
    {run text : List Char}
    (noLineEnd : '\n' ∉ run)
    (inside : run <:+: normalLineEnds text) :
    run <:+: text := by
  fun_induction normalLineEnds text with
  | case1 rest inductionHypothesis =>
      rcases List.infix_cons_iff.1 inside with inFront | inRest
      · rw [← normalLineEnds.eq_1 rest] at inFront
        exact (prefix_of_normalLineEnds noLineEnd inFront).isInfix
      · exact
          (inductionHypothesis inRest).trans
            (List.suffix_append ['\r', '\n'] rest).isInfix
  | case2 character rest hasNoPair inductionHypothesis =>
      rcases List.infix_cons_iff.1 inside with inFront | inRest
      · rw [← normalLineEnds.eq_2 character rest hasNoPair] at inFront
        exact (prefix_of_normalLineEnds noLineEnd inFront).isInfix
      · exact
          (inductionHypothesis inRest).trans
            (List.suffix_cons character rest).isInfix
  | case3 => exact inside

/-- Digits in the normal text are in the text. -/
theorem HasDigits.of_normalLineEnds
    {count : Nat}
    {text : List Char}
    (has : HasDigits count (normalLineEnds text)) :
    HasDigits count text := by
  obtain ⟨run, inside, ofDigits, counted⟩ := has
  have noLineEnd : '\n' ∉ run := fun inRun => by
    rcases ofDigits '\n' inRun with isDigit | isUnderscore
    · cases isDigit
    · cases isUnderscore
  exact ⟨run, infix_of_normalLineEnds noLineEnd inside, ofDigits, counted⟩

/-- A document is read, or its text with normal line ends gives reason why not. -/
theorem yields_parse
    (stack : Stack)
    (document : String) :
    Yields stack (normalLineEnds document.toList) (fun _ => True)
      (parse stack document) :=
  (yields_lines stack _ .empty (normalLineEnds document.toList)).map
    fun _ _ => trivial

/-- Opening brackets that take too many frames are rejected, whatever is behind them. -/
theorem value_of_brackets
    (needed : List Char → Nat)
    {frames count : Nat}
    (tooFew : frames < 2 * count + 3)
    (rest : List Char) :
    value needed frames (List.replicate (count + 1) '[' ++ rest) =
      .error .nesting := by
  induction count generalizing frames with
  | zero =>
      match frames with
      | 0 => rfl
      | 1 => rfl
      | 2 => rfl
  | succ count inductionHypothesis =>
      match frames with
      | 0 => rfl
      | 1 => rfl
      | 2 => rfl
      | frames + 3 =>
          have inside :
              value needed (frames + 1) (List.replicate (count + 1) '[' ++ rest) =
                .error .nesting :=
            inductionHypothesis (by omega)
          rw [List.replicate_succ, List.cons_append] at inside ⊢
          have items
              (rounds : Nat) :
              arrayItems (value needed (frames + 1)) (rounds + 1)
                  ('[' :: (List.replicate count '[' ++ rest)) =
                .error .nesting := by
            change Except.bind (value needed (frames + 1) _) _ = _
            rw [inside]
            rfl
          rw [List.replicate_succ, List.cons_append]
          unfold value
          dsimp only
          split
          case isTrue => rfl
          case isFalse =>
            rw [if_neg (by decide), if_pos rfl, List.length_cons, items]
            rfl

/-- A document that opens as many arrays as a stack has frames, and one more. -/
def bracketsDocument
    (stack : Stack) :
    String :=
  String.ofList (['x', '='] ++ List.replicate (stack.frames + 1) '[')

/-- On every stack there are documents that nest too deeply. -/
theorem parse_bracketsDocument
    (stack : Stack) :
    parse stack (bracketsDocument stack) = .error .nesting := by
  have noReturn :
      '\r' ∉ ['x', '='] ++ List.replicate (stack.frames + 1) '[' := by
    simp
  have tooDeep :
      value stack.needed stack.frames
          (List.replicate (stack.frames + 1) '[' ++ []) =
        .error .nesting :=
    value_of_brackets stack.needed (by omega) []
  rw [List.append_nil] at tooDeep
  unfold parse bracketsDocument
  rw [String.toList_ofList, normalLineEnds_of_not_mem noReturn]
  -- The brackets are the value of the only pair.
  change
    Except.map _
        (Except.bind
          (Except.bind
            (Except.bind
              (value stack.needed stack.frames
                (List.replicate (stack.frames + 1) '['))
              _)
            _)
          _) =
      _
  rw [tooDeep]
  rfl

end Reckoner.Toml
