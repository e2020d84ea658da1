import Mathlib.Data.List.Forall2
import Reckoner.Proofs.Token.Cut
import Reckoner.Proofs.Token.Numeral

namespace Reckoner

/-!
# The tokens of a source

A source has tokens exactly if all of its numeric runs are numerals. There is then one
token for every run that is no separator, with the text, the place and the kind of that
run, so the tokens tell the whole source but for its separators. Otherwise the first
numeric run that is no numeral is reported, where it stands.
-/

namespace Run

/-- Runs with the offsets where they start. -/
def placed : Nat → List Run → List (Nat × Run)
  | _, [] => []
  | offset, run :: rest => (offset, run) :: placed (offset + run.text.length) rest

/-- The kind of the token of a run. -/
def tokenKind
    (run : Run) :
    TokenKind :=
  match run.kind with
  | .numeric => .number
  | .word => wordKind run.text
  | _ => .symbol

/-- The token of a run that is placed at an offset. -/
def tokenAt
    (place : Nat × Run) :
    Token :=
  ⟨place.2.tokenKind, String.ofList place.2.text, place.1⟩

/-- Whether a run has a token. -/
def isKept
    (place : Nat × Run) :
    Bool :=
  place.2.kind ≠ .separator

/-- A numeric run has to be a numeral. -/
def WellFormed
    (run : Run) :
    Prop :=
  run.kind = .numeric → Numeral run.text

/-- A well-formed run has its token, and a separator has none. -/
theorem token?_of_wellFormed
    (offset : Nat)
    {run : Run}
    (wellFormed : run.WellFormed) :
    run.token? offset =
      .ok (if isKept (offset, run) then some (tokenAt (offset, run)) else none) := by
  rcases run with ⟨kind, text⟩
  cases kind with
  | separator => rfl
  | symbol => rfl
  | word => rfl
  | numeric =>
      have recognized : isNumeral text = true :=
        (isNumeral_iff text).2 (wellFormed rfl)
      simp [token?, recognized, isKept, tokenAt, tokenKind]

/-- A run that is not well-formed is a malformed number. -/
theorem token?_of_not_wellFormed
    (offset : Nat)
    {run : Run}
    (malformed : ¬ run.WellFormed) :
    run.token? offset =
      .error ⟨.malformedNumber (String.ofList run.text), some offset⟩ := by
  rcases run with ⟨kind, text⟩
  have isNumeric : kind = .numeric := by
    by_contra other
    exact malformed fun same => absurd same other
  subst isNumeric
  have notRecognized : isNumeral text = false := by
    rw [Bool.eq_false_iff, ne_eq, isNumeral_iff]
    exact fun numeral => malformed fun _ => numeral
  simp [token?, notRecognized]

/-- Well-formed runs have the tokens of those that are kept. -/
theorem tokensFrom_of_wellFormed
    (offset : Nat)
    {pieces : List Run}
    (wellFormed : ∀ piece ∈ pieces, piece.WellFormed) :
    tokensFrom offset pieces =
      .ok (((placed offset pieces).filter isKept).map tokenAt) := by
  induction pieces generalizing offset with
  | nil => rfl
  | cons piece rest inductionHypothesis =>
      obtain ⟨first, others⟩ := List.forall_mem_cons.1 wellFormed
      have later := inductionHypothesis (offset + piece.text.length) others
      rw [tokensFrom, token?_of_wellFormed offset first, later, placed]
      cases kept : isKept (offset, piece) <;> simp [kept, Except.map]

/-- The first run that is not well-formed is reported where it stands. -/
theorem tokensFrom_of_malformed
    (offset : Nat)
    {before after : List Run}
    {bad : Run}
    (wellFormed : ∀ piece ∈ before, piece.WellFormed)
    (malformed : ¬ bad.WellFormed) :
    tokensFrom offset (before ++ bad :: after) =
      .error
        ⟨.malformedNumber (String.ofList bad.text),
          some (offset + (before.flatMap Run.text).length)⟩ := by
  induction before generalizing offset with
  | nil =>
      rw [List.nil_append, tokensFrom, token?_of_not_wellFormed offset malformed]
      rfl
  | cons piece rest inductionHypothesis =>
      obtain ⟨first, others⟩ := List.forall_mem_cons.1 wellFormed
      have later := inductionHypothesis (offset + piece.text.length) others
      rw [List.cons_append, tokensFrom, token?_of_wellFormed offset first, later]
      cases isKept (offset, piece) <;>
        simp [Except.map, List.length_append, Nat.add_assoc]

/-- Runs are well-formed, or one of them is the first that is not. -/
theorem wellFormed_or_exists_first
    (pieces : List Run) :
    (∀ piece ∈ pieces, piece.WellFormed) ∨
      ∃ before bad after,
        pieces = before ++ bad :: after ∧
          (∀ piece ∈ before, piece.WellFormed) ∧ ¬ bad.WellFormed := by
  induction pieces with
  | nil => exact .inl fun _ impossible => nomatch impossible
  | cons piece rest inductionHypothesis =>
      by_cases first : piece.WellFormed
      · rcases inductionHypothesis with all | ⟨before, bad, after, rfl, fine, malformed⟩
        · exact .inl (List.forall_mem_cons.2 ⟨first, all⟩)
        · exact
            .inr ⟨piece :: before, bad, after, rfl,
              List.forall_mem_cons.2 ⟨first, fine⟩, malformed⟩
      · exact
          .inr ⟨[], piece, rest, rfl, (fun _ impossible => nomatch impossible),
            first⟩

/-- Runs have tokens exactly if all of them are well-formed. -/
theorem exists_tokensFrom_iff
    (offset : Nat)
    (pieces : List Run) :
    (∃ tokens, tokensFrom offset pieces = .ok tokens) ↔
      ∀ piece ∈ pieces, piece.WellFormed := by
  rcases wellFormed_or_exists_first pieces with
    all | ⟨before, bad, after, rfl, fine, malformed⟩
  · rw [tokensFrom_of_wellFormed offset all]
    exact ⟨fun _ => all, fun _ => ⟨_, rfl⟩⟩
  · rw [tokensFrom_of_malformed offset fine malformed]
    constructor
    · rintro ⟨_, impossible⟩
      cases impossible
    · intro all
      exact absurd (all bad (by simp)) malformed

/-- A placed run stands in the source where its offset says. -/
theorem exists_of_mem_placed
    {offset : Nat}
    {pieces : List Run}
    {place : Nat × Run}
    (member : place ∈ placed offset pieces) :
    place.2 ∈ pieces ∧
      ∃ before after,
        pieces.flatMap Run.text = before ++ place.2.text ++ after ∧
          place.1 = offset + before.length := by
  induction pieces generalizing offset with
  | nil => cases member
  | cons piece rest inductionHypothesis =>
      rw [placed] at member
      rcases List.mem_cons.1 member with rfl | isLater
      · exact ⟨List.mem_cons_self, [], rest.flatMap Run.text, rfl, rfl⟩
      · obtain ⟨ofRest, before, after, shape, start⟩ := inductionHypothesis isLater
        refine
          ⟨List.mem_cons_of_mem _ ofRest, piece.text ++ before, after, ?_, ?_⟩
        · simp [shape]
        · rw [start, List.length_append, Nat.add_assoc]

/-- Placed runs start where the ones before them have ended. -/
theorem pairwise_placed
    (offset : Nat)
    (pieces : List Run) :
    (placed offset pieces).Pairwise fun first second =>
      first.1 + first.2.text.length ≤ second.1 := by
  induction pieces generalizing offset with
  | nil => exact .nil
  | cons piece rest inductionHypothesis =>
      refine List.pairwise_cons.2 ⟨fun place member => ?_, inductionHypothesis _⟩
      obtain ⟨_, before, _, _, start⟩ := exists_of_mem_placed member
      rw [start]
      exact Nat.le_add_right _ _

/-- Every character of a source is in one of the placed runs. -/
theorem exists_mem_placed
    (offset : Nat)
    {pieces : List Run}
    {index : Nat}
    {character : Char}
    (found : (pieces.flatMap Run.text)[index]? = some character) :
    ∃ place ∈ placed offset pieces,
      place.1 ≤ offset + index ∧
        offset + index < place.1 + place.2.text.length ∧
        character ∈ place.2.text := by
  induction pieces generalizing offset index with
  | nil => cases found
  | cons piece rest inductionHypothesis =>
      rw [List.flatMap_cons, List.getElem?_append] at found
      split at found
      case isTrue inside =>
        exact
          ⟨(offset, piece), List.mem_cons_self, Nat.le_add_right _ _,
            Nat.add_lt_add_left inside _, List.mem_of_getElem? found⟩
      case isFalse beyond =>
        obtain ⟨place, member, starts, ends, inside⟩ :=
          inductionHypothesis (offset + piece.text.length) found
        refine ⟨place, List.mem_cons_of_mem _ member, ?_, ?_, inside⟩
        · omega
        · omega

/-- The characters of a run that is kept are no separators. -/
theorem not_le_space_of_kept
    {source : List Char}
    {place : Nat × Run}
    (ofRuns : place.2 ∈ runs source)
    (kept : isKept place = true)
    {character : Char}
    (inside : character ∈ place.2.text) :
    ¬ character ≤ ' ' := by
  rw [← CharacterClass.of_eq_separator_iff, of_mem_text ofRuns inside]
  simpa [isKept] using kept

end Run

namespace Token

/-- A token stands for a run: it has its text, its offset, and the kind that it calls for. -/
structure StandsFor
    (token : Token)
    (place : Nat × Run) : Prop where
  lexeme : token.lexeme.toList = place.2.text
  position : token.position = place.1
  number : token.kind = .number ↔ place.2.kind = .numeric
  identifier :
    token.kind = .identifier ↔
      place.2.kind = .word ∧
        ∃ first rest,
          place.2.text = first :: rest ∧
            (Text.isLetter first = true ∨ first = '_')

/-- Tokens that tell a source but for its separators. -/
structure Tell
    (source : List Char)
    (tokens : List Token) : Prop where
  slices :
    ∀ token ∈ tokens,
      (source.drop token.position).take token.lexeme.length =
        token.lexeme.toList
  apart :
    tokens.Pairwise fun first second => first.endPosition ≤ second.position
  between :
    ∀ (offset : Nat) character,
      source[offset]? = some character →
      (∀ token ∈ tokens,
        offset < token.position ∨ token.endPosition ≤ offset) →
      character ≤ ' '
  behind :
    ∀ (offset : Nat) character,
      source[offset]? = some character →
      endOfAll tokens ≤ offset →
      character ≤ ' '
  last :
    ∀ offset,
      endOfAll tokens = offset + 1 →
      ∃ character, source[offset]? = some character ∧ ¬ character ≤ ' '

/-- The token of a run stands for it. -/
theorem standsFor_tokenAt
    (place : Nat × Run) :
    (Run.tokenAt place).StandsFor place where
  lexeme := String.toList_ofList
  position := rfl
  number := by
    rcases place with ⟨offset, kind, text⟩
    cases kind with
    | word =>
        simp only [Run.tokenAt, Run.tokenKind, reduceCtorEq, iff_false]
        cases text with
        | nil => simp [Run.wordKind]
        | cons first rest =>
            simp only [Run.wordKind]
            split <;> simp
    | _ => simp [Run.tokenAt, Run.tokenKind]
  identifier := by
    rcases place with ⟨offset, kind, text⟩
    cases kind with
    | word =>
        cases text with
        | nil => simp [Run.tokenAt, Run.tokenKind, Run.wordKind]
        | cons first rest =>
            by_cases letter : Text.isLetter first = true ∨ first = '_'
            · simp [Run.tokenAt, Run.tokenKind, Run.wordKind, letter]
            · simp [Run.tokenAt, Run.tokenKind, Run.wordKind, letter]
    | _ => simp [Run.tokenAt, Run.tokenKind]

/-- The token of a run ends where the run does. -/
theorem endPosition_tokenAt
    (place : Nat × Run) :
    (Run.tokenAt place).endPosition = place.1 + place.2.text.length := by
  simp [endPosition, Run.tokenAt]

/-- The end of the tokens is that of the last one. -/
theorem endOfAll_append_singleton
    (before : List Token)
    (last : Token) :
    endOfAll (before ++ [last]) = last.endPosition := by
  simp [endOfAll]

/-- No token ends behind the end of tokens that stand apart. -/
theorem endPosition_le_endOfAll
    {tokens : List Token}
    (apart :
      tokens.Pairwise fun first second =>
        first.endPosition ≤ second.position)
    {token : Token}
    (member : token ∈ tokens) :
    token.endPosition ≤ endOfAll tokens := by
  rcases List.eq_nil_or_concat' tokens with rfl | ⟨before, last, rfl⟩
  · cases member
  · rw [endOfAll_append_singleton]
    rcases List.mem_append.1 member with isEarlier | isLast
    · have ordered : token.endPosition ≤ last.position :=
        (List.pairwise_append.1 apart).2.2 token isEarlier last (by simp)
      exact Nat.le_trans ordered (Nat.le_add_right _ _)
    · rw [List.mem_singleton.1 isLast]

/-- The tokens of the runs that are kept. -/
def ofRuns
    (pieces : List Run) :
    List Token :=
  ((Run.placed 0 pieces).filter Run.isKept).map Run.tokenAt

/-- Tokens of runs come from places that are kept. -/
theorem exists_of_mem_ofRuns
    {pieces : List Run}
    {token : Token}
    (member : token ∈ ofRuns pieces) :
    ∃ place ∈ Run.placed 0 pieces,
      Run.isKept place = true ∧ Run.tokenAt place = token := by
  obtain ⟨place, isKept, same⟩ := List.mem_map.1 member
  exact
    ⟨place, (List.mem_filter.1 isKept).1, (List.mem_filter.1 isKept).2, same⟩

/-- Tokens of runs stand apart. -/
theorem apart_ofRuns
    (pieces : List Run) :
    (ofRuns pieces).Pairwise fun first second =>
      first.endPosition ≤ second.position := by
  rw [ofRuns, List.pairwise_map]
  simp only [endPosition_tokenAt]
  exact (Run.pairwise_placed 0 pieces).filter Run.isKept

/-- A character that no token of the runs covers is a separator. -/
theorem le_space_of_uncovered
    {source : List Char}
    {offset : Nat}
    {character : Char}
    (found : source[offset]? = some character)
    (uncovered :
      ∀ token ∈ ofRuns (Run.runs source),
        offset < token.position ∨ token.endPosition ≤ offset) :
    character ≤ ' ' := by
  rw [← Run.flatten_runs source] at found
  obtain ⟨place, member, starts, ends, inside⟩ := Run.exists_mem_placed 0 found
  rw [Nat.zero_add] at starts ends
  have inRuns := (Run.exists_of_mem_placed member).1
  by_contra visible
  have kept : Run.isKept place = true := by
    rw [← CharacterClass.of_eq_separator_iff,
      Run.of_mem_text inRuns inside] at visible
    simpa [Run.isKept] using visible
  have covers :=
    uncovered (Run.tokenAt place)
      (List.mem_map_of_mem (List.mem_filter.2 ⟨member, kept⟩))
  rw [endPosition_tokenAt] at covers
  have start : (Run.tokenAt place).position = place.1 := rfl
  omega

/-- The last token of the runs ends behind a character that is no separator. -/
theorem exists_last_of_ofRuns
    {source : List Char}
    {offset : Nat}
    (ends : endOfAll (ofRuns (Run.runs source)) = offset + 1) :
    ∃ character, source[offset]? = some character ∧ ¬ character ≤ ' ' := by
  rcases List.eq_nil_or_concat' (ofRuns (Run.runs source)) with
    nothing | ⟨before, last, shape⟩
  · rw [nothing] at ends
    cases ends
  · obtain ⟨place, member, kept, rfl⟩ :=
      exists_of_mem_ofRuns (show last ∈ ofRuns (Run.runs source) by simp [shape])
    rw [shape, endOfAll_append_singleton, endPosition_tokenAt] at ends
    obtain ⟨inRuns, earlier, later, parts, start⟩ :=
      Run.exists_of_mem_placed member
    obtain ⟨initial, final, text⟩ :=
      (List.eq_nil_or_concat' place.2.text).resolve_left
        (Run.text_ne_nil inRuns)
    have visible : ¬ final ≤ ' ' :=
      Run.not_le_space_of_kept inRuns kept (by simp [text])
    have index : offset = (earlier ++ initial).length := by
      rw [text, List.length_append] at ends
      rw [List.length_append]
      simp only [List.length_singleton] at ends
      omega
    have split : source = (earlier ++ initial) ++ final :: later := by
      rw [← Run.flatten_runs source, parts, text]
      simp
    refine ⟨final, ?_, visible⟩
    rw [split, index, List.getElem?_append_right (Nat.le_refl _)]
    simp

/-- The tokens of the runs that are kept tell the source. -/
theorem tell_ofRuns
    (source : List Char) :
    Tell source (ofRuns (Run.runs source)) where
  slices token isToken := by
    obtain ⟨place, member, _, rfl⟩ := exists_of_mem_ofRuns isToken
    obtain ⟨_, before, after, shape, start⟩ := Run.exists_of_mem_placed member
    rw [Run.flatten_runs] at shape
    rw [Nat.zero_add] at start
    simp [Run.tokenAt, shape, start]
  apart := apart_ofRuns _
  between _ _ found uncovered := le_space_of_uncovered found uncovered
  behind _ _ found isBehind :=
    le_space_of_uncovered found fun _ isToken =>
      .inr (Nat.le_trans (endPosition_le_endOfAll (apart_ofRuns _) isToken) isBehind)
  last _ ends := exists_last_of_ofRuns ends

end Token

/-- The tokens of a source are those of its runs. -/
theorem eq_ofRuns_of_tokenize
    {source : String}
    {tokens : List Token}
    (tokenized : tokenize source = .ok tokens) :
    tokens = Token.ofRuns (Run.runs source.toList) := by
  rw [tokenize_eq_tokensFrom] at tokenized
  have wellFormed :=
    (Run.exists_tokensFrom_iff 0 (Run.runs source.toList)).1
      ⟨tokens, tokenized⟩
  rw [Run.tokensFrom_of_wellFormed 0 wellFormed] at tokenized
  cases tokenized
  rfl

/--
Scanning is exact. The source has just one cut into runs, and it has tokens exactly if
all numeric runs are numerals. These are then the tokens of the other runs than
separators, in order, and they tell the source but for its separators. If there is a
numeric run that is no numeral, the first one is reported with its text and its offset.
-/
theorem tokenize_exact
    (source : String) :
    ∃ pieces,
      (∀ others, Run.IsCut source.toList others ↔ others = pieces) ∧
        ((∃ tokens, tokenize source = .ok tokens) ↔
          ∀ piece ∈ pieces, piece.kind = .numeric → Run.Numeral piece.text) ∧
        (∀ tokens,
          tokenize source = .ok tokens →
          List.Forall₂ Token.StandsFor tokens
              ((Run.placed 0 pieces).filter fun place =>
                place.2.kind ≠ .separator) ∧
            Token.Tell source.toList tokens) ∧
        ∀ before bad after,
          pieces = before ++ bad :: after →
          (∀ piece ∈ before,
            piece.kind = .numeric → Run.Numeral piece.text) →
          bad.kind = .numeric →
          ¬ Run.Numeral bad.text →
          ∃ failure,
            tokenize source = .error failure ∧
              failure.kind = .malformedNumber ∧
              failure.message =
                "Malformed number: " ++
                  Text.quoted (String.ofList bad.text) ∧
              failure.position =
                some (before.flatMap Run.text).length := by
  refine ⟨Run.runs source.toList, fun _ => Run.isCut_iff, ?_, ?_, ?_⟩
  · rw [tokenize_eq_tokensFrom]
    exact Run.exists_tokensFrom_iff 0 (Run.runs source.toList)
  · intro tokens tokenized
    obtain rfl := eq_ofRuns_of_tokenize tokenized
    refine ⟨?_, Token.tell_ofRuns source.toList⟩
    rw [Token.ofRuns, List.forall₂_map_left_iff]
    exact List.forall₂_same.2 fun place _ => Token.standsFor_tokenAt place
  · intro before bad after shape wellFormed isNumeric notNumeral
    rw [tokenize_eq_tokensFrom, shape,
      Run.tokensFrom_of_malformed 0 wellFormed
        fun numeral => notNumeral (numeral isNumeric)]
    exact ⟨_, rfl, rfl, rfl, by simp⟩

/-- A superscript is a digit, so it belongs to the number, but it is no decimal. -/
theorem tokenize_exact_superscript :
    ∃ failure,
      tokenize "x+1²" = .error failure ∧
        failure.kind = .malformedNumber ∧
        failure.message = "Malformed number: '1²'" ∧
        failure.position = some 2 := by
  obtain ⟨pieces, isCut, _, _, reports⟩ := tokenize_exact "x+1²"
  have shape :
      pieces =
        [⟨.word, ['x']⟩, ⟨.symbol, ['+']⟩] ++ ⟨.numeric, ['1', '²']⟩ :: [] :=
    ((isCut _).1 (Run.isCut_runs _)).symm
  have wellFormed :
      ∀ piece ∈ [(⟨.word, ['x']⟩ : Run), ⟨.symbol, ['+']⟩],
        piece.kind = .numeric → Run.Numeral piece.text := by
    simp
  have notNumeral : ¬ Run.Numeral ['1', '²'] := by
    rw [← Run.isNumeral_iff]
    decide
  have message :
      "Malformed number: " ++ Text.quoted (String.ofList ['1', '²']) =
        "Malformed number: '1²'" := by
    decide +kernel
  obtain ⟨failure, failed, kind, written, position⟩ :=
    reports _ _ [] shape wellFormed rfl notNumeral
  exact ⟨failure, failed, kind, written.trans message, position⟩

end Reckoner
