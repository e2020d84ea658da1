import Reckoner.Grammar.Basic
import Reckoner.Proofs.Token.Scan

namespace Reckoner

/-!
# The texts of tokens

All characters of a run are of the class of the run. This decides which sources have
no tokens at all, and it keeps the slots of the grammar apart: a symbol is never
written like the name of a kind of token, so it never reads the slot of that kind.
-/

namespace Run

/-- Every character of a run is of its class. -/
theorem of_mem_text
    {source : List Char}
    {run : Run}
    (member : run ∈ runs source)
    {character : Char}
    (inside : character ∈ run.text) :
    CharacterClass.of character = run.kind := by
  have ofKind :
      ∀ piece ∈ runs source,
        ∀ other ∈ piece.text, CharacterClass.of other = piece.kind :=
    forall_mem_runs (by simp)
      (fun _ _ joins _ ofRun => by simpa [joins] using ofRun)
      source
  exact ofKind run member character inside

/-- A token of runs is the token of one of them. -/
theorem exists_of_mem_tokensFrom
    {offset : Nat}
    {runList : List Run}
    {tokens : List Token}
    (read : tokensFrom offset runList = .ok tokens)
    {token : Token}
    (member : token ∈ tokens) :
    ∃ run ∈ runList, ∃ start, run.token? start = .ok (some token) := by
  induction runList generalizing offset tokens with
  | nil =>
      cases read
      cases member
  | cons run rest inductionHypothesis =>
      unfold tokensFrom at read
      cases first : run.token? offset with
      | error failure =>
          rw [first] at read
          cases read
      | ok optional =>
          rw [first] at read
          cases optional with
          | none =>
              obtain ⟨other, isRest, found⟩ :=
                inductionHypothesis read member
              exact ⟨other, List.mem_cons_of_mem run isRest, found⟩
          | some head =>
              cases others :
                  tokensFrom (offset + run.text.length) rest with
              | error failure =>
                  simp only [others] at read
                  cases read
              | ok later =>
                  simp only [others] at read
                  cases read
                  rcases List.mem_cons.1 member with rfl | isLater
                  · exact ⟨run, List.mem_cons_self, offset, first⟩
                  · obtain ⟨other, isRest, found⟩ :=
                      inductionHypothesis others isLater
                    exact ⟨other, List.mem_cons_of_mem run isRest, found⟩

/-- A run has no token exactly if it separates. -/
theorem token?_eq_none_iff
    (offset : Nat)
    (run : Run) :
    run.token? offset = .ok none ↔ run.kind = .separator := by
  unfold token?
  cases run.kind with
  | separator => simp
  | symbol => simp
  | word => simp
  | numeric =>
      cases isNumeral run.text with
      | true => simp
      | false => simp

/-- Runs give no tokens exactly if all of them separate. -/
theorem tokensFrom_eq_nil_iff
    (offset : Nat)
    (runList : List Run) :
    tokensFrom offset runList = .ok [] ↔
      ∀ run ∈ runList, run.kind = .separator := by
  induction runList generalizing offset with
  | nil => simp [tokensFrom]
  | cons run rest inductionHypothesis =>
      rw [List.forall_mem_cons, ← token?_eq_none_iff offset run,
        ← inductionHypothesis (offset + run.text.length)]
      cases first : run.token? offset with
      | error failure => simp [tokensFrom, first]
      | ok optional =>
          cases optional with
          | none => simp [tokensFrom, first]
          | some token =>
              cases others :
                  tokensFrom (offset + run.text.length) rest with
              | error failure => simp [tokensFrom, first, others, Except.map]
              | ok later => simp [tokensFrom, first, others, Except.map]

/-- The only way for runs to have no tokens is a malformed number. -/
theorem exists_malformed_of_tokensFrom
    {offset : Nat}
    {runList : List Run}
    {failure : Failure}
    (failed : tokensFrom offset runList = .error failure) :
    ∃ lexeme position,
      failure = ⟨.malformedNumber lexeme, some position⟩ := by
  induction runList generalizing offset with
  | nil => cases failed
  | cons run rest inductionHypothesis =>
      unfold tokensFrom at failed
      cases first : run.token? offset with
      | error early =>
          rw [first] at failed
          cases failed
          unfold token? at first
          split at first
          · cases first
          · cases first
          · cases first
          · split at first
            · cases first
            · cases first
              exact ⟨_, _, rfl⟩
      | ok optional =>
          rw [first] at failed
          cases optional with
          | none => exact inductionHypothesis failed
          | some token =>
              cases others :
                  tokensFrom (offset + run.text.length) rest with
              | error later =>
                  simp only [others] at failed
                  cases failed
                  exact inductionHypothesis others
              | ok tokens =>
                  simp only [others] at failed
                  cases failed

/-- All runs separate exactly if all characters do. -/
theorem forall_separator_iff
    (source : List Char) :
    (∀ run ∈ runs source, run.kind = .separator) ↔
      ∀ character ∈ source, CharacterClass.of character = .separator := by
  constructor
  · intro separates character member
    rw [← flatten_runs source] at member
    obtain ⟨run, ofRuns, inside⟩ := List.mem_flatMap.1 member
    rw [of_mem_text ofRuns inside]
    exact separates run ofRuns
  · intro separates run ofRuns
    obtain ⟨character, rest, shape⟩ :=
      List.exists_cons_of_ne_nil (text_ne_nil ofRuns)
    have inside : character ∈ run.text := by
      rw [shape]
      exact List.mem_cons_self
    have member : character ∈ source := by
      rw [← flatten_runs source]
      exact List.mem_flatMap.2 ⟨run, ofRuns, inside⟩
    rw [← of_mem_text ofRuns inside]
    exact separates character member

end Run

/-- The separators are the characters up to the space. -/
theorem CharacterClass.of_eq_separator_iff
    (character : Char) :
    CharacterClass.of character = .separator ↔ character ≤ ' ' := by
  unfold CharacterClass.of
  split
  case isTrue separates => simp [separates]
  case isFalse keeps =>
    simp only [keeps, iff_false]
    split
    case isTrue => simp
    case isFalse =>
      split
      case isTrue => simp
      case isFalse => simp

/-- A source has no tokens exactly if it is blank. -/
theorem tokenize_eq_nil_iff
    (source : String) :
    tokenize source = .ok [] ↔
      ∀ character ∈ source.toList, character ≤ ' ' := by
  rw [tokenize_eq_tokensFrom, Run.tokensFrom_eq_nil_iff,
    Run.forall_separator_iff]
  simp only [CharacterClass.of_eq_separator_iff]

/-- A token that is no symbol, or not written like the name of a kind. -/
def Token.NamesNoKind
    (token : Token) :
    Prop :=
  token.kind = .symbol →
    token.lexeme ≠ TokenKind.number.name ∧
      token.lexeme ≠ TokenKind.identifier.name

/-- The text of a token is the text of its run. -/
theorem Run.lexeme_of_token?
    {run : Run}
    {offset : Nat}
    {token : Token}
    (read : run.token? offset = .ok (some token)) :
    token.lexeme = String.ofList run.text := by
  unfold token? at read
  split at read
  · cases read
  · cases read
    rfl
  · cases read
    rfl
  · split at read
    · cases read
      rfl
    · cases read

/-- A symbol is written differently from every word that starts with a letter. -/
theorem Run.lexeme_ne_of_token?
    {source : List Char}
    {run : Run}
    (ofRuns : run ∈ runs source)
    {offset : Nat}
    {token : Token}
    (read : run.token? offset = .ok (some token))
    (isSymbol : token.kind = .symbol)
    {word : String}
    {first : Char}
    {rest : List Char}
    (spelled : word.toList = first :: rest)
    (isWord : CharacterClass.of first = .word)
    (isLetter : Text.isLetter first = true) :
    token.lexeme ≠ word := by
  intro same
  have shape : run.text = first :: rest := by
    rw [← spelled, ← same, lexeme_of_token? read, String.toList_ofList]
  have inside : first ∈ run.text := by
    rw [shape]
    exact List.mem_cons_self
  have kind : run.kind = .word := by
    rw [← of_mem_text ofRuns inside, isWord]
  unfold token? at read
  rw [kind] at read
  cases read
  simp [wordKind, shape, isLetter] at isSymbol

/-- No token of a source is a symbol that is written like the name of a kind. -/
theorem namesNoKind_of_tokenize
    {source : String}
    {tokens : List Token}
    (read : tokenize source = .ok tokens)
    {token : Token}
    (member : token ∈ tokens) :
    token.NamesNoKind := by
  rw [tokenize_eq_tokensFrom] at read
  obtain ⟨run, ofRuns, start, found⟩ :=
    Run.exists_of_mem_tokensFrom read member
  intro isSymbol
  exact
    ⟨Run.lexeme_ne_of_token? ofRuns found isSymbol rfl (by decide)
        (by decide),
      Run.lexeme_ne_of_token? ofRuns found isSymbol rfl (by decide)
        (by decide)⟩

end Reckoner
