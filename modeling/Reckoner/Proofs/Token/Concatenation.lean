import Reckoner.Proofs.Token.Identifier

namespace Reckoner

/-!
# Tokens of a text that is put together

A separator or an operator symbol never joins what stands in front of it. So the tokens of
a text are those of the part before such a character and those of the part behind it, which
only stand further to the right. Both parts are read on their own: the first one that has a
malformed number is reported.

Where exactly the runs of the whole text are cut does matter a little, since separators on
both sides of the place make one run. Separators have no tokens, though, and so the law holds
for the tokens and not for the runs.
-/

namespace Token

/-- What a token says, wherever it stands. -/
def content
    (token : Token) :
    TokenKind × String :=
  (token.kind, token.lexeme)

/-- Tokens that say the same one by one. -/
def SameContent
    (tokens others : List Token) :
    Prop :=
  tokens.map content = others.map content

/-- The same token further to the right. -/
def shifted
    (distance : Nat)
    (token : Token) :
    Token :=
  { token with position := token.position + distance }

/-- Tokens say the same further to the right. -/
theorem sameContent_map_shifted
    (distance : Nat)
    (tokens : List Token) :
    SameContent (tokens.map (shifted distance)) tokens := by
  rw [SameContent, List.map_map]
  rfl

end Token

/-- The same failure further to the right, if its position is known. -/
def Failure.shifted
    (distance : Nat)
    (failure : Failure) :
    Failure :=
  { failure with position := failure.position.map (· + distance) }

/-- The tokens or the failure of a text that starts further to the right. -/
def shiftedResult
    (distance : Nat) :
    Except Failure (List Token) →
    Except Failure (List Token)
  | .error failure => .error (failure.shifted distance)
  | .ok tokens => .ok (tokens.map (Token.shifted distance))

/--
The tokens of two parts of a text, with given tokens between them. The failure of the first
part is reported if it has one, and otherwise that of the second part, where it stands.
-/
def joinedTokens
    (first : String)
    (between : List Token)
    (start : Nat)
    (second : String) :
    Except Failure (List Token) :=
  match tokenize first, tokenize second with
  | .error failure, _ => .error failure
  | .ok _, .error failure => .error (failure.shifted start)
  | .ok before, .ok after =>
      .ok (before ++ between ++ after.map (Token.shifted start))

namespace Run

/-- A run that starts further to the right has its token there. -/
theorem token?_add
    (offset distance : Nat)
    (run : Run) :
    run.token? (offset + distance) =
      match run.token? offset with
      | .error failure => .error (failure.shifted distance)
      | .ok optional => .ok (optional.map (Token.shifted distance)) := by
  unfold token?
  cases run.kind with
  | separator => rfl
  | symbol => rfl
  | word => rfl
  | numeric =>
      cases isNumeral run.text with
      | true => rfl
      | false => rfl

/-- Runs that start further to the right have their tokens there. -/
theorem tokensFrom_add
    (offset distance : Nat)
    (pieces : List Run) :
    tokensFrom (offset + distance) pieces =
      shiftedResult distance (tokensFrom offset pieces) := by
  induction pieces generalizing offset with
  | nil => rfl
  | cons piece rest inductionHypothesis =>
      have later := inductionHypothesis (offset + piece.text.length)
      rw [Nat.add_right_comm] at later
      rw [tokensFrom, tokensFrom, token?_add, later]
      cases piece.token? offset with
      | error failure => rfl
      | ok optional =>
          cases optional with
          | none => rfl
          | some token =>
              cases tokensFrom (offset + piece.text.length) rest with
              | error failure => rfl
              | ok tokens => rfl

/-- A character that never joins what stands in front of it. -/
def Parts
    (character : Char) :
    Prop :=
  CharacterClass.of character = .separator ∨
    CharacterClass.of character = .symbol

/--
A text that starts with no separator has a first run, which is the same whatever follows the
text, as long as that does not join it.
-/
theorem exists_first_run
    {character : Char}
    (visible : CharacterClass.of character ≠ .separator)
    (more : List Char) :
    ∃ taken left,
      character :: more = taken ++ left ∧ taken ≠ [] ∧
        ∀ rest : List Char,
          (∀ next ∈ rest.head?, Parts next) →
          runs (taken ++ (left ++ rest)) =
            ⟨CharacterClass.of character, taken⟩ :: runs (left ++ rest) := by
  by_cases isSymbol : CharacterClass.of character = .symbol
  case pos =>
    exact
      ⟨[character], more, rfl, List.cons_ne_nil _ _,
        fun rest _ => runs_cons_of_apart (.inl isSymbol)⟩
  case neg =>
    generalize isKind : CharacterClass.of character = kind at *
    let ofKind (other : Char) : Bool := CharacterClass.of other = kind
    refine
      ⟨(character :: more).takeWhile ofKind, (character :: more).dropWhile ofKind,
        List.takeWhile_append_dropWhile.symm, by simp [ofKind, isKind], ?_⟩
    intro rest parts
    refine runs_append_of_stops (by simp [ofKind, isKind]) ?_ isSymbol ?_
    · intro other member
      exact of_decide_eq_true (List.all_eq_true.1 List.all_takeWhile other member)
    · intro next isNext same
      have stops := List.head?_dropWhile_not ofKind (character :: more)
      cases stopped : (character :: more).dropWhile ofKind with
      | nil =>
          rw [stopped, List.nil_append] at isNext
          rcases parts next isNext with separates | symbolic
          · exact visible (same.symm.trans separates)
          · exact isSymbol (same.symm.trans symbolic)
      | cons other later =>
          have isOther : other = next := by simpa [stopped] using isNext
          rw [stopped] at stops
          exact of_decide_eq_false stops (isOther ▸ same)

/-- The tokens of a text and what follows it, if that does not join the text. -/
theorem tokensFrom_runs_append
    (offset : Nat)
    (text : List Char)
    {rest : List Char}
    (parts : ∀ next ∈ rest.head?, Parts next) :
    tokensFrom offset (runs (text ++ rest)) =
      (tokensFrom offset (runs text)).bind fun before =>
        (tokensFrom (offset + text.length) (runs rest)).map (before ++ ·) := by
  -- Every step passes a separator or a whole run, so the length is what decreases.
  induction size : text.length using Nat.strongRecOn generalizing offset text with
  | ind size inductionHypothesis =>
      subst size
      cases text with
      | nil =>
          rw [List.nil_append]
          change _ = Except.map (fun after => [] ++ after) (tokensFrom offset (runs rest))
          cases tokensFrom offset (runs rest) with
          | error failure => rfl
          | ok tokens => rfl
      | cons character more =>
          by_cases separates : CharacterClass.of character = .separator
          case pos =>
            have later :=
              inductionHypothesis more.length (Nat.lt_succ_self _) (offset + 1) more rfl
            rw [List.cons_append, tokensFrom_runs_cons_separator _ _ separates,
              tokensFrom_runs_cons_separator _ _ separates, later, List.length_cons,
              Nat.add_right_comm, Nat.add_assoc]
          case neg =>
            obtain ⟨taken, left, shape, nonempty, firstRun⟩ :=
              exists_first_run separates more
            have alone := firstRun [] (fun _ impossible => nomatch impossible)
            rw [List.append_nil] at alone
            have lengths := congrArg List.length shape
            rw [List.length_append] at lengths
            have fewer : left.length < (character :: more).length := by
              have taking := List.length_pos_of_ne_nil nonempty
              omega
            have later :=
              inductionHypothesis left.length fewer (offset + taken.length) left rfl
            rw [Nat.add_assoc, ← lengths] at later
            rw [shape, List.append_assoc, firstRun rest parts, alone, tokensFrom,
              tokensFrom, later, ← shape]
            cases read : token? offset ⟨CharacterClass.of character, taken⟩ with
            | error failure => rfl
            | ok optional =>
                cases optional with
                | none => exact absurd ((token?_eq_none_iff _ _).1 read) separates
                | some token =>
                    cases tokensFrom (offset + taken.length) (runs left) with
                    | error failure => rfl
                    | ok before =>
                        dsimp only [Except.bind, Except.map]
                        cases tokensFrom (offset + (character :: more).length) (runs rest) with
                        | error failure => rfl
                        | ok after => rfl

/-- Separators in front only shift the tokens. -/
theorem tokensFrom_runs_separators
    (offset : Nat)
    {separators : List Char}
    (separate :
      ∀ character ∈ separators, CharacterClass.of character = .separator)
    (rest : List Char) :
    tokensFrom offset (runs (separators ++ rest)) =
      tokensFrom (offset + separators.length) (runs rest) := by
  induction separators generalizing offset with
  | nil => rfl
  | cons character more inductionHypothesis =>
      obtain ⟨first, others⟩ := List.forall_mem_cons.1 separate
      rw [List.cons_append, tokensFrom_runs_cons_separator _ _ first,
        inductionHypothesis _ others, List.length_cons, Nat.add_right_comm,
        Nat.add_assoc]

end Run

section Joining

variable {first second : String}

/-- The results of both parts are joined one after the other. -/
theorem joinedTokens_eq
    (first : String)
    (between : List Token)
    (start : Nat)
    (second : String) :
    joinedTokens first between start second =
      (tokenize first).bind fun before =>
        (shiftedResult start (tokenize second)).map
          (before ++ between ++ ·) := by
  unfold joinedTokens
  cases tokenize first with
  | error failure => rfl
  | ok before =>
      cases tokenize second with
      | error failure => rfl
      | ok after => rfl

/-- What does not join the text in front of it is read on its own. -/
theorem tokenize_append
    {rest : String}
    (parts : ∀ next ∈ rest.toList.head?, Run.Parts next) :
    tokenize (first ++ rest) =
      (tokenize first).bind fun before =>
        (Run.tokensFrom first.length (Run.runs rest.toList)).map
          (before ++ ·) := by
  rw [tokenize_eq_tokensFrom, tokenize_eq_tokensFrom, String.toList_append,
    Run.tokensFrom_runs_append 0 first.toList parts, Nat.zero_add,
    String.length_toList]

/-- The tokens of a text that starts further to the right. -/
theorem tokensFrom_runs_toList
    (offset : Nat)
    (source : String) :
    Run.tokensFrom offset (Run.runs source.toList) =
      shiftedResult offset (tokenize source) := by
  rw [tokenize_eq_tokensFrom, ← Run.tokensFrom_add, Nat.zero_add]

/-- Separators between two parts keep them apart, and have no tokens of their own. -/
theorem tokenize_append_separators
    (first second : String)
    {separators : String}
    (nonempty : separators ≠ "")
    (separate : ∀ character ∈ separators.toList, character ≤ ' ') :
    tokenize (first ++ separators ++ second) =
      joinedTokens first [] (first.length + separators.length) second := by
  have ofClass :
      ∀ character ∈ separators.toList,
        CharacterClass.of character = .separator :=
    fun character member =>
      (CharacterClass.of_eq_separator_iff character).2 (separate character member)
  have parts :
      ∀ next ∈ (separators ++ second).toList.head?, Run.Parts next := by
    intro next isNext
    have notNil : separators.toList ≠ [] := by simpa using nonempty
    obtain ⟨character, more, shape⟩ := List.exists_cons_of_ne_nil notNil
    rw [String.toList_append, shape] at isNext
    cases isNext
    exact .inl (ofClass next (by rw [shape]; exact List.mem_cons_self))
  rw [String.append_assoc, tokenize_append parts, joinedTokens_eq,
    String.toList_append, Run.tokensFrom_runs_separators _ ofClass,
    String.length_toList, tokensFrom_runs_toList]
  simp only [List.append_nil]

/-- A symbol between two parts keeps them apart, and has its token between theirs. -/
theorem tokenize_append_symbol
    (first second : String)
    {symbol : Char}
    (isSymbol : symbol ∈ CharacterClass.symbols) :
    tokenize (first ++ String.singleton symbol ++ second) =
      joinedTokens first [⟨.symbol, String.singleton symbol, first.length⟩]
        (first.length + 1) second := by
  have ofClass : CharacterClass.of symbol = .symbol := by
    have all :
        CharacterClass.symbols.all
          (fun character => CharacterClass.of character == .symbol) = true := by
      decide
    exact eq_of_beq (List.all_eq_true.1 all symbol isSymbol)
  have shape :
      (String.singleton symbol ++ second).toList = symbol :: second.toList := by
    simp
  have text : String.ofList [symbol] = String.singleton symbol :=
    String.toList_injective (by simp)
  have parts :
      ∀ next ∈ (String.singleton symbol ++ second).toList.head?,
        Run.Parts next := by
    intro next isNext
    rw [shape] at isNext
    cases isNext
    exact .inr ofClass
  rw [String.append_assoc, tokenize_append parts, joinedTokens_eq, shape,
    Run.runs_cons_of_apart (.inl ofClass), Run.tokensFrom, Run.token?, ofClass]
  dsimp only [List.length_singleton]
  rw [tokensFrom_runs_toList]
  cases tokenize first with
  | error failure => rfl
  | ok before =>
      cases shiftedResult (first.length + 1) (tokenize second) with
      | error failure => rfl
      | ok after =>
          simp only [Except.bind, Except.map, List.append_assoc,
            List.singleton_append, text]

end Joining

/-- Tokens that are read from their own texts are read from these texts in a row. -/
theorem exists_tokenize_intercalate
    {tokens : List Token}
    (alone :
      ∀ token ∈ tokens,
        tokenize token.lexeme = .ok [⟨token.kind, token.lexeme, 0⟩]) :
    ∃ spaced,
      tokenize (" ".intercalate (tokens.map Token.lexeme)) = .ok spaced ∧
        Token.SameContent spaced tokens := by
  induction tokens with
  | nil => exact ⟨[], rfl, rfl⟩
  | cons token rest inductionHypothesis =>
      obtain ⟨first, others⟩ := List.forall_mem_cons.1 alone
      cases rest with
      | nil =>
          refine ⟨[⟨token.kind, token.lexeme, 0⟩], ?_, rfl⟩
          rw [List.map_singleton, String.intercalate_singleton]
          exact first
      | cons next later =>
          obtain ⟨spaced, read, same⟩ := inductionHypothesis others
          refine
            ⟨⟨token.kind, token.lexeme, 0⟩ ::
              spaced.map (Token.shifted (token.lexeme.length + 1)), ?_, ?_⟩
          · rw [List.map_cons, List.map_cons, String.intercalate_cons_cons,
              ← List.map_cons,
              tokenize_append_separators _ _ (by decide) (by simp),
              joinedTokens, first, read]
            rfl
          · have shiftedSame :=
              (Token.sameContent_map_shifted (token.lexeme.length + 1) spaced).trans
                same
            exact congrArg (token.content :: ·) shiftedSame

/--
Tokenizing goes through text that is put together at a separator or at a symbol. The tokens
are those of the first part and those of the second part, shifted to where it starts, with
the token of the symbol between them. They exist exactly if both parts have tokens, and if
not, the malformed number of the first part is reported before that of the second. So the
texts of all tokens, with a single space between each two, say the same as the source.
-/
theorem tokenize_joined
    (first second : String) :
    (∀ separators : String,
      separators ≠ "" →
      (∀ character ∈ separators.toList, character ≤ ' ') →
      tokenize (first ++ separators ++ second) =
        joinedTokens first [] (first.length + separators.length) second) ∧
    (∀ symbol ∈ CharacterClass.symbols,
      tokenize (first ++ String.singleton symbol ++ second) =
        joinedTokens first
          [⟨.symbol, String.singleton symbol, first.length⟩]
          (first.length + 1) second) ∧
    ∀ tokens,
      tokenize first = .ok tokens →
      ∃ spaced,
        tokenize (" ".intercalate (tokens.map Token.lexeme)) = .ok spaced ∧
          Token.SameContent spaced tokens := by
  refine ⟨?separators, ?symbol, ?spaced⟩
  case separators =>
    exact fun _ nonempty separate =>
      tokenize_append_separators first second nonempty separate
  case symbol =>
    exact fun _ isSymbol => tokenize_append_symbol first second isSymbol
  case spaced =>
    exact fun _ tokenized =>
      exists_tokenize_intercalate fun _ member =>
        tokenize_lexeme_of_mem tokenized member

/-- Of two malformed numbers with a tab between them the first one is reported. -/
theorem tokenize_joined_malformedTwice :
    "\t" ≠ "" ∧ (∀ character ∈ "\t".toList, character ≤ ' ') ∧
      '^' ∈ CharacterClass.symbols ∧
      tokenize ("1.5.2" ++ "\t" ++ "3²") =
        .error ⟨.malformedNumber "1.5.2", some 0⟩ ∧
      tokenize ("x" ++ String.singleton '^' ++ "3²") =
        .error ⟨.malformedNumber "3²", some 2⟩ := by
  have nonempty : "\t" ≠ "" := by decide
  have separate : ∀ character ∈ "\t".toList, character ≤ ' ' := by simp
  have isSymbol : '^' ∈ CharacterClass.symbols := by decide
  refine ⟨nonempty, separate, isSymbol, ?_, ?_⟩
  · rw [(tokenize_joined "1.5.2" "3²").1 "\t" nonempty separate]
    rfl
  · rw [(tokenize_joined "x" "3²").2.1 '^' isSymbol]
    rfl

end Reckoner
