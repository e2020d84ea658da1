import Reckoner.Proofs.Token.Exactness
import Reckoner.Text.Blank

namespace Reckoner

/-!
# Texts that are read as one identifier

A text with a single token consists of that token and of separators on both sides of it.
If the token is an identifier, the name that is read is the text without the separators,
which need not be the text itself. The names of identifiers have no separators, and each
of them is read as itself.
-/

namespace Text

variable {inClass : Char → Bool}

/-- Nothing is dropped behind the first character that is not in the class. -/
private theorem dropWhile_append_of_head
    {before rest : List Char}
    (inside : ∀ character ∈ before, inClass character = true)
    (stops : ∀ character ∈ rest.head?, inClass character = false) :
    (before ++ rest).dropWhile inClass = rest := by
  rw [List.dropWhile_append_of_pos inside]
  cases rest with
  | nil => rfl
  | cons first later => simp [stops first rfl]

/-- Trimming takes away what is in the class on both sides of what is not. -/
theorem trimBoth_surrounded
    {before text after : List Char}
    (beforeInside : ∀ character ∈ before, inClass character = true)
    (outside : ∀ character ∈ text, inClass character = false)
    (nonempty : text ≠ [])
    (afterInside : ∀ character ∈ after, inClass character = true) :
    trimBoth inClass (before ++ text ++ after) = text := by
  have front :
      (before ++ (text ++ after)).dropWhile inClass = text ++ after := by
    refine dropWhile_append_of_head beforeInside fun character isFirst => ?_
    obtain ⟨first, rest, shape⟩ := List.exists_cons_of_ne_nil nonempty
    have same : first = character := by simpa [shape] using isFirst
    exact outside character (by simp [shape, same])
  have back :
      (after.reverse ++ text.reverse).dropWhile inClass = text.reverse := by
    refine
      dropWhile_append_of_head
        (fun character member => afterInside character (List.mem_reverse.1 member))
        fun character isFirst => ?_
    exact outside character (List.mem_reverse.1 (List.mem_of_mem_head? isFirst))
  rw [trimBoth, List.append_assoc, front, List.reverse_append, back,
    List.reverse_reverse]

end Text

/-- Whether a character separates tokens. -/
def CharacterClass.separates
    (character : Char) :
    Bool :=
  character ≤ ' '

/-- A token between separators, which are all that a source has besides it. -/
structure Token.Alone
    (source : List Char)
    (token : Token) : Prop where
  trimmed :
    Text.trimBoth CharacterClass.separates source = token.lexeme.toList
  position :
    token.position = (source.takeWhile CharacterClass.separates).length

/-- The only token of a source is alone in it. -/
theorem Token.alone_of_tokenize
    {source : String}
    {token : Token}
    (tokenized : tokenize source = .ok [token]) :
    token.Alone source.toList := by
  have isOnly := eq_ofRuns_of_tokenize tokenized
  obtain ⟨place, member, kept, rfl⟩ :=
    exists_of_mem_ofRuns (isOnly ▸ List.mem_singleton_self token)
  obtain ⟨inRuns, before, after, parts, start⟩ := Run.exists_of_mem_placed member
  rw [Run.flatten_runs] at parts
  rw [Nat.zero_add] at start
  have separated :
      ∀ (offset : Nat) character,
        source.toList[offset]? = some character →
        offset < place.1 ∨ place.1 + place.2.text.length ≤ offset →
        CharacterClass.separates character = true := by
    intro offset character found outside
    refine decide_eq_true (le_space_of_uncovered found fun other isToken => ?_)
    rw [← isOnly, List.mem_singleton] at isToken
    rw [isToken, endPosition_tokenAt]
    exact outside
  have beforeSeparates :
      ∀ character ∈ before, CharacterClass.separates character = true := by
    intro character isBefore
    obtain ⟨index, found⟩ := List.mem_iff_getElem?.1 isBefore
    have inside : index < before.length := (List.getElem?_eq_some_iff.1 found).1
    refine separated index character ?_ (.inl (by omega))
    rw [parts, List.append_assoc, List.getElem?_append_left inside, found]
  have afterSeparates :
      ∀ character ∈ after, CharacterClass.separates character = true := by
    intro character isAfter
    obtain ⟨index, found⟩ := List.mem_iff_getElem?.1 isAfter
    refine
      separated ((before ++ place.2.text).length + index) character ?_
        (.inr (by rw [List.length_append]; omega))
    rw [parts, List.getElem?_append_right (Nat.le_add_right _ _),
      Nat.add_sub_cancel_left, found]
  have visible :
      ∀ character ∈ place.2.text,
        CharacterClass.separates character = false :=
    fun character inside =>
      decide_eq_false (Run.not_le_space_of_kept inRuns kept inside)
  have nonempty := Run.text_ne_nil inRuns
  exact {
    trimmed := by
      rw [parts, Text.trimBoth_surrounded beforeSeparates visible nonempty
        afterSeparates]
      exact String.toList_ofList.symm
    position := by
      obtain ⟨first, rest, shape⟩ := List.exists_cons_of_ne_nil nonempty
      have stops : CharacterClass.separates first = false :=
        visible first (by simp [shape])
      rw [parts, List.append_assoc,
        List.takeWhile_append_of_pos beforeSeparates, shape]
      simp [Run.tokenAt, start, stops]
  }

/-- A text that is read as one identifier is that name, up to separators around it. -/
theorem tokenize_of_isIdentifier
    {text : String}
    (accepted : isIdentifier text = true) :
    tokenize text =
      .ok [⟨
        .identifier,
        String.ofList (Text.trimBoth CharacterClass.separates text.toList),
        (text.toList.takeWhile CharacterClass.separates).length
      ⟩] := by
  unfold isIdentifier at accepted
  split at accepted
  case h_1 token tokenized =>
    have alone := Token.alone_of_tokenize tokenized
    rcases token with ⟨kind, lexeme, position⟩
    have isIdentifier : kind = .identifier := by simpa using accepted
    have isPosition := alone.position
    have trimmed := alone.trimmed
    dsimp only at isPosition trimmed
    rw [tokenized, isIdentifier, trimmed, isPosition, String.ofList_toList]
  case h_2 => cases accepted

/-- A run has the same token at every other offset, but for its position. -/
theorem Run.token?_at
    {offset : Nat}
    {run : Run}
    {token : Token}
    (read : run.token? offset = .ok (some token))
    (other : Nat) :
    run.token? other = .ok (some { token with position := other }) := by
  unfold token? at read ⊢
  cases kind : run.kind with
  | separator =>
      rw [kind] at read
      cases read
  | symbol =>
      rw [kind] at read
      cases read
      rfl
  | word =>
      rw [kind] at read
      cases read
      rfl
  | numeric =>
      rw [kind] at read
      dsimp only at read ⊢
      split at read
      case isTrue recognized =>
        cases read
        rw [if_pos recognized]
      case isFalse => cases read

/-- The text of a token of a source is read as that token. -/
theorem tokenize_lexeme_of_mem
    {source : String}
    {tokens : List Token}
    (tokenized : tokenize source = .ok tokens)
    {token : Token}
    (member : token ∈ tokens) :
    tokenize token.lexeme = .ok [⟨token.kind, token.lexeme, 0⟩] := by
  rw [tokenize_eq_tokensFrom] at tokenized
  obtain ⟨run, ofRuns, start, read⟩ :=
    Run.exists_of_mem_tokensFrom tokenized member
  have alone :
      tokenize token.lexeme = Run.tokensFrom 0 [run] := by
    rw [Run.lexeme_of_token? read, tokenize_eq_tokensFrom, String.toList_ofList,
      Run.runs_text ofRuns]
  rw [alone, Run.tokensFrom, Run.token?_at read 0]
  rfl

/-- The name of an identifier of a source is read as that identifier. -/
theorem tokenize_lexeme
    {source : String}
    {tokens : List Token}
    (tokenized : tokenize source = .ok tokens)
    {token : Token}
    (member : token ∈ tokens)
    (isName : token.kind = .identifier) :
    tokenize token.lexeme = .ok [⟨.identifier, token.lexeme, 0⟩] := by
  rw [tokenize_lexeme_of_mem tokenized member, isName]

end Reckoner
