import Reckoner.Proofs.Token.Exactness

namespace Reckoner

/-!
# The offsets of tokens

Tokens that are scanned are not empty and do not overlap. So an offset tells which
token is meant, and the end of all tokens is no offset of any of them. What the source
has at the offset of a token is the text of the token.
-/

/-- A text that stands in a source at an offset. -/
def StandsAt
    (source : String)
    (position : Nat)
    (text : String) :
    Prop :=
  ∃ before after,
    source.toList = before ++ text.toList ++ after ∧ before.length = position

/-- A text ends within the source it stands in. -/
theorem StandsAt.end_le_length
    {source text : String}
    {position : Nat}
    (stands : StandsAt source position text) :
    position + text.length ≤ source.length := by
  obtain ⟨before, after, split, start⟩ := stands
  have lengths := congrArg List.length split
  simp only [List.length_append, String.length_toList, start] at lengths
  omega

/-- There is nothing at an offset within the source, and it stands there. -/
theorem StandsAt.ofNothing
    {source : String}
    {position : Nat}
    (within : position ≤ source.length) :
    StandsAt source position "" := by
  refine
    ⟨source.toList.take position, source.toList.drop position, ?_, ?_⟩
  · simp
  · exact List.length_take_of_le (by rwa [String.length_toList])

namespace Token

/-- The text of a token that is scanned is not empty. -/
theorem position_lt_endPosition_of_tokenize
    {source : String}
    {tokens : List Token}
    (tokenized : tokenize source = .ok tokens)
    {token : Token}
    (member : token ∈ tokens) :
    token.position < token.endPosition := by
  obtain rfl := eq_ofRuns_of_tokenize tokenized
  obtain ⟨place, placed, _, rfl⟩ := exists_of_mem_ofRuns member
  have inRuns := (Run.exists_of_mem_placed placed).1
  rw [endPosition_tokenAt]
  exact
    Nat.lt_add_of_pos_right
      (List.length_pos_of_ne_nil (Run.text_ne_nil inRuns))

/-- Tokens that are scanned stand one behind the other. -/
theorem apart_of_tokenize
    {source : String}
    {tokens : List Token}
    (tokenized : tokenize source = .ok tokens) :
    tokens.Pairwise fun first second =>
      first.endPosition ≤ second.position := by
  obtain rfl := eq_ofRuns_of_tokenize tokenized
  exact apart_ofRuns _

/-- No token that is scanned stands at the end of all of them. -/
theorem position_lt_endOfAll
    {source : String}
    {tokens : List Token}
    (tokenized : tokenize source = .ok tokens)
    {token : Token}
    (member : token ∈ tokens) :
    token.position < endOfAll tokens :=
  Nat.lt_of_lt_of_le
    (position_lt_endPosition_of_tokenize tokenized member)
    (endPosition_le_endOfAll (apart_of_tokenize tokenized) member)

/-- The offset of a token that is scanned tells which token it is. -/
theorem index_eq_of_position_eq
    {source : String}
    {tokens : List Token}
    (tokenized : tokenize source = .ok tokens)
    {index other : Nat}
    {token otherToken : Token}
    (found : tokens[index]? = some token)
    (otherFound : tokens[other]? = some otherToken)
    (same : token.position = otherToken.position) :
    index = other := by
  have ordered :
      ∀ {first second : Nat} {firstToken secondToken : Token},
        tokens[first]? = some firstToken →
        tokens[second]? = some secondToken →
        first < second →
        firstToken.position < secondToken.position := by
    intro first second firstToken secondToken isFirst isSecond before
    obtain ⟨firstWithin, rfl⟩ := List.getElem?_eq_some_iff.1 isFirst
    obtain ⟨secondWithin, rfl⟩ := List.getElem?_eq_some_iff.1 isSecond
    have apart :=
      List.pairwise_iff_getElem.1 (apart_of_tokenize tokenized) first second
        firstWithin secondWithin before
    exact
      Nat.lt_of_lt_of_le
        (position_lt_endPosition_of_tokenize tokenized
          (List.getElem_mem firstWithin))
        apart
  rcases Nat.lt_trichotomy index other with before | rfl | behind
  · exact absurd same (Nat.ne_of_lt (ordered found otherFound before))
  · rfl
  · exact absurd same.symm (Nat.ne_of_lt (ordered otherFound found behind))

/-- A token that is scanned stands at its position. -/
theorem standsAt_of_tokenize
    {source : String}
    {tokens : List Token}
    (tokenized : tokenize source = .ok tokens)
    {token : Token}
    (member : token ∈ tokens) :
    StandsAt source token.position token.lexeme := by
  obtain rfl := eq_ofRuns_of_tokenize tokenized
  obtain ⟨place, placed, _, rfl⟩ := exists_of_mem_ofRuns member
  obtain ⟨_, before, after, split, start⟩ := Run.exists_of_mem_placed placed
  rw [Run.flatten_runs] at split
  refine ⟨before, after, ?_, ?_⟩
  · simpa [Run.tokenAt] using split
  · simpa [Run.tokenAt] using start.symm

/-- A token that is scanned has a text. -/
theorem lexeme_ne_empty_of_tokenize
    {source : String}
    {tokens : List Token}
    (tokenized : tokenize source = .ok tokens)
    {token : Token}
    (member : token ∈ tokens) :
    token.lexeme ≠ "" := by
  intro isEmpty
  have advances := position_lt_endPosition_of_tokenize tokenized member
  rw [endPosition, isEmpty] at advances
  exact Nat.lt_irrefl _ advances

/-- The end of the tokens is within the source. -/
theorem endOfAll_le_length
    {source : String}
    {tokens : List Token}
    (tokenized : tokenize source = .ok tokens) :
    endOfAll tokens ≤ source.length := by
  rcases List.eq_nil_or_concat' tokens with rfl | ⟨before, last, rfl⟩
  · exact Nat.zero_le _
  · rw [endOfAll_append_singleton]
    exact (standsAt_of_tokenize tokenized (by simp)).end_le_length

end Token

end Reckoner
