import Mathlib.Data.List.Chain
import Reckoner.Proofs.Token.Lexeme

namespace Reckoner

/-!
# The cut of a source into runs

A source can be cut in just one way into pieces of one class each, such that neighbours of
one class are never apart, and symbols always are. The runs are this cut, so whatever is
said of all cuts is said of the runs, without knowing how they are found.
-/

namespace Run

/-- A cut of a source into its longest pieces of one class, and into single symbols. -/
structure IsCut
    (source : List Char)
    (pieces : List Run) : Prop where
  covers : pieces.flatMap Run.text = source
  nonempty : ∀ piece ∈ pieces, piece.text ≠ []
  ofKind :
    ∀ piece ∈ pieces,
      ∀ character ∈ piece.text,
        CharacterClass.of character = piece.kind
  single : ∀ piece ∈ pieces, piece.kind = .symbol → piece.text.length = 1
  longest :
    pieces.IsChain fun first second =>
      first.kind = second.kind → first.kind = .symbol

namespace IsCut

/-- What follows the first piece of a cut is a cut of its own. -/
theorem tail
    {source : List Char}
    {piece : Run}
    {pieces : List Run}
    (cut : IsCut source (piece :: pieces)) :
    IsCut (pieces.flatMap Run.text) pieces where
  covers := rfl
  nonempty other member := cut.nonempty other (List.mem_cons_of_mem _ member)
  ofKind other member := cut.ofKind other (List.mem_cons_of_mem _ member)
  single other member := cut.single other (List.mem_cons_of_mem _ member)
  longest := cut.longest.tail

/-- Behind a piece that is no symbol the class changes. -/
theorem changes
    {source : List Char}
    {piece : Run}
    {pieces : List Run}
    (cut : IsCut source (piece :: pieces))
    (notSymbol : piece.kind ≠ .symbol) :
    ∀ next ∈ (pieces.flatMap Run.text).head?,
      CharacterClass.of next ≠ piece.kind := by
  intro next isNext same
  cases pieces with
  | nil => cases isNext
  | cons second others =>
      obtain ⟨first, more, shape⟩ :=
        List.exists_cons_of_ne_nil (cut.nonempty second (by simp))
      have isFirst : next = first := by
        simpa [shape] using isNext.symm
      subst isFirst
      have ofSecond : CharacterClass.of next = second.kind :=
        cut.ofKind second (by simp) next (by simp [shape])
      have apart : piece.kind = second.kind → piece.kind = .symbol :=
        (List.isChain_cons_cons.1 cut.longest).1
      exact notSymbol (apart (same.symm.trans ofSecond))

/-- There is no other cut than the runs. -/
theorem eq_runs
    {source : List Char}
    {pieces : List Run}
    (cut : IsCut source pieces) :
    pieces = runs source := by
  induction pieces generalizing source with
  | nil =>
      rw [← cut.covers]
      rfl
  | cons piece pieces inductionHypothesis =>
      have covers : piece.text ++ pieces.flatMap Run.text = source :=
        cut.covers
      have rest : pieces = runs (pieces.flatMap Run.text) :=
        inductionHypothesis cut.tail
      have ofKind := cut.ofKind piece List.mem_cons_self
      rw [← covers]
      by_cases isSymbol : piece.kind = .symbol
      · obtain ⟨character, alone⟩ :=
          List.length_eq_one_iff.1
            (cut.single piece List.mem_cons_self isSymbol)
        have ofCharacter : CharacterClass.of character = .symbol := by
          rw [← isSymbol]
          exact ofKind character (by simp [alone])
        rw [alone, List.singleton_append,
          runs_cons_of_apart (.inl ofCharacter), ← rest, ofCharacter,
          ← isSymbol, ← alone]
      · rw [runs_append_of_stops (cut.nonempty piece List.mem_cons_self)
          ofKind isSymbol (cut.changes isSymbol), ← rest]

end IsCut

/-- Symbols are runs of a single character. -/
theorem length_eq_one_of_symbol
    {source : List Char}
    {run : Run}
    (member : run ∈ runs source)
    (isSymbol : run.kind = .symbol) :
    run.text.length = 1 := by
  have single :
      ∀ piece ∈ runs source, piece.kind = .symbol → piece.text.length = 1 :=
    forall_mem_runs (by simp)
      (fun _ _ _ notSymbol _ isSymbol => absurd isSymbol notSymbol)
      source
  exact single run member isSymbol

/-- Neighbouring runs differ in their class, unless both are symbols. -/
theorem isChain_runs
    (source : List Char) :
    (runs source).IsChain fun first second =>
      first.kind = second.kind → first.kind = .symbol := by
  induction source with
  | nil => exact .nil
  | cons character rest inductionHypothesis =>
      change (prepend character (runs rest)).IsChain _
      cases shape : runs rest with
      | nil => exact .singleton _
      | cons next others =>
          rw [shape] at inductionHypothesis
          simp only [prepend]
          split
          case isTrue =>
            cases others with
            | nil => exact .singleton _
            | cons second more =>
                obtain ⟨apart, later⟩ :=
                  List.isChain_cons_cons.1 inductionHypothesis
                exact List.isChain_cons_cons.2 ⟨apart, later⟩
          case isFalse separate =>
            refine
              List.isChain_cons_cons.2 ⟨fun same => ?_, inductionHypothesis⟩
            by_contra notSymbol
            exact separate ⟨same.symm, fun isSymbol =>
              notSymbol (same.trans isSymbol)⟩

/-- The runs are a cut of the source. -/
theorem isCut_runs
    (source : List Char) :
    IsCut source (runs source) where
  covers := flatten_runs source
  nonempty _ := text_ne_nil
  ofKind _ member _ := of_mem_text member
  single _ := length_eq_one_of_symbol
  longest := isChain_runs source

/-- The cuts of a source are its runs. -/
theorem isCut_iff
    {source : List Char}
    {pieces : List Run} :
    IsCut source pieces ↔ pieces = runs source := by
  constructor
  · exact IsCut.eq_runs
  · rintro rfl
    exact isCut_runs source

/-- A run is the only run of its own text. -/
theorem runs_text
    {source : List Char}
    {run : Run}
    (member : run ∈ runs source) :
    runs run.text = [run] := by
  have alone : IsCut run.text [run] := {
    covers := by simp
    nonempty := by simpa using text_ne_nil member
    ofKind := by simpa using fun _ => of_mem_text member
    single := by simpa using length_eq_one_of_symbol member
    longest := .singleton run
  }
  exact alone.eq_runs.symm

end Run

end Reckoner
