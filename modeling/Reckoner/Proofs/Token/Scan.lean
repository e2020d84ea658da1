import Reckoner.Token.Scan

namespace Reckoner

/-!
# Scanning finds the runs

A scan that has come to some character knows nothing of the source but the characters it
holds back. They are the beginning of a run that may go on, so what the scan still has to
find are the tokens of the runs of these characters and the rest. This is invariant under
every step, and at the first character it says that scanning gives the tokens of the runs.
-/

namespace Run

/-- The runs of a text start with a run of the class of its first character. -/
theorem exists_runs_cons
    (character : Char)
    (rest : List Char) :
    ∃ joined others,
      runs (character :: rest) =
        ⟨.of character, character :: joined⟩ :: others := by
  change ∃ joined others, prepend character (runs rest) = _
  cases runs rest with
  | nil => exact ⟨[], [], rfl⟩
  | cons run others =>
      simp only [prepend]
      split
      case isTrue joins => exact ⟨run.text, others, by rw [joins.1]⟩
      case isFalse => exact ⟨[], run :: others, rfl⟩

/-- A character is a run by itself where the next one does not join it. -/
theorem runs_cons_of_apart
    {character : Char}
    {rest : List Char}
    (apart :
      CharacterClass.of character = .symbol ∨
        ∀ next ∈ rest.head?,
          CharacterClass.of next ≠ CharacterClass.of character) :
    runs (character :: rest) =
      ⟨.of character, [character]⟩ :: runs rest := by
  cases rest with
  | nil => rfl
  | cons next later =>
      obtain ⟨joined, others, shape⟩ := exists_runs_cons next later
      change prepend character (runs (next :: later)) = _
      have separate :
          ¬ (CharacterClass.of next = .of character ∧
            CharacterClass.of next ≠ .symbol) := by
        rintro ⟨same, notSymbol⟩
        rcases apart with isSymbol | differs
        · exact notSymbol (same.trans isSymbol)
        · exact differs next rfl same
      rw [shape]
      simp only [prepend, if_neg separate]

/-- A character joins the run that the next one of its class starts. -/
theorem runs_cons_of_joins
    {character next : Char}
    {rest joined : List Char}
    {others : List Run}
    (shape :
      runs (next :: rest) = ⟨.of next, next :: joined⟩ :: others)
    (same : CharacterClass.of next = .of character)
    (notSymbol : CharacterClass.of next ≠ .symbol) :
    runs (character :: next :: rest) =
      ⟨.of next, character :: next :: joined⟩ :: others := by
  change prepend character (runs (next :: rest)) = _
  rw [shape]
  simp only [prepend, if_pos (And.intro same notSymbol)]

/-- Characters of one class up to one of another class are a run. -/
theorem runs_append_of_stops
    {kind : CharacterClass}
    {text rest : List Char}
    (nonempty : text ≠ [])
    (ofKind : ∀ character ∈ text, CharacterClass.of character = kind)
    (notSymbol : kind ≠ .symbol)
    (stops : ∀ next ∈ rest.head?, CharacterClass.of next ≠ kind) :
    runs (text ++ rest) = ⟨kind, text⟩ :: runs rest := by
  induction text with
  | nil => exact absurd rfl nonempty
  | cons character more inductionHypothesis =>
      have first : CharacterClass.of character = kind :=
        ofKind character List.mem_cons_self
      cases more with
      | nil =>
          rw [← first] at stops
          rw [List.singleton_append, runs_cons_of_apart (.inr stops), first]
      | cons next later =>
          have second : CharacterClass.of next = kind :=
            ofKind next (by simp)
          have shape :=
            inductionHypothesis (by simp)
              fun other member => ofKind other (List.mem_cons_of_mem _ member)
          rw [← second] at shape notSymbol first ⊢
          exact runs_cons_of_joins shape first.symm notSymbol

/-- A separator in front of runs only shifts their offsets. -/
theorem tokensFrom_runs_cons_separator
    (offset : Nat)
    {character : Char}
    (rest : List Char)
    (separates : CharacterClass.of character = .separator) :
    tokensFrom offset (runs (character :: rest)) =
      tokensFrom (offset + 1) (runs rest) := by
  cases rest with
  | nil => simp [runs, prepend, tokensFrom, token?, separates]
  | cons next later =>
      by_cases same : CharacterClass.of next = .separator
      · obtain ⟨joined, others, shape⟩ := exists_runs_cons next later
        rw [runs_cons_of_joins shape (same.trans separates.symm)
          (by simp [same]), shape]
        simp [tokensFrom, token?, same, Nat.add_assoc, Nat.add_comm]
      · rw [runs_cons_of_apart
          (.inr fun other isNext => by
            cases isNext
            rwa [separates])]
        simp [tokensFrom, token?, separates]

end Run

namespace ScanPhase

/-- The class of the characters that a phase collects. -/
def collected : ScanPhase → CharacterClass
  | .start => .separator
  | .number => .numeric
  | .operator => .symbol
  | .identifier => .word

/-- Whether the characters of a phase are held back. -/
def Holds
    (phase : ScanPhase) :
    Prop :=
  phase = .number ∨ phase = .identifier

/-- No two phases collect characters of the same class. -/
theorem collected_injective :
    Function.Injective collected := by
  intro first second same
  cases first <;> cases second <;> first | rfl | cases same

/-- Symbols are never held back. -/
theorem Holds.ne_symbol
    {phase : ScanPhase}
    (holds : phase.Holds) :
    phase.collected ≠ .symbol := by
  rcases holds with rfl | rfl
  · simp [collected]
  · simp [collected]

/-- Separators are never held back. -/
theorem Holds.ne_separator
    {phase : ScanPhase}
    (holds : phase.Holds) :
    phase.collected ≠ .separator := by
  rcases holds with rfl | rfl
  · simp [collected]
  · simp [collected]

/-- The token of a run is that of the phase which collects it. -/
theorem Holds.token?_eq
    {phase : ScanPhase}
    (holds : phase.Holds)
    (offset : Nat)
    (text : List Char) :
    Run.token? offset ⟨phase.collected, text⟩ =
      (Scan.classify phase text offset).map some := by
  rcases holds with rfl | rfl
  · simp only [Run.token?, Scan.classify, collected, if_true]
    cases Run.isNumeral text <;> rfl
  · rfl

end ScanPhase

namespace Scan

/-- What a scan holds back at an offset is the beginning of a number or a word. -/
structure Consistent
    (position : Nat)
    (scan : Scan) : Prop where
  ofPhase :
    ∀ character ∈ scan.held,
      CharacterClass.of character = scan.phase.collected
  holds : scan.held ≠ [] ↔ scan.phase.Holds
  heldFrom : scan.held ≠ [] → scan.heldFrom + scan.held.length = position

/-- A scan that holds nothing back is consistent outside of numbers and words. -/
theorem Consistent.ofNothingHeld
    (position : Nat)
    {scan : Scan}
    (nothing : scan.held = [])
    (outside : ¬ scan.phase.Holds) :
    scan.Consistent position where
  ofPhase character member := by
    rw [nothing] at member
    cases member
  holds := by simp [nothing, outside]
  heldFrom something := absurd nothing something

/-- The tokens of a scan if what it holds back and the rest are cut into runs. -/
def completed
    (position : Nat)
    (rest : List Char)
    (scan : Scan) :
    Except Failure (List Token) :=
  (Run.tokensFrom (position - scan.held.length)
    (Run.runs (scan.held.reverse ++ rest))).map (scan.tokens.reverse ++ ·)

/-- With nothing held back only the rest is cut into runs. -/
theorem completed_of_nothing_held
    (position : Nat)
    (rest : List Char)
    {scan : Scan}
    (nothing : scan.held = []) :
    scan.completed position rest =
      (Run.tokensFrom position (Run.runs rest)).map
        (scan.tokens.reverse ++ ·) := by
  simp [completed, nothing]

/-- What is mapped in two steps is mapped in one. -/
private theorem map_map
    (result : Except Failure (List Token))
    (first second : List Token → List Token) :
    (result.map first).map second = result.map fun tokens =>
      second (first tokens) := by
  cases result <;> rfl

/-- A flush leaves nothing held back, in the phase it happens in. -/
theorem held_of_flush
    {scan flushed : Scan}
    (ran : scan.flush = .ok flushed) :
    flushed.held = [] := by
  unfold flush at ran
  split at ran
  case isTrue nothing =>
    cases ran
    exact nothing
  case isFalse =>
    cases classified : classify scan.phase scan.held.reverse scan.heldFrom with
    | error failure =>
        rw [classified] at ran
        cases ran
    | ok token =>
        rw [classified] at ran
        cases ran
        rfl

/-- A flush makes the token of the run that ends where the class changes. -/
theorem completed_flush
    {scan : Scan}
    {position : Nat}
    {rest : List Char}
    (consistent : scan.Consistent position)
    (stops :
      scan.phase.Holds →
      ∀ next ∈ rest.head?,
        CharacterClass.of next ≠ scan.phase.collected) :
    scan.flush.bind (completed position rest) =
      scan.completed position rest := by
  by_cases nothing : scan.held = []
  · rw [flush, if_pos nothing]
    rfl
  have holds := consistent.holds.1 nothing
  have shape :
      Run.runs (scan.held.reverse ++ rest) =
        ⟨scan.phase.collected, scan.held.reverse⟩ :: Run.runs rest :=
    Run.runs_append_of_stops (by simpa using nothing)
      (fun character member =>
        consistent.ofPhase character (List.mem_reverse.1 member))
      holds.ne_symbol (stops holds)
  have origin : position - scan.held.length = scan.heldFrom := by
    rw [← consistent.heldFrom nothing, Nat.add_sub_cancel]
  have behind : scan.heldFrom + scan.held.reverse.length = position := by
    rw [List.length_reverse, consistent.heldFrom nothing]
  rw [completed, shape, origin, flush, if_neg nothing, Run.tokensFrom,
    holds.token?_eq, behind]
  cases classify scan.phase scan.held.reverse scan.heldFrom with
  | error failure => rfl
  | ok token =>
      have released :
          completed position rest
              { scan with held := [], tokens := token :: scan.tokens } =
            (Run.tokensFrom position (Run.runs rest)).map
              ((token :: scan.tokens).reverse ++ ·) :=
        completed_of_nothing_held position rest rfl
      refine released.trans ?_
      change _ = Except.map _ (Except.map (token :: ·) _)
      simp only [map_map, List.reverse_cons, List.append_assoc,
        List.singleton_append]

/--
A step from an offset past a character keeps a scan consistent, and what the scan will
find in the end.
-/
structure Tracks
    (scan : Scan)
    (position : Nat)
    (character : Char)
    (stepped : Except Failure Scan) : Prop where
  consistent :
    ∀ next,
      stepped = .ok next →
      next.Consistent (position + 1)
  completed :
    ∀ rest,
      stepped.bind (completed (position + 1) rest) =
        scan.completed position (character :: rest)

namespace Tracks

variable {scan : Scan}
variable {position : Nat}
variable {character : Char}

/-- A step that flushes first is judged by what it does when nothing is held back. -/
theorem afterFlush
    (isConsistent : scan.Consistent position)
    (changes :
      scan.phase.Holds →
      CharacterClass.of character ≠ scan.phase.collected)
    {change : Scan → Scan}
    (tracks :
      ∀ flushed : Scan,
        flushed.held = [] →
        Tracks flushed position character (.ok (change flushed))) :
    Tracks scan position character (scan.flush.map change) where
  consistent next stepped := by
    cases flushes : scan.flush with
    | error failure =>
        rw [flushes] at stepped
        cases stepped
    | ok flushed =>
        rw [flushes] at stepped
        exact (tracks flushed (held_of_flush flushes)).consistent next stepped
  completed rest := by
    rw [← completed_flush isConsistent
      fun holds next isNext => by
        cases isNext
        exact changes holds]
    cases flushes : scan.flush with
    | error failure => rfl
    | ok flushed =>
        exact (tracks flushed (held_of_flush flushes)).completed rest

/-- A character that is held back starts a number or a word, or lets it grow. -/
theorem hold
    (isConsistent : scan.Consistent position)
    {phase : ScanPhase}
    (holds : phase.Holds)
    (ofPhase : CharacterClass.of character = phase.collected) :
    Tracks scan position character (scan.hold phase position character) := by
  unfold Scan.hold
  split
  case isTrue same =>
    subst same
    have heldFrom := isConsistent.heldFrom (isConsistent.holds.2 holds)
    exact {
      consistent := by
        rintro next ⟨⟩
        exact {
          ofPhase := List.forall_mem_cons.2 ⟨ofPhase, isConsistent.ofPhase⟩
          holds := by simp [holds]
          heldFrom := fun _ => by simp [← heldFrom, Nat.add_assoc]
        }
      completed := fun rest => by simp [Except.bind, Scan.completed]
    }
  case isFalse differs =>
    refine afterFlush isConsistent
      (fun _ same =>
        differs (ScanPhase.collected_injective (ofPhase.symm.trans same)).symm)
      fun flushed nothing => ?_
    exact {
      consistent := by
        rintro next ⟨⟩
        exact {
          ofPhase := by simpa [nothing] using ofPhase
          holds := by simp [holds]
          heldFrom := fun _ => by simp [nothing]
        }
      completed := fun rest => by
        rw [completed_of_nothing_held _ _ nothing]
        simp [Except.bind, Scan.completed, nothing]
    }

/-- Every step keeps track of the tokens. -/
theorem step
    (isConsistent : scan.Consistent position)
    (character : Char) :
    Tracks scan position character (scan.step position character) := by
  unfold Scan.step
  cases ofCharacter : CharacterClass.of character with
  | numeric => exact .hold isConsistent (.inl rfl) ofCharacter
  | word => exact .hold isConsistent (.inr rfl) ofCharacter
  | separator =>
      refine afterFlush isConsistent
        (fun holds => ofCharacter ▸ holds.ne_separator.symm)
        fun flushed nothing => ?_
      exact {
        consistent := by
          rintro next ⟨⟩
          exact .ofNothingHeld _ nothing (by simp [ScanPhase.Holds])
        completed := fun rest => by
          rw [completed_of_nothing_held _ _ nothing,
            Run.tokensFrom_runs_cons_separator _ _ ofCharacter]
          exact completed_of_nothing_held _ _ nothing
      }
  | symbol =>
      refine afterFlush isConsistent
        (fun holds => ofCharacter ▸ holds.ne_symbol.symm)
        fun flushed nothing => ?_
      exact {
        consistent := by
          rintro next ⟨⟩
          exact .ofNothingHeld _ nothing (by simp [ScanPhase.Holds])
        completed := fun rest => by
          rw [completed_of_nothing_held _ _ nothing,
            Run.runs_cons_of_apart (.inl ofCharacter), ofCharacter]
          change
            Scan.completed (position + 1) rest _ =
              Except.map _ (Except.map (_ :: ·) _)
          rw [completed_of_nothing_held _ _ (by exact nothing)]
          simp only [map_map, List.reverse_cons, List.append_assoc,
            List.singleton_append]
          rfl
      }

end Tracks

/-- From a consistent scan on, the tokens are those of the runs to come. -/
theorem map_run
    {scan : Scan}
    {position : Nat}
    (consistent : scan.Consistent position)
    (rest : List Char) :
    ((scan.run position rest).map fun last => last.tokens.reverse) =
      scan.completed position rest := by
  induction rest generalizing scan position with
  | nil =>
      rw [← completed_flush consistent (fun _ _ impossible => by cases impossible),
        run]
      cases flushes : scan.flush with
      | error failure => rfl
      | ok flushed =>
          refine Eq.trans ?_
            (completed_of_nothing_held position [] (held_of_flush flushes)).symm
          simp [Run.runs, Run.tokensFrom, Except.map]
  | cons character rest inductionHypothesis =>
      have tracks := Tracks.step consistent character
      rw [← tracks.completed rest, run]
      cases stepped : scan.step position character with
      | error failure => rfl
      | ok next => exact inductionHypothesis (tracks.consistent next stepped)

end Scan

/-- Scanning gives the tokens of the runs of the source. -/
theorem tokenize_eq_tokensFrom
    (source : String) :
    tokenize source = Run.tokensFrom 0 (Run.runs source.toList) := by
  have consistent : Scan.initial.Consistent 0 :=
    .ofNothingHeld 0 rfl (by simp [Scan.initial, ScanPhase.Holds])
  have completed :
      Scan.initial.completed 0 source.toList =
        (Run.tokensFrom 0 (Run.runs source.toList)).map ([] ++ ·) :=
    rfl
  rw [tokenize, Scan.map_run consistent, completed]
  cases Run.tokensFrom 0 (Run.runs source.toList) <;> rfl

end Reckoner
