import Reckoner.Proofs.Evaluation.Climbing
import Reckoner.Proofs.Evaluation.Record

namespace Reckoner

/-!
# The path of a stream

What an evaluation puts on record is a path of its stream: every token it passes is the
next one of the stream and is on record, right before it is passed, with the one consumer
that takes it. A meaning is carried out only right behind a token that the start of an
operand or the loop has taken, so there are no more of them than tokens.

A path keeps a floor. Before the floor, in tokens passed, no level of nesting is missing.
-/

/-- Skipping tokens passes them. -/
@[simp] theorem TokenStream.passed_skip
    (stream : TokenStream)
    (count : Nat) :
    (stream.skip count).passed = stream.passed + count :=
  rfl

namespace Event

/-- The consumption that an event is, if it is one. -/
def consumption? :
    Event →
    Option Consumption
  | .consumed consumption => some consumption
  | _ => none

/-- The token of a meaning that is carried out. -/
def invocation? :
    Event →
    Option Token
  | .invoked token => some token
  | _ => none

/-- The tokens that are taken, in their order. -/
def consumptions
    (events : List Event) :
    List Consumption :=
  events.filterMap consumption?

/-- The tokens of the meanings that are carried out, in their order. -/
def invocations
    (events : List Event) :
    List Token :=
  events.filterMap invocation?

@[simp] theorem consumptions_consumed
    (consumption : Consumption)
    (events : List Event) :
    consumptions (.consumed consumption :: events) =
      consumption :: consumptions events :=
  rfl

@[simp] theorem consumptions_invoked
    (token : Token)
    (events : List Event) :
    consumptions (.invoked token :: events) = consumptions events :=
  rfl

@[simp] theorem invocations_consumed
    (consumption : Consumption)
    (events : List Event) :
    invocations (.consumed consumption :: events) = invocations events :=
  rfl

@[simp] theorem invocations_invoked
    (token : Token)
    (events : List Event) :
    invocations (.invoked token :: events) = token :: invocations events :=
  rfl

end Event

/-- The way of a stream along events. No level is missing before the floor. -/
inductive Path
    (floor : Nat) :
    TokenStream →
    List Event →
    TokenStream →
    Prop where
  /-- Nothing is passed. -/
  | finished
      (stream : TokenStream) :
      Path floor stream [] stream
  /-- A token is passed, and what it means is carried out. -/
  | meaning
      {stream finish : TokenStream}
      {token : Token}
      {later : List Token}
      {consumer : Consumer}
      {events : List Event}
      (shape : stream.rest = token :: later)
      (isMeant : consumer ≠ .symbol)
      (onwards : Path floor (stream.skip 1) events finish) :
      Path floor stream
        (.consumed ⟨consumer, stream.passed, some token⟩ ::
          .invoked token :: events)
        finish
  /-- A symbol is passed that belongs to a meaning. -/
  | symbol
      {stream finish : TokenStream}
      {token : Token}
      {later : List Token}
      {events : List Event}
      (shape : stream.rest = token :: later)
      (onwards : Path floor (stream.skip 1) events finish) :
      Path floor stream
        (.consumed ⟨.symbol, stream.passed, some token⟩ :: events)
        finish
  /-- A level is missing. -/
  | outOfLevels
      {stream finish : TokenStream}
      {events : List Event}
      (deep : floor ≤ stream.passed)
      (onwards : Path floor stream events finish) :
      Path floor stream (.outOfLevels :: events) finish

namespace Path

variable {floor : Nat}
variable {start middle finish : TokenStream}
variable {events first second : List Event}

/-- Paths one after another. -/
theorem trans
    (path : Path floor start first middle)
    (onwards : Path floor middle second finish) :
    Path floor start (first ++ second) finish := by
  induction path with
  | finished stream => exact onwards
  | meaning shape isMeant _ inductionHypothesis =>
      exact .meaning shape isMeant (inductionHypothesis onwards)
  | symbol shape _ inductionHypothesis =>
      exact .symbol shape (inductionHypothesis onwards)
  | outOfLevels deep _ inductionHypothesis =>
      exact .outOfLevels deep (inductionHypothesis onwards)

/-- A path passes the tokens it takes, and there are so many. -/
theorem skips
    (path : Path floor start events finish) :
    (Event.consumptions events).length ≤ start.rest.length ∧
      finish = start.skip (Event.consumptions events).length := by
  induction path with
  | finished stream => exact ⟨Nat.zero_le _, rfl⟩
  | meaning shape _ _ inductionHypothesis =>
      obtain ⟨within, arrives⟩ := inductionHypothesis
      rw [TokenStream.rest_skip, shape] at within
      rw [TokenStream.skip_skip, Nat.add_comm] at arrives
      exact ⟨by simpa [shape] using within, arrives⟩
  | symbol shape _ inductionHypothesis =>
      obtain ⟨within, arrives⟩ := inductionHypothesis
      rw [TokenStream.rest_skip, shape] at within
      rw [TokenStream.skip_skip, Nat.add_comm] at arrives
      exact ⟨by simpa [shape] using within, arrives⟩
  | outOfLevels _ _ inductionHypothesis => exact inductionHypothesis

/-- What a path takes are the next tokens of the stream. -/
theorem map_found
    (path : Path floor start events finish) :
    (Event.consumptions events).map Consumption.found =
      (start.rest.take (Event.consumptions events).length).map some := by
  induction path with
  | finished stream => rfl
  | meaning shape _ _ inductionHypothesis =>
      simpa [shape] using inductionHypothesis
  | symbol shape _ inductionHypothesis =>
      simpa [shape] using inductionHypothesis
  | outOfLevels _ _ inductionHypothesis => exact inductionHypothesis

/-- A path takes its tokens one after another, at every place once. -/
theorem map_cursor
    (path : Path floor start events finish) :
    (Event.consumptions events).map Consumption.cursor =
      List.range' start.passed (Event.consumptions events).length := by
  induction path with
  | finished stream => rfl
  | meaning _ _ _ inductionHypothesis =>
      simpa [List.range'_succ] using inductionHypothesis
  | symbol _ _ inductionHypothesis =>
      simpa [List.range'_succ] using inductionHypothesis
  | outOfLevels _ _ inductionHypothesis => exact inductionHypothesis

/-- Meanings are carried out for the tokens that are no symbols of other meanings. -/
theorem map_invocations
    (path : Path floor start events finish) :
    (Event.invocations events).map some =
      ((Event.consumptions events).filter
        fun consumption => consumption.consumer ≠ .symbol).map
          Consumption.found := by
  induction path with
  | finished stream => rfl
  | meaning _ isMeant _ inductionHypothesis =>
      simpa [isMeant] using inductionHypothesis
  | symbol _ _ inductionHypothesis => simpa using inductionHypothesis
  | outOfLevels _ _ inductionHypothesis => exact inductionHypothesis

/-- The rounds of the loop are never used up before the tokens. -/
theorem outOfRounds_not_mem
    (path : Path floor start events finish) :
    .outOfRounds ∉ events := by
  induction path with
  | finished stream => simp
  | meaning _ _ _ inductionHypothesis => simpa using inductionHypothesis
  | symbol _ _ inductionHypothesis => simpa using inductionHypothesis
  | outOfLevels _ _ inductionHypothesis => simpa using inductionHypothesis

/-- A path leads to the same place or further on. -/
theorem passed_le
    (path : Path floor start events finish) :
    start.passed ≤ finish.passed := by
  rw [path.skips.2]
  exact Nat.le_add_right _ _

/-- A level is only missing if the floor is reached. -/
theorem floor_le
    (path : Path floor start events finish)
    (missing : .outOfLevels ∈ events) :
    floor ≤ finish.passed := by
  induction path with
  | finished stream => simp at missing
  | meaning _ _ _ inductionHypothesis =>
      exact inductionHypothesis (by simpa using missing)
  | symbol _ _ inductionHypothesis =>
      exact inductionHypothesis (by simpa using missing)
  | outOfLevels deep onwards _ => exact Nat.le_trans deep onwards.passed_le

end Path

/-- What happens between two moments of a record is a path of its stream. -/
def Record.Travels
    (floor : Nat)
    (before after : Record) :
    Prop :=
  ∃ events,
    after.events = before.events ++ events ∧
      Path floor before.progress.stream events after.progress.stream

namespace Record.Travels

variable {α β : Type}
variable {floor : Nat}
variable {first middle last : Record}

/-- The stream stays, and nothing is put on record. -/
theorem ofUnmoved
    (nothingNew : last.events = first.events)
    (unmoved : last.progress.stream = first.progress.stream) :
    first.Travels floor last :=
  ⟨[], by simp [nothingNew], unmoved ▸ .finished _⟩

/-- A symbol is put on record and passed. -/
theorem ofSymbol
    {record : Record}
    {token : Token}
    {later : List Token}
    (shape : record.progress.stream.rest = token :: later) :
    record.Travels floor
      ⟨record.progress.skip 1,
        record.events ++
          [.consumed ⟨.symbol, record.progress.stream.passed, some token⟩]⟩ :=
  ⟨_, rfl, .symbol shape (.finished _)⟩

/-- A token and its meaning are put on record, and the token is passed. -/
theorem ofMeaning
    {record : Record}
    {token : Token}
    {later : List Token}
    {consumer : Consumer}
    (shape : record.progress.stream.rest = token :: later)
    (isMeant : consumer ≠ .symbol) :
    record.Travels floor
      ⟨record.progress.skip 1,
        record.events ++
          [.consumed ⟨consumer, record.progress.stream.passed, some token⟩] ++
          [.invoked token]⟩ :=
  ⟨_, List.append_assoc _ _ _, .meaning shape isMeant (.finished _)⟩

/-- Travelling on. -/
theorem trans
    (travels : first.Travels floor middle)
    (onwards : middle.Travels floor last) :
    first.Travels floor last := by
  obtain ⟨events, extended, path⟩ := travels
  obtain ⟨further, extendedFurther, pathOnwards⟩ := onwards
  exact
    ⟨events ++ further, by simp [extendedFurther, extended],
      path.trans pathOnwards⟩

/-- Travelling leads to the same place or further on. -/
theorem passed_le
    (travels : first.Travels floor last) :
    first.progress.stream.passed ≤ last.progress.stream.passed := by
  obtain ⟨events, _, path⟩ := travels
  exact path.passed_le

/-- No tokens are gained on the way. -/
theorem length_le
    (travels : first.Travels floor last) :
    last.progress.stream.rest.length ≤ first.progress.stream.rest.length := by
  obtain ⟨events, _, path⟩ := travels
  rw [path.skips.2]
  simp

/-- A step that looks at the record. -/
theorem get_bind
    {record : Record}
    {next : Record → Recorded β}
    (onwards :
      record.Travels floor (Record.ofResult ((next record).run record))) :
    record.Travels floor (Record.ofResult ((get >>= next).run record)) :=
  onwards

/-- A step that looks at the next token. -/
theorem peek?_bind
    {record : Record}
    {next : Option Token → Recorded β}
    (onwards :
      record.Travels floor
        (Record.ofResult
          ((next record.progress.stream.peek?).run record))) :
    record.Travels floor
      (Record.ofResult
        ((Recorded.ofStep Step.peek? >>= next).run record)) :=
  onwards

/-- A step whose first part travels also travels if what follows does. -/
theorem bind
    {record : Record}
    {step : Recorded α}
    {next : α → Recorded β}
    (travels : record.Travels floor (Record.ofResult (step.run record)))
    (onwards :
      ∀ value moved,
        record.Travels floor moved →
        moved.Travels floor (Record.ofResult ((next value).run moved))) :
    record.Travels floor
      (Record.ofResult ((step >>= next).run record)) := by
  rw [EStateM.run_bind]
  cases ran : step.run record with
  | ok value moved =>
      rw [ran] at travels
      exact travels.trans (onwards value moved travels)
  | error exit moved =>
      rw [ran] at travels
      exact travels

end Record.Travels

end Reckoner
