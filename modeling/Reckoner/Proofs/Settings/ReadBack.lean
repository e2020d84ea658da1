import Reckoner.CommandLine.Session
import Reckoner.Proofs.Evaluation.Recall

namespace Reckoner

/-!
# Reading the variables of settings

Settings may bind every name that is read as one identifier, and a session starts with
these variables. Reading a text looks up the identifier in it, without the separators
around it. A variable whose name has none is therefore read back, but one whose name has
separators around it is out of reach: its name stands for another variable or for none.
-/

/-- All variables have names that are read as one identifier. -/
def Variables.NamesIdentifiers
    (presets : Variables) :
    Prop :=
  ∀ name ∈ presets.keys, isIdentifier name = true

instance
    (presets : Variables) :
    Decidable presets.NamesIdentifiers :=
  inferInstanceAs (Decidable (∀ name ∈ presets.keys, isIdentifier name = true))

/-- The variables that settings are given have such names. -/
theorem Settings.namesIdentifiers_of_readVariables
    {value : Toml.Value}
    {presets : Variables}
    (accepted : readVariables value = .ok presets) :
    presets.NamesIdentifiers := by
  unfold readVariables at accepted
  split at accepted
  case h_1 entries =>
    cases numbers : readNumbers entries with
    | error complaints =>
        rw [numbers] at accepted
        cases accepted
    | ok bound =>
        rw [numbers] at accepted
        simp only [Except.bind] at accepted
        split at accepted
        case h_1 allNamed =>
          cases accepted
          intro name isKey
          obtain ⟨number, found⟩ :=
            Option.isSome_iff_exists.1 (Table.isSome_get?_iff.2 isKey)
          have member := Table.mem_of_get?_ofList found
          simpa using List.find?_eq_none.1 allNamed _ member
        case h_2 => cases accepted
  case h_2 => cases accepted

namespace CommandLine.Session

/-- The name in a text that is read as one identifier. -/
def nameIn
    (text : String) :
    String :=
  String.ofList (Text.trimBoth CharacterClass.separates text.toList)

/-- The variables of the settings win over those that every calculator has. -/
theorem get?_start
    (settings : Settings)
    (name : String) :
    (start settings).values.get? name =
      (settings.presets.get? name).or (Variables.builtin.get? name) :=
  Table.get?_insertAll_entries _ _ _

/--
A variable of the settings is read back by its name exactly if the name in that text is
bound to the same number, in particular if nothing surrounds the name. Otherwise another
variable is read, or none is defined.
-/
theorem readsBack_iff
    (draws : Draws)
    {settings : Settings}
    (accepted : settings.presets.NamesIdentifiers)
    {name : String}
    {number : Number}
    (bound : settings.presets.get? name = some number) :
    let session := start settings
    let report := session.report ⟨name, draws⟩
    let found := session.values.get? (nameIn name)
    report.environment = session.environment draws ∧
      (report.outcome = .value (some number) ↔ found = some number) ∧
      (nameIn name = name → report.outcome = .value (some number)) ∧
      (∀ other, found = some other → report.outcome = .value (some other)) ∧
      (found = none →
        report.outcome =
          .failed
            ⟨.undefinedVariable (nameIn name),
              some (name.toList.takeWhile CharacterClass.separates).length⟩) := by
  intro session report found
  have isKey : name ∈ settings.presets.keys := by
    rw [← Table.isSome_get?_iff, bound]
    rfl
  have result : report.result = _ :=
    Expression.result_evaluate_identifier (session.environment draws)
      (tokenize_of_isIdentifier (accepted name isKey))
  have sameFound :
      (session.environment draws).values.get?
          (String.ofList
            (Text.trimBoth CharacterClass.separates name.toList)) = found :=
    rfl
  rw [sameFound] at result
  have reads :
      ∀ other, found = some other → report.outcome = .value (some other) := by
    intro other isFound
    rw [isFound] at result
    exact (Report.eq_of_result result).1
  have undefined :
      found = none →
      report.outcome =
        .failed
          ⟨.undefinedVariable (nameIn name),
            some (name.toList.takeWhile CharacterClass.separates).length⟩ := by
    intro notFound
    rw [notFound] at result
    exact (Report.eq_of_result result).1
  refine ⟨?_, ⟨?_, reads number⟩, ?_, reads, undefined⟩
  · cases isFound : found with
    | some other =>
        rw [isFound] at result
        exact (Report.eq_of_result result).2
    | none =>
        rw [isFound] at result
        exact (Report.eq_of_result result).2
  · intro outcome
    cases isFound : found with
    | some other =>
        rw [reads other isFound] at outcome
        cases outcome
        rfl
    | none =>
        rw [undefined isFound] at outcome
        cases outcome
  · intro same
    refine reads number ?_
    change session.values.get? (nameIn name) = some number
    rw [same, get?_start, bound]
    rfl

/-- Of two names that differ by a separator only one is read back. -/
theorem readsBack_iff_shadowed :
    let settings : Settings :=
      {
        Settings.standard with
        presets := Table.ofList [("x", .int 5), (" x", .int 7)]
      }
    settings.presets.NamesIdentifiers ∧
      settings.presets.get? " x" = some (.int 7) ∧
      ((start settings).report ⟨" x", fun _ => 0.5⟩).outcome = .value (some (.int 5)) := by
  intro settings
  have accepted : settings.presets.NamesIdentifiers := by decide
  have bound : settings.presets.get? " x" = some (.int 7) := rfl
  obtain ⟨_, _, _, reads, _⟩ := readsBack_iff (fun _ => 0.5) accepted bound
  exact ⟨accepted, bound, reads (.int 5) rfl⟩

/-- A variable that the settings accept, and that cannot be read back. -/
theorem undefined_of_separatorInName :
    ∃ settings,
      Settings.ofTable
          [("variables", .table [(" x", .integer 5)])] = .ok settings ∧
        settings.presets.get? " x" = some (.int 5) ∧
        ((start settings).report ⟨" x", fun _ => 0.5⟩).outcome =
          .failed ⟨.undefinedVariable "x", some 1⟩ := by
  refine ⟨{ Settings.standard with presets := Table.ofList [(" x", .int 5)] },
    rfl, rfl, ?_⟩
  have tokenized : tokenize " x" = .ok [⟨.identifier, "x", 1⟩] := rfl
  exact
    (Report.eq_of_result
      (Expression.result_evaluate_identifier _ tokenized)).1

end CommandLine.Session

end Reckoner
