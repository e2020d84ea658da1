namespace Reckoner

/-!
# Tables

A table binds each of finitely many keys to one value and remembers the order in
which its keys were first bound. Variables, functions and grammar slots are all
kept in tables.

The lemmas say what each operation does to the view `get?`: an insertion is
visible at its own key and nowhere else.
-/

/-- Entries in the order their keys were first bound; no key occurs twice. -/
structure Table (κ α : Type) where
  entries : List (κ × α)
  distinct : (entries.map Prod.fst).Nodup

namespace Table

variable {κ α β : Type}

/-- The table that binds nothing. -/
def empty : Table κ α :=
  ⟨[], by simp⟩

instance : Inhabited (Table κ α) :=
  ⟨empty⟩

/-- The keys in the order they were first bound. -/
def keys
    (table : Table κ α) :
    List κ :=
  table.entries.map Prod.fst

/-- The number of keys. -/
def size
    (table : Table κ α) :
    Nat :=
  table.entries.length

/-- The table of the same keys with all values changed. -/
def map
    (change : α → β)
    (table : Table κ α) :
    Table κ β where
  entries := table.entries.map fun entry => (entry.1, change entry.2)
  distinct := by
    rw [List.map_map]
    exact table.distinct

variable [DecidableEq κ]

/-- The value found for a key in a list of entries. -/
def lookup
    (key : κ) :
    List (κ × α) → Option α
  | [] => none
  | entry :: rest =>
      if entry.1 = key then some entry.2 else lookup key rest

/-- The value bound to a key. -/
def get?
    (table : Table κ α)
    (key : κ) :
    Option α :=
  lookup key table.entries

/-- Whether a key is bound. -/
def contains
    (table : Table κ α)
    (key : κ) :
    Bool :=
  (table.get? key).isSome

/-- Put a value at its key, in the key's old place or else at the end. -/
def place
    (key : κ)
    (value : α) :
    List (κ × α) → List (κ × α)
  | [] => [(key, value)]
  | entry :: rest =>
      if entry.1 = key then
        (key, value) :: rest
      else
        entry :: place key value rest

/-- Placing an entry binds its key and leaves the set of other keys alone. -/
theorem mem_keys_place
    {key other : κ}
    {value : α}
    {entries : List (κ × α)} :
    other ∈ (place key value entries).map Prod.fst ↔
      other = key ∨ other ∈ entries.map Prod.fst := by
  induction entries with
  | nil => simp [place]
  | cons entry rest inductionHypothesis =>
      by_cases same : entry.1 = key
      · simp [place, same]
      · simp only [place, same, if_false, List.map_cons, List.mem_cons,
          inductionHypothesis]
        constructor
        · rintro (isHead | isKey | inRest)
          · exact Or.inr (Or.inl isHead)
          · exact Or.inl isKey
          · exact Or.inr (Or.inr inRest)
        · rintro (isKey | isHead | inRest)
          · exact Or.inr (Or.inl isKey)
          · exact Or.inl isHead
          · exact Or.inr (Or.inr inRest)

/-- Placing an entry keeps the keys distinct. -/
theorem nodup_place
    (key : κ)
    (value : α)
    {entries : List (κ × α)}
    (distinct : (entries.map Prod.fst).Nodup) :
    ((place key value entries).map Prod.fst).Nodup := by
  induction entries with
  | nil => simp [place]
  | cons entry rest inductionHypothesis =>
      simp only [List.map_cons, List.nodup_cons] at distinct
      by_cases same : entry.1 = key
      · simp only [place, same, if_true, List.map_cons, List.nodup_cons]
        exact ⟨same ▸ distinct.1, distinct.2⟩
      · simp only [place, same, if_false, List.map_cons, List.nodup_cons]
        refine ⟨?_, inductionHypothesis distinct.2⟩
        rw [mem_keys_place]
        rintro (isKey | inRest)
        · exact same isKey
        · exact distinct.1 inRest

/-- Bind a key, replacing the value it may have had. -/
def insert
    (table : Table κ α)
    (key : κ)
    (value : α) :
    Table κ α :=
  ⟨place key value table.entries, nodup_place key value table.distinct⟩

/-- Bind the entries of a list one after another; later entries win. -/
def insertAll
    (table : Table κ α)
    (entries : List (κ × α)) :
    Table κ α :=
  entries.foldl (fun grown entry => grown.insert entry.1 entry.2) table

/-- The table of a list of entries; later entries win. -/
def ofList
    (entries : List (κ × α)) :
    Table κ α :=
  empty.insertAll entries

/-- Nothing is bound in the empty table. -/
@[simp] theorem get?_empty
    (key : κ) :
    (empty : Table κ α).get? key = none :=
  rfl

/-- A placed entry is found at its key and hides nothing else. -/
theorem lookup_place
    (key other : κ)
    (value : α)
    (entries : List (κ × α)) :
    lookup other (place key value entries) =
      if key = other then some value else lookup other entries := by
  induction entries with
  | nil => simp [place, lookup]
  | cons entry rest inductionHypothesis =>
      by_cases same : entry.1 = key
      · by_cases asked : key = other
        · simp [place, same, lookup, asked]
        · simp [place, same, lookup, asked]
      · by_cases asked : key = other
        · subst asked
          simpa [place, same, lookup] using inductionHypothesis
        · simp [place, same, lookup, inductionHypothesis, asked]

/-- An insertion is visible at its own key and nowhere else. -/
@[simp] theorem get?_insert
    (table : Table κ α)
    (key other : κ)
    (value : α) :
    (table.insert key value).get? other =
      if key = other then some value else table.get? other :=
  lookup_place key other value table.entries

/-- A key is found exactly when it is one of the keys. -/
theorem isSome_get?_iff
    {table : Table κ α}
    {key : κ} :
    (table.get? key).isSome = true ↔ key ∈ table.keys := by
  unfold get? keys
  generalize table.entries = entries
  induction entries with
  | nil => simp [lookup]
  | cons entry rest inductionHypothesis =>
      by_cases same : entry.1 = key
      · simp [lookup, same]
      · have keyDiffers : ¬ key = entry.1 := fun isKey => same isKey.symm
        simp [lookup, same, inductionHypothesis, keyDiffers]

/-- Among changed entries the changed value of each key is found. -/
theorem lookup_map
    (change : α → β)
    (key : κ)
    (entries : List (κ × α)) :
    lookup key (entries.map fun entry => (entry.1, change entry.2)) =
      (lookup key entries).map change := by
  induction entries with
  | nil => rfl
  | cons entry rest inductionHypothesis =>
      by_cases same : entry.1 = key
      · simp [lookup, same]
      · simp [lookup, same, inductionHypothesis]

/-- A changed table binds the keys to the changed values. -/
theorem get?_map
    (change : α → β)
    (table : Table κ α)
    (key : κ) :
    (table.map change).get? key = (table.get? key).map change :=
  lookup_map change key table.entries

/-- What is found after binding entries was bound by one of them or before. -/
theorem mem_of_get?_insertAll
    {table : Table κ α}
    {entries : List (κ × α)}
    {key : κ}
    {value : α}
    (found : (table.insertAll entries).get? key = some value) :
    (key, value) ∈ entries ∨ table.get? key = some value := by
  induction entries generalizing table with
  | nil => exact Or.inr found
  | cons entry rest inductionHypothesis =>
      have grown :
          ((table.insert entry.1 entry.2).insertAll rest).get? key =
            some value :=
        found
      rcases inductionHypothesis grown with inRest | inGrown
      · exact Or.inl (List.mem_cons_of_mem entry inRest)
      · rw [get?_insert] at inGrown
        split at inGrown
        case isTrue same =>
          cases inGrown
          subst same
          exact Or.inl List.mem_cons_self
        case isFalse => exact Or.inr inGrown

/-- What is found in the table of a list is one of its entries. -/
theorem mem_of_get?_ofList
    {entries : List (κ × α)}
    {key : κ}
    {value : α}
    (found : (ofList entries).get? key = some value) :
    (key, value) ∈ entries := by
  rcases mem_of_get?_insertAll found with member | impossible
  · exact member
  · cases impossible

/-- Two lists of entries find what the first one finds, or else the second. -/
theorem lookup_append
    (key : κ)
    (first second : List (κ × α)) :
    lookup key (first ++ second) =
      (lookup key first).or (lookup key second) := by
  induction first with
  | nil => rfl
  | cons entry rest inductionHypothesis =>
      by_cases same : entry.1 = key
      · simp [lookup, same]
      · simp [lookup, same, inductionHypothesis]

/-- Of the entries of a key the last one that is bound is found. -/
theorem get?_insertAll
    (table : Table κ α)
    (entries : List (κ × α))
    (key : κ) :
    (table.insertAll entries).get? key =
      (lookup key entries.reverse).or (table.get? key) := by
  induction entries generalizing table with
  | nil => rfl
  | cons entry rest inductionHypothesis =>
      have later :
          ((table.insert entry.1 entry.2).insertAll rest).get? key =
            (lookup key rest.reverse).or
              ((table.insert entry.1 entry.2).get? key) :=
        inductionHypothesis _
      rw [List.reverse_cons, lookup_append, Option.or_assoc]
      refine later.trans ?_
      by_cases same : entry.1 = key
      · simp [lookup, same]
      · simp [lookup, same]

/-- A value that is found for a key is bound to it by an entry. -/
theorem mem_of_lookup
    {entries : List (κ × α)}
    {key : κ}
    {value : α}
    (found : lookup key entries = some value) :
    (key, value) ∈ entries := by
  induction entries with
  | nil => cases found
  | cons entry rest inductionHypothesis =>
      rw [lookup] at found
      split at found
      case isTrue same =>
        cases found
        subst same
        exact List.mem_cons_self
      case isFalse => exact List.mem_cons_of_mem entry (inductionHypothesis found)

/-- No entry binds a key for which nothing is found. -/
theorem not_mem_of_lookup
    {entries : List (κ × α)}
    {key : κ}
    (missing : lookup key entries = none)
    (value : α) :
    (key, value) ∉ entries := by
  induction entries with
  | nil => exact List.not_mem_nil
  | cons entry rest inductionHypothesis =>
      rw [lookup] at missing
      split at missing
      case isTrue => cases missing
      case isFalse differs =>
        rintro (_ | ⟨_, inRest⟩)
        · exact differs rfl
        · exact inductionHypothesis missing inRest

/-- Entries bind a key to the same value in every table, or leave it alone in all. -/
theorem get?_insertAll_bound_or_kept
    (entries : List (κ × α))
    (key : κ) :
    (∃ value,
      (key, value) ∈ entries ∧
        ∀ table : Table κ α,
          (table.insertAll entries).get? key = some value) ∨
      (∀ value, (key, value) ∉ entries) ∧
        ∀ table : Table κ α,
          (table.insertAll entries).get? key = table.get? key := by
  cases found : lookup key entries.reverse with
  | some value =>
      refine Or.inl ⟨value, List.mem_reverse.1 (mem_of_lookup found), ?_⟩
      intro table
      rw [get?_insertAll, found]
      rfl
  | none =>
      refine Or.inr ⟨fun value member => ?_, fun table => ?_⟩
      · exact
          not_mem_of_lookup found value (List.mem_reverse.2 member)
      · rw [get?_insertAll, found]
        rfl

/-- Entries with distinct keys are all found. -/
theorem lookup_eq_some_iff
    {entries : List (κ × α)}
    (distinct : (entries.map Prod.fst).Nodup)
    {key : κ}
    {value : α} :
    lookup key entries = some value ↔ (key, value) ∈ entries := by
  induction entries with
  | nil => simp [lookup]
  | cons entry rest inductionHypothesis =>
      rcases entry with ⟨other, bound⟩
      simp only [List.map_cons, List.nodup_cons] at distinct
      rw [lookup, List.mem_cons, Prod.mk.injEq]
      split
      case isTrue same =>
        subst same
        have absent : (other, value) ∉ rest := fun member =>
          distinct.1 (List.mem_map_of_mem member)
        simp [absent, eq_comm]
      case isFalse differs =>
        rw [inductionHypothesis distinct.2]
        simp [Ne.symm differs]

/-- The entries of another table win over those that were bound before. -/
theorem get?_insertAll_entries
    (table other : Table κ α)
    (key : κ) :
    (table.insertAll other.entries).get? key =
      (other.get? key).or (table.get? key) := by
  have distinct : (other.entries.reverse.map Prod.fst).Nodup := by
    rw [List.map_reverse]
    exact List.pairwise_reverse.2 (other.distinct.imp Ne.symm)
  have found : lookup key other.entries.reverse = other.get? key := by
    ext value
    rw [lookup_eq_some_iff distinct, List.mem_reverse, get?,
      lookup_eq_some_iff other.distinct]
  rw [get?_insertAll, found]

end Table

end Reckoner
