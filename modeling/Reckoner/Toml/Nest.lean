import Reckoner.Toml.Reader
import Reckoner.Toml.Value

namespace Reckoner.Toml

/-!
# Building nested tables

A path leads from the root of a document through tables to a table. Tables on the
way are made where nothing is bound yet; at an array of tables the path goes on in
the last item.

A `Ledger` notes which paths have been declared. A path that was opened by a header
or left behind by a dotted key cannot be opened again, and what is bound to an array
or an inline table cannot be reached into.
-/

/-- The names of nested tables, outermost first. -/
abbrev Path :=
  List String

namespace Entries

/-- Bind a key in its old place, or else at the end. -/
def put
    (key : String)
    (value : Value) :
    Entries →
    Entries
  | [] => [(key, value)]
  | entry :: rest =>
      if entry.1 = key then
        (key, value) :: rest
      else
        entry :: put key value rest

/-- Whether a key is bound. -/
def binds
    (entries : Entries)
    (key : String) :
    Bool :=
  (entries.get? key).isSome

/-- Bind a new key; a bound key cannot be bound again. -/
def bind?
    (key : String)
    (value : Value)
    (entries : Entries) :
    Option Entries :=
  if entries.binds key then none else some (entries ++ [(key, value)])

/-- Append an empty table to the array of a key, which may have to be made. -/
def appendTable?
    (key : String)
    (entries : Entries) :
    Option Entries :=
  match entries.get? key with
  | none => some (entries ++ [(key, .array [.table []])])
  | some (.array items) => some (entries.put key (.array (items ++ [.table []])))
  | some _ => none

/--
Change the table at the end of a path.

Inside an inline table the path may not go through arrays.
-/
def updateAt?
    (throughArrays : Bool)
    (change : Entries → Option Entries) :
    Path →
    Entries →
    Option Entries
  | [], entries => change entries
  | key :: path, entries =>
      match entries.get? key with
      | none =>
          (updateAt? throughArrays change path []).map fun made =>
            entries ++ [(key, .table made)]
      | some (.table inner) =>
          (updateAt? throughArrays change path inner).map fun changed =>
            entries.put key (.table changed)
      | some (.array items) =>
          match throughArrays, items.getLast? with
          | true, some (.table inner) =>
              (updateAt? throughArrays change path inner).map fun changed =>
                entries.put key
                  (.array (items.dropLast ++ [.table changed]))
          | _, _ => none
      | some _ => none

end Entries

/-- Whether one path is another one or leads to it. -/
def isOnWayTo
    (path other : Path) :
    Bool :=
  path.isPrefixOf other

/-- What has been declared so far. -/
structure Ledger where
  /-- Paths that no header may open again and no dotted key may go through. -/
  opened : List Path
  /-- Paths bound to an array or an inline table. -/
  sealed : List Path
  /-- Paths that will count as opened from the next header on. -/
  pending : List Path
  deriving Repr

namespace Ledger

/-- The ledger of an empty document. -/
def empty : Ledger :=
  ⟨[], [], []⟩

/-- Whether a path has been opened. -/
def isOpened
    (ledger : Ledger)
    (path : Path) :
    Bool :=
  ledger.opened.contains path

/-- Whether a path leads into an array or an inline table. -/
def isSealed
    (ledger : Ledger)
    (path : Path) :
    Bool :=
  ledger.sealed.any (isOnWayTo · path)

/-- Note that a path is opened. -/
def noteOpened
    (ledger : Ledger)
    (path : Path) :
    Ledger :=
  { ledger with opened := path :: ledger.opened }

/-- Note that a path is bound to an array or an inline table. -/
def noteSealed
    (ledger : Ledger)
    (path : Path) :
    Ledger :=
  { ledger with sealed := path :: ledger.sealed }

/-- Note that a path will count as opened from the next header on. -/
def notePending
    (ledger : Ledger)
    (path : Path) :
    Ledger :=
  { ledger with pending := path :: ledger.pending }

/-- Let the pending paths count as opened. -/
def settle
    (ledger : Ledger) :
    Ledger :=
  {
    ledger with
    opened := ledger.pending ++ ledger.opened
    pending := []
  }

/-- Forget what is noted of a path and of all it leads to. -/
def forget
    (ledger : Ledger)
    (path : Path) :
    Ledger :=
  {
    ledger with
    opened := ledger.opened.filter fun other => !isOnWayTo path other
    sealed := ledger.sealed.filter fun other => !isOnWayTo path other
  }

end Ledger

end Reckoner.Toml
