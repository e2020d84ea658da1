import Reckoner.Toml.Nest
import Reckoner.Toml.Quoting
import Reckoner.Toml.Scalar

namespace Reckoner.Toml

/-!
# Documents

A document is a sequence of lines: a header opens a table or adds one to an array of
tables, and a pair of a key and a value binds the key in the table opened last.

Values nest in arrays and inline tables; the stack bounds how deep. What an array holds
is read two frames further on, what an inline table holds three frames further on, as its
pairs are read one at a time.
-/

/-- The items of an array after its opening bracket or a comma. -/
def arrayItems
    (value : Reader Value) :
    Nat →
    Reader (List Value)
  | 0, _ => .error .invalid
  | rounds + 1, text => do
      match ← skipCommentsAndLines text.length text with
      | ']' :: rest => .ok ([], rest)
      | start =>
          let (item, afterItem) ← value start
          match ← skipCommentsAndLines afterItem.length afterItem with
          | ']' :: rest => .ok ([item], rest)
          | ',' :: rest =>
              let (items, following) ← arrayItems value rounds rest
              .ok (item :: items, following)
          | _ => .error .invalid

/-- A key and its value, with the equals sign between them. -/
def pair
    (value : Reader Value) :
    Reader (List String × Value) :=
  fun text => do
    let (parts, afterKey) ← key text
    match afterKey with
    | '=' :: rest =>
        let (bound, following) ← value (skipSpaces rest)
        .ok ((parts, bound), following)
    | _ => .error .invalid

/-- Whether a value is an array or a table, which nothing can be added to later. -/
def isContainer : Value → Bool
  | .array _ => true
  | .table _ => true
  | _ => false

/-- The table and the last name of a key. -/
def splitKey
    (parts : List String) :
    Path × String :=
  (parts.dropLast, parts.getLast?.getD "")

/-- Bind a pair in an inline table. -/
def bindInline
    (entries : Entries)
    (ledger : Ledger)
    (parts : List String)
    (value : Value) :
    Except Error Entries :=
  let (path, name) := splitKey parts
  if ledger.isSealed parts then
    .error .invalid
  else
    match entries.updateAt? false (Entries.bind? name value) path with
    | none => .error .invalid
    | some bound => .ok bound

/-- The pairs of an inline table after its opening brace or a comma. -/
def inlinePairs
    (value : Reader Value) :
    Nat →
    Entries →
    Ledger →
    Reader Entries
  | 0, _, _, _ => .error .invalid
  | rounds + 1, entries, ledger, text => do
      let ((parts, item), afterPair) ← pair value text
      let bound ← bindInline entries ledger parts item
      match skipSpaces afterPair with
      | '\x7d' :: rest => .ok (bound, rest)
      | ',' :: rest =>
          let noted := if isContainer item then ledger.noteSealed parts else ledger
          inlinePairs value rounds bound noted (skipSpaces rest)
      | _ => .error .invalid

/-- An inline table after its opening brace. -/
def inlineTable
    (value : Reader Value) :
    Reader Value :=
  fun text =>
    match skipSpaces text with
    | '\x7d' :: rest => .ok (.table [], rest)
    | start =>
        (inlinePairs value (start.length + 1) [] .empty start).map
          fun (entries, rest) => (.table entries, rest)

/-- A truth value, if one is at the front of a text. -/
def truth?
    (text : List Char) :
    Option (Value × List Char) :=
  match dropWord? ['t', 'r', 'u', 'e'] text,
      dropWord? ['f', 'a', 'l', 's', 'e'] text with
  | some rest, _ => some (.boolean true, rest)
  | none, some rest => some (.boolean false, rest)
  | none, none => none

/-- A value, read with a number of frames left. -/
def value
    (needed : List Char → Nat) :
    Nat →
    Reader Value
  | frames + 3, text =>
      if frames < needed text then
        .error .nesting
      else
        match text with
        | [] => .error .invalid
        | first :: rest =>
            if first = '"' ∨ first = '\'' then
              (quotedString text).map fun (characters, following) =>
                (.string (String.ofList characters), following)
            else if first = '[' then
              (arrayItems (value needed (frames + 1)) (rest.length + 1) rest).map
                fun (items, following) => (.array items, following)
            else if first = '\x7b' then
              inlineTable (value needed frames) rest
            else
              match truth? text with
              | some reading => .ok reading
              | none => momentOrNumber text
  | _, _ => .error .nesting

/-- A document that has been read in part. -/
structure Draft where
  entries : Entries
  ledger : Ledger
  /-- The table that the pairs that follow belong to. -/
  header : Path

/-- The draft of an empty document. -/
def Draft.empty : Draft :=
  ⟨[], .empty, []⟩

/-- The draft with what a change makes of its entries. -/
def Draft.changed
    (draft : Draft)
    (entries : Option Entries)
    (ledger : Ledger)
    (header : Path) :
    Except Error Draft :=
  match entries with
  | none => .error .invalid
  | some entries => .ok { draft with entries, ledger, header }

/-- Open the table of a header. -/
def Draft.openTable
    (draft : Draft)
    (path : Path) :
    Except Error Draft :=
  let ledger := draft.ledger.settle
  if ledger.isOpened path ∨ ledger.isSealed path then
    .error .invalid
  else
    draft.changed (draft.entries.updateAt? true some path) (ledger.noteOpened path) path

/-- Add a table to the array of a header. -/
def Draft.openItem
    (draft : Draft)
    (path : Path) :
    Except Error Draft :=
  let ledger := draft.ledger.settle
  let (outer, name) := splitKey path
  if ledger.isSealed path then
    .error .invalid
  else
    draft.changed (draft.entries.updateAt? true (Entries.appendTable? name) outer)
      ((ledger.forget path).noteOpened path) path

/-- The tables that a dotted key goes through. -/
def tablesOnWay
    (header path : Path) :
    List Path :=
  (List.range path.length).map fun count => header ++ path.take (count + 1)

/-- Bind a pair in the table opened last. -/
def Draft.bindPair
    (draft : Draft)
    (parts : List String)
    (value : Value) :
    Except Error Draft :=
  let (path, name) := splitKey parts
  let passed := tablesOnWay draft.header path
  let target := draft.header ++ path
  if passed.any draft.ledger.isOpened ∨ draft.ledger.isSealed target then
    .error .invalid
  else
    let postponed := passed.foldl Ledger.notePending draft.ledger
    let ledger :=
      if isContainer value then
        postponed.noteSealed (draft.header ++ parts)
      else
        postponed
    draft.changed (draft.entries.updateAt? true (Entries.bind? name value) target)
      ledger draft.header

/-- One header or pair at the front of a text, if the line is not empty. -/
def statement
    (stack : Stack)
    (draft : Draft) :
    Reader Draft
  | '[' :: '[' :: rest => do
      let (path, afterKey) ← key (skipSpaces rest)
      let opened ← draft.openItem path
      match afterKey with
      | ']' :: ']' :: following => .ok (opened, following)
      | _ => .error .invalid
  | '[' :: rest => do
      let (path, afterKey) ← key (skipSpaces rest)
      let opened ← draft.openTable path
      match afterKey with
      | ']' :: following => .ok (opened, following)
      | _ => .error .invalid
  | '#' :: rest => .ok (draft, '#' :: rest)
  | text => do
      let ((parts, bound), following) ← pair (value stack.needed stack.frames) text
      let changed ← draft.bindPair parts bound
      .ok (changed, following)

/-- The rest of a document, line by line. -/
def lines
    (stack : Stack) :
    Nat →
    Draft →
    List Char →
    Except Error Draft
  | 0, draft, _ => .ok draft
  | rounds + 1, draft, text => do
      match skipSpaces text with
      | [] => .ok draft
      | '\n' :: rest => lines stack rounds draft rest
      | start =>
          let (changed, afterStatement) ← statement stack draft start
          match ← skipComment (skipSpaces afterStatement) with
          | [] => .ok changed
          | '\n' :: rest => lines stack rounds changed rest
          | _ => .error .invalid

/-- A text in which every pair of carriage return and line feed is a line feed. -/
def normalLineEnds : List Char → List Char
  | '\r' :: '\n' :: rest => '\n' :: normalLineEnds rest
  | character :: rest => character :: normalLineEnds rest
  | [] => []

/-- The table that a document denotes. -/
def parse
    (stack : Stack)
    (document : String) :
    Except Error Entries :=
  let text := normalLineEnds document.toList
  (lines stack (text.length + 1) .empty text).map Draft.entries

end Reckoner.Toml
