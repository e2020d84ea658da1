import Reckoner.Settings.File

namespace Reckoner

/-!
# Paths and trees of files

A path is written with its parts separated by slashes. Empty parts and single points
mean nothing; two points lead back to the directory above.

A tree holds the files below one directory, from which paths without a slash at their
start lead on. A path may leave the tree. Of what lies there only the directories above
the tree and those that every system has are known.
-/

/-- The parts of a path that mean something. -/
def pathParts
    (path : String) :
    List String :=
  (path.splitOn "/").filter fun part => part ≠ "" ∧ part ≠ "."

/-- Whether a path starts at the root of the system. -/
def isAbsolute
    (path : String) :
    Bool :=
  path.toList.head? = some '/'

/-- A path without the parts that mean nothing. -/
def normalPath
    (path : String) :
    String :=
  let parts := "/".intercalate (pathParts path)
  if isAbsolute path then
    "/" ++ parts
  else if parts = "" then
    "."
  else
    parts

/-- The bytes that a path is shorter than. -/
def pathLimit : Nat :=
  4096

/-- The bytes that a part of a path has at most. -/
def nameLimit : Nat :=
  255

/-- The directories at the root of every system. -/
def systemDirectories : List String :=
  ["bin", "boot", "dev", "etc", "home", "lib", "media", "mnt", "opt", "proc", "root",
    "run", "sbin", "srv", "sys", "tmp", "usr", "var"]

/-- A directory that a path has led to. -/
inductive Place where
  /-- A directory of the tree, by its parts. -/
  | inside (parts : List String)
  /-- Some directory above the tree. -/
  | above
  /-- A directory of the system, by its parts. -/
  | system (parts : List String)
  deriving Repr, DecidableEq

namespace Place

/-- The directory above a place. -/
def parent : Place → Place
  | inside [] => above
  | inside parts => inside parts.dropLast
  | above => above
  | system parts => system parts.dropLast

/-- The directory of a name in a place. -/
def child
    (name : String) :
    Place → Place
  | inside parts => inside (parts ++ [name])
  | above => above
  | system parts => system (parts ++ [name])

end Place

/-- Files by the parts of their paths. -/
abbrev FileTree :=
  List (List String × ByteArray)

namespace FileTree

/-- The tree of files with the given paths. -/
def ofFiles
    (files : List (String × ByteArray)) :
    FileTree :=
  files.map fun file => (pathParts file.1, file.2)

/-- What a name in a place stands for. -/
def entry
    (tree : FileTree)
    (name : String) :
    Place → FileContent
  | .inside parts =>
      let here := parts ++ [name]
      match tree.find? fun file => file.1 = here with
      | some file => .bytes file.2
      | none =>
          if tree.any fun file => here.isPrefixOf file.1 then
            .directory
          else
            .absent
  | .above => .absent
  | .system [] =>
      if name ∈ systemDirectories then .directory else .absent
  | .system _ => .absent

/-- What parts of a path lead to from a place. -/
def resolve
    (tree : FileTree) :
    Place →
    List String →
    FileContent
  | _, [] => .directory
  | place, name :: rest =>
      if name = ".." then
        resolve tree place.parent rest
      else if name.utf8ByteSize > nameLimit then
        .tooLong
      else
        match tree.entry name place, rest with
        | .directory, rest => resolve tree (place.child name) rest
        | .bytes content, [] => .bytes content
        | _, _ => .absent

/-- What a path leads to; no path with a null character leads anywhere. -/
def content
    (tree : FileTree)
    (path : String) :
    FileContent :=
  if '\x00' ∈ path.toList then
    .absent
  else if (normalPath path).utf8ByteSize ≥ pathLimit then
    .tooLong
  else
    resolve tree (if isAbsolute path then .system [] else .inside [])
      (pathParts path)

end FileTree

end Reckoner
